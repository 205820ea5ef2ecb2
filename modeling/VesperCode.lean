import VesperCode.Core
