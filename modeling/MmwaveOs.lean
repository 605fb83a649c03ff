import MmwaveOs.Protocol
import MmwaveOs.Driver.State
import MmwaveOs.Parser.ParseByte
import MmwaveOs.Parser.Reference
import MmwaveOs.Parser.Refinement
import MmwaveOs.Parser.Resync
import MmwaveOs.Driver.DataFrame
import MmwaveOs.Driver.FrameBuilder
import MmwaveOs.Driver.Command
import MmwaveOs.Driver.Ioctl
import MmwaveOs.Driver.Request
import MmwaveOs.Driver.Read
import MmwaveOs.Hactl.Format
import MmwaveOs.Hactl.Report
import MmwaveOs.Hactl.Json
import MmwaveOs.Hactl.ConfigFile
import MmwaveOs.Config.Store
import MmwaveOs.Config.KeyValue
import MmwaveOs.Config.Shared
import MmwaveOs.Hactl.ReportLoop
import MmwaveOs.Mmwave.Output
import MmwaveOs.Hactl.System
import MmwaveOs.Mmwave.Options
