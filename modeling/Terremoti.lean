import Terremoti.Seismometer
import Terremoti.SeismoStats
import Terremoti.SeismoEvents
import Terremoti.NTP
import Terremoti.NtpReplies
import Terremoti.NtpRecover
import Terremoti.UnixTime
import Terremoti.Config
import Terremoti.ConfigReload
import Terremoti.PowerLoss
import Terremoti.ServerConfig
import Terremoti.HTTPClient
import Terremoti.HttpHead
import Terremoti.HttpBody
import Terremoti.CommandInterface
import Terremoti.Queries
import Terremoti.InfoReply
import Terremoti.Dissector
import Terremoti.CmdStorm
import Terremoti.CmdPosition
import Terremoti.Core
import Terremoti.Outage
import Terremoti.Watchdog
import Terremoti.Logging
import Terremoti.LogRotation
import Terremoti.Descriptors
import Terremoti.DescriptorRuns
import Terremoti.ConfigText
import Terremoti.HostUrl
import Terremoti.HttpRequest
import Terremoti.BaseUrl
import Terremoti.Syslog
import Terremoti.SystemTime
import Terremoti.HeadSafety
import Terremoti.ConfigRead
import Terremoti.Lib.Window
import Terremoti.Trace
import Terremoti.TraceRuns
import Terremoti.Lib.OnesComplement
import Terremoti.NetworkManager
import Terremoti.Checksum
import Terremoti.PingWait
import Terremoti.SystemCalls
import Terremoti.ADXL345Accelerometer
import Terremoti.BodyLength
import Terremoti.CmdFrames
import Terremoti.HttpLines
import Terremoti.NtpEra
import Terremoti.SeismoDefined
import Terremoti.Setup
import Terremoti.ConfigStored
import Terremoti.Lives
import Terremoti.HttpSent
import Terremoti.GeneralFormat
import Terremoti.Alerts
import Terremoti.Lib.Records
import Terremoti.TraceUpload
import Terremoti.Outliers
import Terremoti.ConfigDelivered
import Terremoti.Pacing
import Terremoti.WatchdogReboot
import Terremoti.DissectorPosition
import Terremoti.PositionReported
import Terremoti.CrashReports
