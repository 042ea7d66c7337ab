import XbsLink.Lib.BigEndian
import XbsLink.Lib.Word
import XbsLink.Lib.Sha256
import XbsLink.Lib.Hmac
import XbsLink.Protocol.Codec
import XbsLink.Protocol.Framing
import XbsLink.Protocol.RoundTrip
import XbsLink.Protocol.Receive
import XbsLink.Protocol.Reflection
import XbsLink.Protocol.Delivery
import XbsLink.Lib.Go
import XbsLink.Protocol.Grammar
import XbsLink.Lib.Trace
import XbsLink.Lib.Window
import XbsLink.Transport.Addr
import XbsLink.Bridge.Run
import XbsLink.Bridge.Steps
import XbsLink.Bridge.Shutdown
import XbsLink.Bridge.SendOrder
import XbsLink.Bridge.Channel
import XbsLink.Transport.Handshake
import XbsLink.Transport.Authentication
import XbsLink.Bridge.Sessions
import XbsLink.Bridge.Inbound
import XbsLink.Bridge.Reconnect
import XbsLink.Bridge.Liveness
import XbsLink.Bridge.Events
import XbsLink.Bridge.Stats
import XbsLink.Events.JSONLine
import XbsLink.Capture.Interfaces
import XbsLink.Config.XboxMAC
import XbsLink.Bridge.FormatNumber
import XbsLink.Discovery.Discover
import XbsLink.Bridge.FrameOrder
import XbsLink.Lib.Flag
import XbsLink.Lib.Strconv
import XbsLink.Main.CommandLine
import XbsLink.Bridge.StatsMonitor
