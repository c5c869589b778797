import Trackpad.Keyboard.Snapshot
import Trackpad.Keyboard.NoStuckKey
import Trackpad.Keyboard.Spacing
import Trackpad.Keyboard.Retry
import Trackpad.Channel
import Trackpad.HostWatchdogs
import Trackpad.Phone.Spec
import Trackpad.Phone.Replay
import Trackpad.OrderedSpec
import Trackpad.Phone.Repairs
import Trackpad.Phone.Retained
import Trackpad.Keyboard.Delay
import Trackpad.Keyboard.Slide
import Trackpad.Keyboard.Admission
import Trackpad.Keyboard.Resume
import Trackpad.Legacy.Restart
import Trackpad.NetworkManager.Edits
import Trackpad.RoutePolicy.RoundTrip
import Trackpad.RoutePolicy.Registry
import Trackpad.RoutePolicy.Journal
import Trackpad.RoutePolicy.Coverage
import Trackpad.Phone.Wire
import Trackpad.TouchLayout
import Trackpad.Phone.TouchCapture
import Trackpad.Lossless
import Trackpad.Phone.PressureFilter
import Trackpad.Phone.ThumbTransform
import Trackpad.Sas
import Trackpad.InjectorSpec
import Trackpad.HostAccounts
import Trackpad.Phone.Watchdog
import Trackpad.Keyboard.Drain
import Trackpad.Credentials.Interrupted
import Trackpad.Phone.DiagnosticRecorder
import Trackpad.Phone.Attribution
import Trackpad.Keyboard.Capacity
import Trackpad.Diagnostics.Quantile
import Trackpad.Diagnostics.Queue
import Trackpad.Legacy.Datagram
import Trackpad.DiagnosticReport
import Trackpad.Pairing.Approval
import Trackpad.Launcher.Approval
import Trackpad.Reconnect.Repair
import Trackpad.Legacy.Sessions
import Trackpad.Keystrokes
