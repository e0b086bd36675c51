import Endap.State.EventDispatch
import Endap.State.SnapshotSaves
import Endap.Rs485.ErrorDetection
import Endap.Rs485.SlaveCodec
import Endap.Rs485.ReceiveRing
import Endap.Rs485.MasterProtocol
import Endap.Ladder.SelfTest
import Endap.Failsafe.ApplyAll
import Endap.Cluster.Readiness
import Endap.Cluster.TransportChange
import Endap.Cluster.Failover
import Endap.Io.Pins
import Endap.Io.BindingReboot
import Endap.Io.Actuation
import Endap.Io.Image
import Endap.Kernel.Phases
import Endap.Kernel.Watchdog
import Endap.Registry.Atomic
import Endap.Registry.ClaimFirst
import Endap.Automation.Latch
import Endap.Automation.Reboot
import Endap.Automation.Bystanders
import Endap.Automation.Delay
import Endap.Network.Recovery
import Endap.Pve.HistoryWords
import Endap.Pve.Transparency
import Endap.V3.Keys
import Endap.V3.Restore
import Endap.V3.Stream
import Endap.Installation.Resources
import Endap.Installation.Manual
import Endap.Installation.Migration
import Endap.Installation.Refusals
import Endap.Http.ProxyRequest
import Endap.Http.ProxyResponse
import Endap.Http.JsonMemory
import Endap.Http.AutomationList
import Endap.Http.FormDecoding
import Endap.Http.InstallationSave
import Endap.Http.OperatorText
import Endap.Auth.Rejections
import Endap.Io.Reservations
import Endap.Pve.Scaling
import Endap.Automation.EventValue
import Endap.Rs485.BusAddress
import Endap.Ladder.Blocks
import Endap.Ladder.OffDelay
import Endap.Ladder.CountDown
import Endap.Network.Wifi
import Endap.Kernel.Boot
import Endap.Http.WebSocket
import Endap.Cluster.Membership
import Endap.State.DamagedRecords
import Endap.Cluster.Bus
import Endap.Network.CaptiveDns
import Endap.V3.Discovery
