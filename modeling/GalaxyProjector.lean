import GalaxyProjector.Bench.Event
import GalaxyProjector.Bench.Network
import GalaxyProjector.Bench.Report
import GalaxyProjector.Bench.Run
import GalaxyProjector.Bench.Scenario
import GalaxyProjector.Bench.Session
import GalaxyProjector.Bench.World
import GalaxyProjector.Build.Dotenv
import GalaxyProjector.Build.Script
import GalaxyProjector.Bytes
import GalaxyProjector.Channel
import GalaxyProjector.Channels
import GalaxyProjector.Colour
import GalaxyProjector.Command
import GalaxyProjector.Device.Boot
import GalaxyProjector.Device.Output
import GalaxyProjector.Device.Server
import GalaxyProjector.Device.Switches
import GalaxyProjector.Device.Wifi
import GalaxyProjector.Error
import GalaxyProjector.Machine
import GalaxyProjector.Net.Address
import GalaxyProjector.Net.Dhcp
import GalaxyProjector.Net.Interface
import GalaxyProjector.Net.Rtt
import GalaxyProjector.Net.Segment
import GalaxyProjector.Net.Stack
import GalaxyProjector.Net.Tcp
import GalaxyProjector.Output
import GalaxyProjector.Preset
import GalaxyProjector.Projector
import GalaxyProjector.Proofs.Announce
import GalaxyProjector.Proofs.Calls
import GalaxyProjector.Proofs.Debounce
import GalaxyProjector.Proofs.Decode
import GalaxyProjector.Proofs.Faults
import GalaxyProjector.Proofs.Frame
import GalaxyProjector.Proofs.Initial
import GalaxyProjector.Proofs.Publish
import GalaxyProjector.Proofs.Refinement
import GalaxyProjector.Proofs.Render
import GalaxyProjector.Proofs.SnapshotText
import GalaxyProjector.Proofs.Steps
import GalaxyProjector.Proofs.Transitions
import GalaxyProjector.Proofs.Traps
import GalaxyProjector.Proofs.WaveShape
import GalaxyProjector.Proofs.Writes
import GalaxyProjector.Rig
import GalaxyProjector.Snapshot
import GalaxyProjector.Switch
import GalaxyProjector.Tasking.Broadcast
import GalaxyProjector.Tasking.Mailbox
import GalaxyProjector.Tasking.Task
import GalaxyProjector.Tasking.Timers
import GalaxyProjector.Text.Unicode
import GalaxyProjector.Wave
import GalaxyProjector.Web.Http
import GalaxyProjector.Web.Page
import GalaxyProjector.Web.Path
import GalaxyProjector.Web.Sha1
import GalaxyProjector.Web.Socket
import GalaxyProjector.Wire.Json
import GalaxyProjector.Wire.Serde
