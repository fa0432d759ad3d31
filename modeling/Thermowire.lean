import Thermowire.Bench
import Thermowire.Main
import Thermowire.Proofs.Course
import Thermowire.Proofs.Plan
import Thermowire.Proofs.Session
import Thermowire.Proofs.Master
import Thermowire.Proofs.Passage
import Thermowire.Proofs.Direction
import Thermowire.Proofs.Grip
import Thermowire.Proofs.Service
import Thermowire.Proofs.Line
import Thermowire.Proofs.Cycle
import Thermowire.Proofs.Replay
import Thermowire.Proofs.Wiring
import Thermowire.Proofs.OpenDrain
import Thermowire.Proofs.Halt
import Thermowire.Proofs.FailStop
import Thermowire.Proofs.Span
import Thermowire.Proofs.Gate
import Thermowire.Proofs.Sections
import Thermowire.Proofs.Waits
import Thermowire.Proofs.Forgetting
import Thermowire.Proofs.Transport
import Thermowire.Proofs.Phases
import Thermowire.Proofs.Reset
import Thermowire.Proofs.Queues
import Thermowire.Proofs.Misuse
import Thermowire.Proofs.Waveform
import Thermowire.Proofs.Recording
import Thermowire.Proofs.Slots
import Thermowire.Proofs.Leftover
import Thermowire.Proofs.Loopback
import Thermowire.Proofs.Codec
import Thermowire.Proofs.Readings
import Thermowire.Proofs.Host.Sleeps
import Thermowire.Proofs.Host.Extension
import Thermowire.Proofs.Host.Conversion
import Thermowire.Proofs.Host.Cycles
import Thermowire.Proofs.Host.Pause
import Thermowire.Proofs.Host.CommandLine
import Thermowire.Proofs.Host.Options
