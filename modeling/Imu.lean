import Imu.Binding
import Imu.Burst
import Imu.Bus
import Imu.Event
import Imu.Finding
import Imu.Gyro
import Imu.Indexed
import Imu.Latch
import Imu.Proofs.Arming
import Imu.Proofs.Callbacks
import Imu.Proofs.Classification
import Imu.Proofs.Decision
import Imu.Proofs.Escalation
import Imu.Proofs.Evidence
import Imu.Proofs.Footprint
import Imu.Proofs.Frame
import Imu.Proofs.Gate
import Imu.Proofs.Interleaving
import Imu.Proofs.LineUse
import Imu.Proofs.LostAnswer
import Imu.Proofs.Moves
import Imu.Proofs.Outcome
import Imu.Proofs.Pending
import Imu.Proofs.Priority
import Imu.Proofs.Recording
import Imu.Proofs.Requests
import Imu.Proofs.Retry
import Imu.Proofs.Run
import Imu.Proofs.Samples
import Imu.Proofs.Search
import Imu.Proofs.Settling
import Imu.Proofs.Shape
import Imu.Proofs.Sharing
import Imu.Proofs.Signalling
import Imu.Proofs.Steps
import Imu.Proofs.Timing
import Imu.Proofs.Transport
import Imu.Proofs.TrueTime
import Imu.Proofs.Unit
import Imu.Sensor
import Imu.Simulator.Board
import Imu.Simulator.Callback
import Imu.System
import Imu.Text
import Imu.Traced
