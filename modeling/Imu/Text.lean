import Imu.Gyro
import Imu.Latch

/-!
One-line texts of the records a board may want to log: a name, then the fields in order
between braces. The names are the ones that readers of the log look for.
-/

namespace Imu

namespace Text

def flag : Bool → String
  | true => "true"
  | false => "false"

def optional {α : Type} (describe : α → String) : Option α → String
  | none => "None"
  | some value => "Some(" ++ describe value ++ ")"

def byte (value : UInt8) : String := toString value.toNat

def count (value : UInt32) : String := toString value.toNat

def signed (value : Int16) : String := toString value.toInt

def sequence (values : List String) : String := "[" ++ String.intercalate ", " values ++ "]"

def record (name : String) (fields : List (String × String)) : String :=
  name ++ " \x7b " ++
    String.intercalate ", " (fields.map fun field => field.1 ++ ": " ++ field.2) ++ " \x7d"

end Text

open Text

def Identification.describe (identification : Identification) : String :=
  record "DetectionResult"
    [("sensor", identification.family.name),
      ("resolution", optional Resolution.name identification.resolution)]

def Settings.describe (settings : Settings) : String :=
  record "MpuConfig"
    [("settle_delay_ms", count settings.settleDelay), ("exti_priority", byte settings.priority),
      ("data_ready_edge", settings.trigger.name),
      ("require_idle_line", flag settings.requireIdleLine)]

/-- Of the optional routines only the presence is shown. -/
def Binding.describe (binding : Binding) : String :=
  record "DispatchTable"
    [("slow_read", flag binding.slowRead.isSome),
      ("verified_write", flag binding.verifiedWrite.isSome), ("reset", flag binding.reset.isSome),
      ("gyro_read_register", byte binding.gyroRegister)]

def EdgeRecord.describe (timing : EdgeRecord) : String :=
  record "EdgeTiming"
    [("interval_us", count timing.interval), ("handler_us", count timing.handler),
      ("last_edge_us", optional count timing.lastEdge)]

def OffsetCode.describe (code : OffsetCode) : String :=
  record "RevisionCode"
    [(".0", byte code.value), ("xa_bit", flag code.xBit), ("ya_bit", flag code.yBit),
      ("za_bit", flag code.zBit)]

def ProductId.describe (id : ProductId) : String :=
  record "ProductId"
    [(".0", byte id.value), ("family", byte id.family), ("revision", byte id.revision)]

def Sample.describe (sample : Sample) : String :=
  sequence [signed sample.x, signed sample.y, signed sample.z]

def Accel.describe (accel : Accel) : String :=
  record "AccelDevice" [("adc_raw", accel.raw.describe)]

end Imu
