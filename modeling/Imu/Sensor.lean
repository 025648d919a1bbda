/-!
The chip families an inertial unit can turn out to be, what identifying one yields,
and the ways an operation on it can fail. The register addresses and identity bytes
are the ones every supported family shares.
-/

namespace Imu

/-- The suffix names the transport; a family without one is reached over I2C. -/
inductive Family where
  | unknown
  | mpu3050
  | mpu60x0
  | mpu60x0Spi
  | mpu65xxI2c
  | mpu65xxSpi
  | mpu9250Spi
  | icm20608Spi
  | icm20689Spi
  deriving DecidableEq

namespace Family

def all : List Family :=
  [unknown, mpu3050, mpu60x0, mpu60x0Spi, mpu65xxI2c, mpu65xxSpi, mpu9250Spi, icm20608Spi,
    icm20689Spi]

def usesSpi : Family → Bool
  | mpu60x0Spi | mpu65xxSpi | mpu9250Spi | icm20608Spi | icm20689Spi => true
  | unknown | mpu3050 | mpu60x0 | mpu65xxI2c => false

def name : Family → String
  | unknown => "Unknown"
  | mpu3050 => "Mpu3050"
  | mpu60x0 => "Mpu60x0"
  | mpu60x0Spi => "Mpu60x0Spi"
  | mpu65xxI2c => "Mpu65xxI2c"
  | mpu65xxSpi => "Mpu65xxSpi"
  | mpu9250Spi => "Mpu9250Spi"
  | icm20608Spi => "Icm20608Spi"
  | icm20689Spi => "Icm20689Spi"

theorem mem_all (family : Family) : family ∈ all := by
  cases family <;> decide

end Family

/-- Early parts report half of the accelerometer scale. -/
inductive Resolution where
  | half
  | full
  deriving DecidableEq

def Resolution.name : Resolution → String
  | half => "Half"
  | full => "Full"

/-- Only an `mpu60x0` on I2C has a resolution class. -/
structure Identification where
  family : Family
  resolution : Option Resolution
  deriving DecidableEq

def Identification.undetected : Identification := ⟨.unknown, none⟩

/-- `noAck` is the only one worth a retry; `unsupported` is also escalated. -/
inductive Failure where
  | noAck
  | undetected
  | unsupported
  | listFull
  deriving DecidableEq

namespace Failure

/-- The code under which a board's log files the failure. -/
def name : Failure → String
  | noAck => "NoAck"
  | undetected => "NotDetected"
  | unsupported => "Incompatible"
  | listFull => "ProbeListFull"

def message : Failure → String
  | noAck => "bus transaction not acknowledged"
  | undetected => "no supported MPU detected"
  | unsupported => "unsupported MPU revision"
  | listFull => "probe list is full"

end Failure

/-- What is escalated to the board's failure handler instead of being left to the caller. -/
inductive Alarm where
  | accelUnsupported
  deriving DecidableEq

def Alarm.name : Alarm → String
  | accelUnsupported => "AccIncompatible"

namespace Register

/-- The oldest family keeps its identity here. -/
def legacyWhoAmI : UInt8 := 0x00
def accelOffsets : UInt8 := 0x06
def productId : UInt8 := 0x0C
def legacyGyroOut : UInt8 := 0x1D
def accelOut : UInt8 := 0x3B
def gyroOut : UInt8 := 0x43
def whoAmI : UInt8 := 0x75

end Register

namespace Identity

/-- Bits 1 to 6 of an identity byte are significant. -/
def mask : UInt8 := 0x7E

/-- Shared by two families: which one is meant depends on the register it was read from. -/
def mpuX0x0 : UInt8 := 0x68

def mpu6500 : UInt8 := 0x70

def masked (byte : UInt8) : UInt8 := byte &&& mask

end Identity

end Imu
