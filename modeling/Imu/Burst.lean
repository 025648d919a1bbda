import Imu.Sensor

/-!
What registers tell. A raw sample is three signed 16-bit readings, delivered as a burst of
six bytes: X, Y and Z in that order, the high byte of each first.

The silicon revision of an `mpu60x0` decides its resolution class. Later parts spell a
three-bit code in the low bits of the accelerometer offset burst; early parts leave those
bits empty and carry the revision in the low nibble of the product id. The two tables have
opposite defaults: an unlisted code is refused, an unlisted nibble is full scale.
-/

namespace Imu

/-- Six consecutive registers, two for each axis. -/
structure Burst where
  xHigh : UInt8
  xLow : UInt8
  yHigh : UInt8
  yLow : UInt8
  zHigh : UInt8
  zLow : UInt8
  deriving DecidableEq

def Burst.ofBuffer (buffer : Vector UInt8 6) : Burst :=
  ⟨buffer[0], buffer[1], buffer[2], buffer[3], buffer[4], buffer[5]⟩

structure Sample where
  x : Int16
  y : Int16
  z : Int16
  deriving DecidableEq

namespace Sample

def zero : Sample := ⟨0, 0, 0⟩

def word (high low : UInt8) : Int16 := (high.toUInt16 <<< 8 ||| low.toUInt16).toInt16

theorem toInt_word (high low : UInt8) :
    (word high low).toInt = ((256 * high.toNat + low.toNat : Nat) : Int).bmod 65536 := by
  have small := low.toNat_lt
  have bounded := high.toNat_lt
  have joined : (high.toUInt16 <<< 8 ||| low.toUInt16).toNat = 256 * high.toNat + low.toNat := by
    have shifted : high.toNat <<< 8 % 2 ^ 16 = high.toNat <<< 8 := by
      rw [Nat.shiftLeft_eq]; omega
    simp only [UInt16.toNat_or, UInt16.toNat_shiftLeft, UInt8.toNat_toUInt16, UInt16.toNat_ofNat]
    rw [show 8 % 2 ^ 16 % 16 = 8 from rfl, shifted, ← Nat.shiftLeft_add_eq_or_of_lt small]
    rw [Nat.shiftLeft_eq]; omega
  show ((high.toUInt16 <<< 8 ||| low.toUInt16).toBitVec).toInt = _
  rw [BitVec.toInt_eq_toNat_bmod]
  exact congrArg (fun n : Nat => Int.bmod n 65536) joined

def ofBurst (burst : Burst) : Sample :=
  ⟨word burst.xHigh burst.xLow, word burst.yHigh burst.yLow, word burst.zHigh burst.zLow⟩

end Sample

structure OffsetCode where
  value : UInt8
  deriving DecidableEq

namespace OffsetCode

def bit (mask : UInt8) (code : OffsetCode) : Bool := code.value &&& mask != 0

def setBit (mask : UInt8) (on : Bool) (code : OffsetCode) : OffsetCode :=
  ⟨if on then code.value ||| mask else code.value &&& ~~~mask⟩

def xBit : OffsetCode → Bool := bit 1
def yBit : OffsetCode → Bool := bit 2
def zBit : OffsetCode → Bool := bit 4

def setX : Bool → OffsetCode → OffsetCode := setBit 1
def setY : Bool → OffsetCode → OffsetCode := setBit 2
def setZ : Bool → OffsetCode → OffsetCode := setBit 4

def lowBit (byte : UInt8) : Bool := byte &&& 1 != 0

/-- Each axis contributes the low bit of its low byte. -/
def ofBurst (burst : Burst) : OffsetCode :=
  setZ (lowBit burst.zLow) (setY (lowBit burst.yLow) (setX (lowBit burst.xLow) ⟨0⟩))

def resolution (code : OffsetCode) : Except Failure Resolution :=
  if code.value = 1 then .ok .half
  else if code.value = 2 ∨ code.value = 3 ∨ code.value = 7 then .ok .full
  else .error .unsupported

theorem value_setZ_setY_setX (x y z : Bool) :
    (setZ z (setY y (setX x ⟨0⟩))).value =
      (if x then 1 else 0) + (if y then 2 else 0) + (if z then 4 else 0) := by
  cases x <;> cases y <;> cases z <;> rfl

theorem value_ofBurst (burst : Burst) :
    (ofBurst burst).value =
      (if lowBit burst.xLow then 1 else 0) + (if lowBit burst.yLow then 2 else 0) +
        (if lowBit burst.zLow then 4 else 0) :=
  value_setZ_setY_setX _ _ _

end OffsetCode

structure ProductId where
  value : UInt8
  deriving DecidableEq

namespace ProductId

def family (id : ProductId) : UInt8 := id.value >>> 4
def revision (id : ProductId) : UInt8 := id.value &&& 0x0F

def resolution (id : ProductId) : Except Failure Resolution :=
  if id.revision = 0 then .error .unsupported
  else if id.revision = 4 then .ok .half
  else .ok .full

end ProductId

end Imu
