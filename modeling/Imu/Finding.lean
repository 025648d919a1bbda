import Imu.Binding

/-!
Identification of the chip. The primary transport is asked first; only if it does not
answer are the chip drivers asked, and the first claim wins. Three families answer on
the primary transport, told apart by two identity registers, and one of them is refined
by its silicon revision. An acknowledgement lost while classifying the revision ends the
attempt with `noAck`.
-/

namespace Imu

/-- A chip can answer without being recognised: then there is a binding but no sensor. -/
structure Finding where
  binding : Option Binding
  identification : Identification
  deriving DecidableEq

namespace Binding

variable {β : Type} [Bus β]

def productClass (binding : Binding) : Traced Event β (Except Failure Resolution) := do
  let id ← Event.burst 1 binding.read Register.productId
  if id.ack then pure (ProductId.mk id.byte).resolution else pure (.error .noAck)

def resolutionClass (binding : Binding) : Traced Event β (Except Failure Resolution) := do
  let offsets ← Event.burst 6 binding.read Register.accelOffsets
  if offsets.ack then
    let code := OffsetCode.ofBurst (Burst.ofBuffer offsets.buffer)
    if code.value = 0 then binding.productClass else pure code.resolution
  else pure (.error .noAck)

end Binding

namespace Finding

variable {β : Type} [Bus β]

def nothing : Finding := ⟨none, .undetected⟩

def claimedBy (candidate : Candidate) : Finding :=
  ⟨some candidate.binding, ⟨candidate.family, none⟩⟩

def legacy : Finding := ⟨some (.primary Register.legacyGyroOut), ⟨.mpu3050, none⟩⟩

def modern (identification : Identification) : Finding :=
  ⟨some (.primary Register.gyroOut), identification⟩

def ofCandidates : List Candidate → Traced Event β Finding
  | [] => pure nothing
  | candidate :: rest => do
    let claimed ← Event.probeVia candidate.routine
    if claimed then pure (claimedBy candidate) else ofCandidates rest

/-- The families left once the oldest is excluded, by what `whoAmI` read. -/
def ofIdentity (whoAmI : UInt8) : Traced Event β (Except Failure Finding) :=
  if Identity.masked whoAmI = Identity.mpuX0x0 then do
    let resolution ← (Binding.primary Register.gyroOut).resolutionClass
    pure (resolution.map fun found => modern ⟨.mpu60x0, some found⟩)
  else if Identity.masked whoAmI = Identity.mpu6500 then
    pure (.ok (modern ⟨.mpu65xxI2c, none⟩))
  else pure (.ok (modern .undetected))

/-- The oldest family is asked for first; a chip that does not answer there is taken for newer. -/
def onPrimary (whoAmI : UInt8) : Traced Event β (Except Failure Finding) := do
  let identity ← Event.burst 1 .primary Register.legacyWhoAmI
  if identity.ack ∧ Identity.masked identity.byte = Identity.mpuX0x0 then pure (.ok legacy)
  else ofIdentity whoAmI

def search (settleDelay : UInt32) (candidates : CandidateList) :
    Traced Event β (Except Failure Finding) := do
  Event.wait settleDelay
  let identity ← Event.burst 1 .primary Register.whoAmI
  if identity.ack then onPrimary identity.byte
  else do
    let found ← ofCandidates candidates.entries
    pure (.ok found)

end Finding

end Imu
