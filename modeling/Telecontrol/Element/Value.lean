import Telecontrol.Fault

/-!
# Measured values

Step positions, normalized, scaled and floating point values, bit strings, packed status and
counter readings. A normalized value counts steps of `2 ^ -15`; a number is taken to the nearest
step with halves away from zero, in exact arithmetic.
-/

namespace Telecontrol

/-- A value is refused when it lies outside the range of its quantity. -/
def Quantity.check (what : Quantity) (value low high : Int) : Except Fault Unit :=
  if value < low ∨ high < value then .error (.domain (.outside what value low high)) else .ok ()

/-- Value with transient state (VTI): a signed number of seven bits and a flag. -/
structure StepPosition where
  octet : UInt8
deriving DecidableEq, Repr

namespace StepPosition

def make (value : Int) (transient : Bool) : Except Fault StepPosition := do
  Quantity.stepPosition.check value (-64) 63
  return ⟨UInt8.ofNat ((value % 128).toNat + (if transient then 128 else 0))⟩

def value (p : StepPosition) : Int :=
  let low := p.octet.toNat % 128
  if low < 64 then low else (low : Int) - 128

def isTransient (p : StepPosition) : Bool := p.octet &&& 0x80 != 0

end StepPosition

/-- Normalized value (NVA): steps of `2 ^ -15`. -/
structure Normalized where
  steps : Int16
deriving DecidableEq, Repr

namespace Normalized

/-- The number of steps nearest to a number, with the sign taken apart. -/
def stepsOf (a : Binary32.Magnitude) : Nat :=
  let (numerator, denominator) := a.scaled 15
  Binary32.roundHalfUp numerator denominator

/-- Whether `limit` steps are not exceeded. -/
def within (a : Binary32.Magnitude) (limit : Nat) : Bool :=
  let (numerator, denominator) := a.scaled 15
  numerator ≤ limit * denominator

/-- Accepts `-1` up to one step below `1`. -/
def ofBinary32 (x : Binary32) : Except Fault Normalized :=
  match x.magnitude? with
  | none => .error (.domain (.normalizedRange x))
  | some a =>
    if within a (if x.isNegative then 32768 else 32767) then
      .ok ⟨Int16.ofInt (if x.isNegative then -(stepsOf a : Int) else stepsOf a)⟩
    else .error (.domain (.normalizedRange x))

def value (v : Normalized) : Binary32 :=
  .ofFraction (v.steps < 0) v.steps.toInt.natAbs (-15)

end Normalized

/-- Scaled value (SVA). -/
structure Scaled where
  value : Int16
deriving DecidableEq, Repr

/-- Bit string of 32 bits (BSI). -/
structure Bitstring where
  bits : UInt32
deriving DecidableEq, Repr

/-- Bits from 32 on are clear. -/
def Bitstring.bit (s : Bitstring) (index : Nat) : Bool := s.bits.toNat.testBit index

/-- Status with change detection (SCD): status bits in the low word, changes in the high word. -/
structure StatusChange where
  word : UInt32
deriving DecidableEq, Repr

namespace StatusChange

def make (status changed : UInt16) : StatusChange :=
  ⟨UInt32.ofNat (status.toNat + 65536 * changed.toNat)⟩

def status (s : StatusChange) : UInt16 := UInt16.ofNat s.word.toNat

def changed (s : StatusChange) : UInt16 := UInt16.ofNat (s.word.toNat / 65536)

end StatusChange

/-- Binary counter reading (BCR): a counter, and an octet of sequence number and flags. -/
structure CounterReading where
  counter : Int32
  flags : UInt8
deriving DecidableEq, Repr

namespace CounterReading

def make (counter : Int32) (sequence : UInt8) (carry adjusted invalid : Bool) :
    Except Fault CounterReading := do
  Quantity.counterSequence.check sequence.toNat 0 31
  return ⟨counter, sequence ||| (if carry then 0x20 else 0) ||| (if adjusted then 0x40 else 0)
    ||| (if invalid then 0x80 else 0)⟩

def sequence (r : CounterReading) : UInt8 := r.flags &&& 0x1F

def hasCarry (r : CounterReading) : Bool := r.flags &&& 0x20 != 0

def isAdjusted (r : CounterReading) : Bool := r.flags &&& 0x40 != 0

def isInvalid (r : CounterReading) : Bool := r.flags &&& 0x80 != 0

end CounterReading

end Telecontrol
