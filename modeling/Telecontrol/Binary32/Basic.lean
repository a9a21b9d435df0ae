/-!
# Single precision numbers as exact fractions

A short floating point number is kept as its 32-bit pattern, so that every payload survives.
`magnitude?` reads a finite pattern as `mantissa * 2 ^ exponent`, an exact fraction on which all
further arithmetic of the library is done; `ofFraction` is the pattern of a small binary fraction.
-/

namespace Telecontrol

/-- The bit pattern of a single precision number. -/
structure Binary32 where
  bits : UInt32
deriving DecidableEq, Repr

namespace Binary32

def isNegative (x : Binary32) : Bool := 0x80000000 ≤ x.bits.toNat

def exponentField (x : Binary32) : Nat := x.bits.toNat / 0x800000 % 256

def fractionField (x : Binary32) : Nat := x.bits.toNat % 0x800000

/-- The absolute value `mantissa * 2 ^ exponent` of a finite number. -/
structure Magnitude where
  mantissa : Nat
  exponent : Int
deriving DecidableEq, Repr

/-- The exact absolute value; none for infinities and for what is not a number. -/
def magnitude? (x : Binary32) : Option Magnitude :=
  if x.exponentField = 255 then none
  else if x.exponentField = 0 then some ⟨x.fractionField, -149⟩
  else some ⟨0x800000 + x.fractionField, (x.exponentField : Int) - 150⟩

def isNaN (x : Binary32) : Bool := x.exponentField = 255 ∧ x.fractionField ≠ 0

namespace Magnitude

/-- The number times `2 ^ shift` as a fraction: numerator and denominator. -/
def scaled (a : Magnitude) (shift : Int) : Nat × Nat :=
  (a.mantissa * Nat.pow 2 (a.exponent + shift).toNat, Nat.pow 2 (-(a.exponent + shift)).toNat)

end Magnitude

/-- The integer nearest to a fraction, halves away from zero. -/
def roundHalfUp (numerator denominator : Nat) : Nat :=
  (2 * numerator + denominator) / (2 * denominator)

/-- The pattern of `n * 2 ^ exponent` for `n < 2 ^ 24`, negated if asked for. Exact wherever the
result is a normal number. -/
def ofFraction (negative : Bool) (n : Nat) (exponent : Int) : Binary32 :=
  if n = 0 then ⟨0⟩
  else
    let top := Nat.log2 n
    let sign := if negative then 0x80000000 else 0
    let field := (127 + (top : Int) + exponent).toNat
    ⟨UInt32.ofNat (sign + field * 0x800000 + (n * Nat.pow 2 (23 - top) - 0x800000))⟩

end Binary32

end Telecontrol
