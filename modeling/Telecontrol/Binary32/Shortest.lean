import Telecontrol.Binary32.Basic

/-!
# The shortest decimal text of a single precision number

Among the decimals that read back to the number, the one with the fewest digits is written; of two
with equally few the nearer one, and on an exact tie the larger one. Notation is always positional.
A decimal reads back when it lies in the interval halfway to the neighbouring numbers; the ends
belong to the interval when the mantissa is even.
-/

namespace Telecontrol.Binary32

/-- A number and the interval of reals that round to it, all as multiples of one unit
`numerator / denominator`. -/
structure Rounding where
  value : Nat
  low : Nat
  high : Nat
  closed : Bool
  numerator : Nat
  denominator : Nat

/-- In units of a quarter of the last binary place. Just above a power of two the next lower number
is only half as far away. -/
def rounding (x : Binary32) (a : Magnitude) : Rounding where
  value := 4 * a.mantissa
  low := if x.fractionField = 0 ∧ 1 < x.exponentField then 4 * a.mantissa - 1
    else 4 * a.mantissa - 2
  high := 4 * a.mantissa + 2
  closed := a.mantissa % 2 = 0
  numerator := Nat.pow 2 (a.exponent - 2).toNat
  denominator := Nat.pow 2 (2 - a.exponent).toNat

/-- A decimal `digits * 10 ^ place`. -/
structure Decimal where
  digits : Nat
  place : Int
deriving DecidableEq, Repr

namespace Rounding

/-- A decimal and a multiple of the unit over one denominator, in this order. -/
def compared (r : Rounding) (d : Decimal) (n : Nat) : Nat × Nat :=
  (d.digits * Nat.pow 10 d.place.toNat * r.denominator,
    n * r.numerator * Nat.pow 10 (-d.place).toNat)

def contains (r : Rounding) (d : Decimal) : Bool :=
  let (a, low) := r.compared d r.low
  let (b, high) := r.compared d r.high
  if r.closed then low ≤ a && b ≤ high else low < a && b < high

/-- The last decimal of a place that does not exceed the number. -/
def below (r : Rounding) (place : Int) : Decimal :=
  let numerator := r.value * r.numerator * Nat.pow 10 (-place).toNat
  ⟨numerator / (r.denominator * Nat.pow 10 place.toNat), place⟩

/-- Whether the number is at least as far from `d` as from the next decimal of the same place. -/
def nearerAbove (r : Rounding) (d : Decimal) : Bool :=
  let (a, v) := r.compared d r.value
  let (b, _) := r.compared ⟨d.digits + 1, d.place⟩ r.value
  b - v ≤ v - a

/-- The decimal of the given place that reads back, if there is one. -/
def atPlace? (r : Rounding) (place : Int) : Option Decimal :=
  let lower := r.below place
  let upper : Decimal := ⟨lower.digits + 1, place⟩
  match r.contains lower, r.contains upper with
  | true, true => some (if r.nearerAbove lower then upper else lower)
  | true, false => some lower
  | false, true => some upper
  | false, false => none

/-- Searches the places downwards, so that the first hit has the fewest digits. -/
def search (r : Rounding) : (places : Nat) → (place : Int) → Decimal
  | 0, place => r.below place
  | places + 1, place => (r.atPlace? place).getD (r.search places (place - 1))

/-- The numbers of this format lie below `10 ^ 39` and need no digit beyond the 60th place after
the point to be told apart. -/
def shortest (r : Rounding) : Decimal := r.search 100 39

end Rounding

/-- Positional notation without an exponent. -/
def Decimal.text (d : Decimal) : String :=
  let digits := (Nat.toDigits 10 d.digits)
  let fraction := (-d.place).toNat
  if fraction = 0 then
    String.ofList (digits ++ List.replicate d.place.toNat '0')
  else
    let padded := List.replicate (fraction + 1 - digits.length) '0' ++ digits
    let whole := padded.length - fraction
    String.ofList (padded.take whole ++ '.' :: padded.drop whole)

def text (x : Binary32) : String :=
  let sign := if x.isNegative then "-" else ""
  match x.magnitude? with
  | none => if x.isNaN then "NaN" else sign ++ "inf"
  | some a =>
    if a.mantissa = 0 then sign ++ "0" else sign ++ (x.rounding a).shortest.text

end Telecontrol.Binary32
