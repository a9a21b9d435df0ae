/-!
# Octet strings

Everything on the wire is a list of octets. Numbers of more than one octet travel least significant
octet first: `littleEndian` writes a field of a given width, `valueOf` reads one back. The two undo
each other on fields of the right width (`valueOf_littleEndian`, `littleEndian_valueOf`), and
`capacity` counts the numbers that a field can hold (`valueOf_lt`). What stands behind a field does
not matter (`eq_littleEndian_append_iff`).
-/

namespace Telecontrol

abbrev Octets := List UInt8

namespace Octets

/-- How many numbers a field of a width in octets can hold. -/
def capacity : (width : Nat) → Nat
  | 0 => 1
  | width + 1 => 256 * capacity width

/-- The `width` low octets of a number, least significant first. -/
def littleEndian : (width n : Nat) → Octets
  | 0, _ => []
  | width + 1, n => UInt8.ofNat n :: littleEndian width (n / 256)

/-- The number whose octets are given, least significant first. -/
def valueOf : Octets → Nat
  | [] => 0
  | b :: bs => b.toNat + 256 * valueOf bs

/-- The octet of a number at a position, counted from the least significant one. -/
def digit (n position : Nat) : UInt8 := UInt8.ofNat (n / capacity position)

theorem capacity_pos (width : Nat) : 0 < capacity width := by
  induction width with
  | zero => exact Nat.one_pos
  | succ width ih => exact Nat.mul_pos (by decide) ih

@[simp] theorem length_littleEndian (width n : Nat) : (littleEndian width n).length = width := by
  induction width generalizing n with
  | zero => rfl
  | succ width ih => simp [littleEndian, ih]

theorem valueOf_lt (bs : Octets) : valueOf bs < capacity bs.length := by
  induction bs with
  | nil => simp [valueOf, capacity]
  | cons b bs ih =>
    have hb : b.toNat < 256 := b.toNat_lt
    rw [valueOf, List.length_cons, capacity]
    omega

theorem valueOf_littleEndian (width n : Nat) :
    valueOf (littleEndian width n) = n % capacity width := by
  induction width generalizing n with
  | zero => simp [littleEndian, valueOf, capacity, Nat.mod_one]
  | succ width ih =>
    have hsplit : n % (256 * capacity width) = n % 256 + 256 * (n / 256 % capacity width) :=
      Nat.mod_mul
    rw [littleEndian, valueOf, ih, UInt8.toNat_ofNat', capacity, hsplit]

theorem littleEndian_valueOf (bs : Octets) : littleEndian bs.length (valueOf bs) = bs := by
  induction bs with
  | nil => rfl
  | cons b bs ih =>
    have hb : b.toNat < 256 := b.toNat_lt
    have hdiv : (b.toNat + 256 * valueOf bs) / 256 = valueOf bs := by omega
    have hlow : UInt8.ofNat (b.toNat + 256 * valueOf bs) = b := by
      apply UInt8.toNat_inj.1
      rw [UInt8.toNat_ofNat']
      omega
    rw [List.length_cons, valueOf, littleEndian, hdiv, hlow, ih]

theorem eq_littleEndian_append_iff {width n : Nat} {octets rest : Octets} :
    n < capacity width ∧ octets = littleEndian width n ++ rest ↔
      width ≤ octets.length ∧ valueOf (octets.take width) = n ∧ octets.drop width = rest := by
  constructor
  · rintro ⟨hn, rfl⟩
    refine ⟨by simp, ?_, ?_⟩
    · rw [List.take_left' (length_littleEndian width n), valueOf_littleEndian,
        Nat.mod_eq_of_lt hn]
    · rw [List.drop_left' (length_littleEndian width n)]
  · rintro ⟨hlong, rfl, rfl⟩
    have hlength : (octets.take width).length = width := List.length_take_of_le hlong
    have hfield := littleEndian_valueOf (octets.take width)
    have hvalue := valueOf_lt (octets.take width)
    rw [hlength] at hfield hvalue
    exact ⟨hvalue, by rw [hfield, List.take_append_drop]⟩

/-- A hexadecimal digit in upper case. -/
def hexDigit (n : Nat) : Char :=
  if n < 10 then Char.ofNat (48 + n) else Char.ofNat (55 + n)

/-- Two upper case hexadecimal digits, as octets appear in messages. -/
def hexText (b : UInt8) : String :=
  String.ofList [hexDigit (b.toNat / 16), hexDigit (b.toNat % 16)]

end Octets

end Telecontrol
