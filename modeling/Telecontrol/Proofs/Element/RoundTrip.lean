import Telecontrol.Element.Codec
import Telecontrol.Proofs.Fallible

/-!
# Information elements are read as they were written

An element is a number that fits its width, and every number that fits stands for exactly one
element of each kind, reserved bits and payloads of what is not a number included. Hence reading an
element and writing it are inverse to each other, whatever stands behind it.
-/

namespace Telecontrol.Element

variable {kind : ElementKind} {e : Element}

theorem number_lt (e : Element) : e.number < Octets.capacity e.kind.width := by
  cases e with
  | normalized e => exact e.steps.toUInt16.toNat_lt
  | scaled e => exact e.value.toUInt16.toNat_lt
  | float e => exact e.bits.toNat_lt
  | bitstring e => exact e.bits.toNat_lt
  | statusChange e => exact e.word.toNat_lt
  | counter e =>
    have hcounter := e.counter.toUInt32.toNat_lt
    have hflags := e.flags.toNat_lt
    simp only [number, Element.kind, ElementKind.width, Octets.capacity]
    omega
  | testPattern e => exact e.word.toNat_lt
  | testSequence e => exact e.word.toNat_lt
  | time56 e =>
    have hms := e.millisecond.toNat_lt
    have hfields := Octets.valueOf_lt
      [e.minuteOctet, e.hourOctet, e.dayOctet, e.monthOctet, e.yearOctet]
    simp only [List.length_cons, List.length_nil, Octets.capacity] at hfields
    simp only [number, Element.kind, ElementKind.width, Octets.capacity]
    omega
  | time24 e =>
    have hms := e.millisecond.toNat_lt
    have hminute := e.minuteOctet.toNat_lt
    simp only [number, Element.kind, ElementKind.width, Octets.capacity]
    omega
  | time16 e => exact e.millisecond.toNat_lt
  | _ e => exact e.octet.toNat_lt

theorem number_ofNumber {n : Nat} (h : n < Octets.capacity kind.width) :
    (ofNumber kind n).number = n := by
  cases kind <;> simp only [ElementKind.width, Octets.capacity] at h <;>
    simp only [ofNumber, number, Octets.digit, Octets.valueOf, Octets.capacity,
      UInt8.toNat_ofNat', UInt16.toNat_ofNat', UInt32.toNat_ofNat', UInt16.toUInt16_toInt16,
      UInt32.toUInt32_toInt32] <;>
    omega

lemma ofNat_low16 (low : UInt16) (m : Nat) : UInt16.ofNat (low.toNat + 0x10000 * m) = low := by
  have hlow := low.toNat_lt
  apply UInt16.toNat_inj.1
  rw [UInt16.toNat_ofNat']
  omega

lemma ofNat_low32 (low : UInt32) (m : Nat) :
    UInt32.ofNat (low.toNat + 0x100000000 * m) = low := by
  have hlow := low.toNat_lt
  apply UInt32.toNat_inj.1
  rw [UInt32.toNat_ofNat']
  omega

lemma digit_eq {n position : Nat} {b : UInt8}
    (h : n / Octets.capacity position % 256 = b.toNat) : Octets.digit n position = b := by
  apply UInt8.toNat_inj.1
  rw [Octets.digit, UInt8.toNat_ofNat']
  exact h

theorem ofNumber_number (e : Element) : ofNumber e.kind e.number = e := by
  cases e with
  | normalized e => simp [Element.kind, number, ofNumber]
  | scaled e => simp [Element.kind, number, ofNumber]
  | counter e =>
    have hcounter := e.counter.toUInt32.toNat_lt
    have hflags := e.flags.toNat_lt
    simp only [Element.kind, number, ofNumber, ofNat_low32, Int32.toInt32_toUInt32]
    rw [digit_eq (b := e.flags) (by simp only [Octets.capacity]; omega)]
  | time56 e =>
    have hms := e.millisecond.toNat_lt
    have hminute := e.minuteOctet.toNat_lt
    have hhour := e.hourOctet.toNat_lt
    have hday := e.dayOctet.toNat_lt
    have hmonth := e.monthOctet.toNat_lt
    have hyear := e.yearOctet.toNat_lt
    simp only [Element.kind, number, ofNumber, ofNat_low16, Octets.valueOf]
    rw [digit_eq (b := e.minuteOctet) (by simp only [Octets.capacity]; omega),
      digit_eq (b := e.hourOctet) (by simp only [Octets.capacity]; omega),
      digit_eq (b := e.dayOctet) (by simp only [Octets.capacity]; omega),
      digit_eq (b := e.monthOctet) (by simp only [Octets.capacity]; omega),
      digit_eq (b := e.yearOctet) (by simp only [Octets.capacity]; omega)]
  | time24 e =>
    have hms := e.millisecond.toNat_lt
    have hminute := e.minuteOctet.toNat_lt
    simp only [Element.kind, number, ofNumber, ofNat_low16]
    rw [digit_eq (b := e.minuteOctet) (by simp only [Octets.capacity]; omega)]
  | _ e => simp [Element.kind, number, ofNumber]

/-- What is read is an element of the kind asked for, and its octets stand at the front. -/
theorem decode_eq_ok_iff {octets rest : Octets} :
    decode kind octets = .ok (e, rest) ↔ e.kind = kind ∧ octets = e.encode ++ rest := by
  unfold decode
  rw [ite_error_eq_ok_iff, Except.ok.injEq, Prod.mk.injEq, Nat.not_lt]
  constructor
  · rintro ⟨hlong, rfl, hrest⟩
    obtain ⟨hvalue, hoctets⟩ := Octets.eq_littleEndian_append_iff.2 ⟨hlong, rfl, hrest⟩
    refine ⟨kind_ofNumber kind _, ?_⟩
    rw [encode, width, kind_ofNumber, number_ofNumber hvalue]
    exact hoctets
  · rintro ⟨rfl, hoctets⟩
    obtain ⟨hlong, hvalue, hrest⟩ :=
      Octets.eq_littleEndian_append_iff.1 ⟨e.number_lt, hoctets⟩
    exact ⟨hlong, by rw [hvalue, ofNumber_number], hrest⟩

end Telecontrol.Element
