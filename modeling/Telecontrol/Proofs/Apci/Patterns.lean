import Telecontrol.Proofs.Apci.RoundTrip

/-!
# Bit patterns of S- and U-frames

A control field that begins with an odd octet is read as an S- or U-frame only if it has the pattern
of one, but for a single bit: the one below the sequence number of an S-frame is not looked at.
-/

namespace Telecontrol.Apci

variable {first second third fourth : UInt8} {a : Apci}

lemma sequenceOctets_sequenceOf (low high : UInt8) :
    sequenceOctets (sequenceOf low high) = [UInt8.ofNat (low.toNat - low.toNat % 2), high] := by
  have hlow := low.toNat_lt
  have hhigh := high.toNat_lt
  have hnumber : sequenceOf low high % sequenceModulus = sequenceOf low high := by
    apply Nat.mod_eq_of_lt
    unfold sequenceOf sequenceModulus
    omega
  rw [sequenceOctets, hnumber, Octets.littleEndian, Octets.littleEndian, Octets.littleEndian]
  congr 1
  · apply UInt8.toNat_inj.1
    unfold sequenceOf
    rw [UInt8.toNat_ofNat', UInt8.toNat_ofNat']
    omega
  · congr 1
    apply UInt8.toNat_inj.1
    unfold sequenceOf
    rw [UInt8.toNat_ofNat']
    omega

lemma encode_sFrame_sequenceOf (low high : UInt8) :
    (sFrame (sequenceOf low high)).encode = [0x01, 0x00, low, high] ↔ low.toNat % 2 = 0 := by
  have hlow := low.toNat_lt
  rw [encode, sequenceOctets_sequenceOf]
  simp only [List.cons_append, List.nil_append, List.cons.injEq, true_and, and_true]
  rw [← UInt8.toNat_inj, UInt8.toNat_ofNat']
  omega

lemma parseField_cases (hodd : first.toNat % 2 = 1) (second third fourth : UInt8) :
    (first = 0x01 ∧ second = 0 ∧
        parseField first second third fourth = .ok (sFrame (sequenceOf third fourth))) ∨
      (∃ f, [first, second, third, fourth] = (uFrame f).encode ∧
        parseField first second third fourth = .ok (uFrame f)) ∨
      ¬(first = 0x01 ∧ second = 0) ∧
        ∃ cause, parseField first second third fourth = .error (.framing cause) := by
  unfold parseField
  rw [if_neg (by omega)]
  by_cases hsupervisory : first = 0x01 ∧ second = 0
  · rw [if_pos hsupervisory]
    exact .inl ⟨hsupervisory.1, hsupervisory.2, rfl⟩
  · rw [if_neg hsupervisory]
    by_cases hunnumbered : first.toNat % 4 = 3 ∧ second = 0 ∧ third = 0 ∧ fourth = 0
    · rw [if_pos hunnumbered, UFunction.ofOctet]
      obtain ⟨-, rfl, rfl, rfl⟩ := hunnumbered
      cases hfunction : UFunction.ofControlByte? first with
      | some f =>
        obtain rfl := UFunction.controlByte_of_ofControlByte? hfunction
        exact .inr (.inl ⟨f, rfl, rfl⟩)
      | none => exact .inr (.inr ⟨hsupervisory, _, rfl⟩)
    · rw [if_neg hunnumbered]
      exact .inr (.inr ⟨hsupervisory, _, rfl⟩)

lemma odd_of_parseField (h : parseField first second third fourth = .ok a)
    (hkind : a.isIFrame = false) : first.toNat % 2 = 1 := by
  by_cases heven : first.toNat % 2 = 0
  · rw [parseField, if_pos heven] at h
    obtain rfl := Except.ok.inj h
    cases hkind
  · omega

/-- An S- or U-frame is written as it was read, and a control field that begins with an odd octet
and is that of no such frame is refused as malformed; except that an S-frame is also read when the
low bit of the third octet is set. -/
theorem parse_exact_iff (first second third fourth : UInt8) (rest : Octets) :
    (∀ a, parse (first :: second :: third :: fourth :: rest) = .ok a → a.isIFrame = false →
      (a.encode = [first, second, third, fourth] ↔ third.toNat % 2 = 0)) ∧
    (first.toNat % 2 = 1 →
      (∀ a : Apci, a.isIFrame = false → a.encode ≠ [first, second, third, fourth]) →
      ((∃ cause, parse (first :: second :: third :: fourth :: rest) = .error (.framing cause)) ↔
        ¬(first = 0x01 ∧ second = 0 ∧ third.toNat % 2 = 1))) := by
  simp only [parse]
  constructor
  · intro a hparse hkind
    rcases parseField_cases (odd_of_parseField hparse hkind) second third fourth with
      ⟨rfl, rfl, hread⟩ | ⟨f, hpattern, hread⟩ | ⟨-, cause, hread⟩
    · obtain rfl := Except.ok.inj (hparse.symm.trans hread)
      exact encode_sFrame_sequenceOf third fourth
    · obtain rfl := Except.ok.inj (hparse.symm.trans hread)
      obtain ⟨-, -, rfl, -⟩ := by simpa [encode] using hpattern
      exact iff_of_true hpattern.symm rfl
    · cases hparse.symm.trans hread
  · intro hodd hnone
    rcases parseField_cases hodd second third fourth with
      ⟨rfl, rfl, hread⟩ | ⟨f, hpattern, -⟩ | ⟨hother, hread⟩
    · have hlow : third.toNat % 2 ≠ 0 := by
        rw [ne_eq, ← encode_sFrame_sequenceOf third fourth]
        exact hnone _ rfl
      refine iff_of_false ?_ fun h => h ⟨rfl, rfl, by omega⟩
      rintro ⟨cause, hrefused⟩
      cases hread.symm.trans hrefused
    · exact absurd hpattern.symm (hnone (uFrame f) rfl)
    · exact iff_of_true hread fun h => hother ⟨h.1, h.2.1⟩

/-- An acknowledgment of 32767 frames is read from its own pattern only. Without its second octet it
is none. -/
theorem parse_exact_iff_acknowledgment :
    parse [0x01, 0x00, 0xfe, 0xff] = .ok (sFrame 32767) ∧
      (sFrame 32767).encode = [0x01, 0x00, 0xfe, 0xff] ∧
      ∃ cause, parse [0x01, 0x80, 0xfe, 0xff] = .error (.framing cause) := by
  have hread : parse [0x01, 0x00, 0xfe, 0xff] = .ok (sFrame 32767) := rfl
  have hnone : ∀ a : Apci, a.isIFrame = false → a.encode ≠ [0x01, 0x80, 0xfe, 0xff] := by
    intro a hkind
    cases a with
    | iFrame => exact nomatch hkind
    | sFrame => simp [encode]
    | uFrame f => cases f <;> simp [encode, UFunction.controlByte]
  exact ⟨hread, ((parse_exact_iff 0x01 0x00 0xfe 0xff []).1 _ hread rfl).2 rfl,
    ((parse_exact_iff 0x01 0x80 0xfe 0xff []).2 rfl hnone).2 (by decide)⟩

/-- The bit below the sequence number is set, and the octets are read as an S-frame although they
are those of no frame. -/
theorem reserved_bit_slips_through :
    parse [0x01, 0x00, 0x01, 0x00] = .ok (sFrame 0) ∧
      (sFrame 0).encode ≠ [0x01, 0x00, 0x01, 0x00] ∧
      ∀ a : Apci, a.isIFrame = false → a.encode ≠ [0x01, 0x00, 0x01, 0x00] := by
  refine ⟨rfl, by decide, ?_⟩
  intro a hkind
  cases a with
  | iFrame => exact nomatch hkind
  | sFrame n =>
    obtain ⟨low, high, heq, heven, -⟩ := sequenceOctets_eq n
    rw [encode, heq]
    rintro hsame
    obtain ⟨rfl, rfl⟩ : low = 0x01 ∧ high = 0x00 := by simpa using hsame
    exact absurd heven (by decide)
  | uFrame f => cases f <;> simp [encode, UFunction.controlByte]

end Telecontrol.Apci
