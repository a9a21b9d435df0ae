import Telecontrol.Apci.Apdu
import Telecontrol.Proofs.Asdu.Append
import Telecontrol.Proofs.Channel

/-!
# APDUs are read as they were written

A control field is read back if its sequence numbers fit 15 bits, and an APDU if its ASDU is read
back besides. What the reader finds at the front of a stream does not change when more octets
arrive, so that a written APDU is found wherever the stream is cut.
-/

namespace Telecontrol

namespace Apci

/-- The sequence numbers fit their fields. -/
def InRange : Apci → Prop
  | iFrame send receive => send < sequenceModulus ∧ receive < sequenceModulus
  | sFrame receive => receive < sequenceModulus
  | uFrame _ => True

/-- The two octets of a sequence number. The low bit of the first is free. -/
lemma sequenceOctets_eq (n : Nat) :
    ∃ low high : UInt8, sequenceOctets n = [low, high] ∧ low.toNat % 2 = 0 ∧
      sequenceOf low high = n % sequenceModulus := by
  refine ⟨_, _, rfl, ?_, ?_⟩
  · rw [UInt8.toNat_ofNat']
    omega
  · have hlow := Nat.mod_lt n (show 0 < sequenceModulus by decide)
    unfold sequenceOf sequenceModulus at *
    rw [UInt8.toNat_ofNat', UInt8.toNat_ofNat']
    omega

lemma ofOctet_controlByte (f : UFunction) : UFunction.ofOctet f.controlByte = .ok f := by
  rw [UFunction.ofOctet, UFunction.ofControlByte?_controlByte]

theorem parse_encode {a : Apci} (h : a.InRange) (rest : Octets) :
    parse (a.encode ++ rest) = .ok a := by
  cases a with
  | iFrame send receive =>
    obtain ⟨hsend, hreceive⟩ := h
    obtain ⟨low, high, heq, heven, hvalue⟩ := sequenceOctets_eq send
    obtain ⟨low', high', heq', -, hvalue'⟩ := sequenceOctets_eq receive
    rw [Nat.mod_eq_of_lt hsend] at hvalue
    rw [Nat.mod_eq_of_lt hreceive] at hvalue'
    simp [encode, heq, heq', parse, parseField, heven, hvalue, hvalue']
  | sFrame receive =>
    obtain ⟨low, high, heq, -, hvalue⟩ := sequenceOctets_eq receive
    rw [Nat.mod_eq_of_lt h] at hvalue
    simp [encode, heq, parse, parseField, hvalue]
  | uFrame f =>
    have hodd : f.controlByte.toNat % 2 = 1 := by cases f <;> rfl
    have hlow : f.controlByte.toNat % 4 = 3 := by cases f <;> rfl
    have hother : f.controlByte ≠ 1 := by cases f <;> decide
    simp [encode, parse, parseField, hodd, hlow, hother, ofOctet_controlByte]

lemma length_encode (a : Apci) : a.encode.length = 4 := by
  cases a with
  | iFrame => simp [encode, sequenceOctets]
  | sFrame => simp [encode, sequenceOctets]
  | uFrame => rfl

lemma encode_iFrame_mod (send receive : Nat) :
    (iFrame (send % sequenceModulus) (receive % sequenceModulus)).encode =
      (iFrame send receive).encode := by
  simp [encode, sequenceOctets]

end Apci

namespace Apdu

variable {widths : FieldWidths}

lemma next_frame (widths : FieldWidths) {length : Nat} {body : Octets}
    (hbody : body.length = Apci.minLength + length) (hlength : length ≤ Apci.maxAsduLength)
    (rest : Octets) :
    next widths (Apci.startByte :: UInt8.ofNat (Apci.minLength + length) :: (body ++ rest)) =
      some (decodeBody widths body, rest) := by
  have hvalue : (UInt8.ofNat (Apci.minLength + length)).toNat = body.length := by
    unfold Apci.maxAsduLength Apci.maxLength Apci.minLength at *
    rw [UInt8.toNat_ofNat']
    omega
  have hinside : ¬(body.length < Apci.minLength ∨ Apci.maxLength < body.length) := by
    unfold Apci.maxAsduLength Apci.maxLength Apci.minLength at *
    omega
  simp only [next, ne_eq, not_true_eq_false, if_false, hvalue]
  rw [if_neg hinside, if_neg (by simp), List.take_left, List.drop_left]

lemma encode_iFrame_eq_ok_iff {send receive : Nat} {asdu : Asdu} {octets : Octets} :
    (iFrame send receive asdu).encode widths = .ok octets ↔
      asdu.encodedLength widths ≤ Apci.maxAsduLength ∧ asdu.validate widths = .ok () ∧
        octets = (Apci.iFrame send receive).header (asdu.encodedLength widths) ++
          asdu.octets widths := by
  simp only [encode, iFrame, Apci.isIFrame, throw_eq_error, error_bind, ite_error_eq_ok_iff,
    Nat.not_lt, bind_eq_ok_iff, Asdu.encode_eq_ok_iff, pure_eq_ok, Except.ok.injEq]
  constructor
  · rintro ⟨hshort, _, ⟨hvalid, rfl⟩, rfl⟩
    exact ⟨hshort, hvalid, rfl⟩
  · rintro ⟨hshort, hvalid, rfl⟩
    exact ⟨hshort, _, ⟨hvalid, rfl⟩, rfl⟩

/-- A frame whose length octet counts all of its octets is taken as a whole, and what is found in it
is what its ASDU is read as. Only the low 15 bits of the sequence numbers are written. -/
theorem next_of_encode {send receive : Nat} {asdu : Asdu} {octets : Octets}
    (h : (iFrame send receive asdu).encode widths = .ok octets)
    (hlength : asdu.writtenLength widths = asdu.encodedLength widths) (rest : Octets) :
    next widths (octets ++ rest) =
      some ((Asdu.decode widths (asdu.octets widths)).map
        (iFrame (send % sequenceModulus) (receive % sequenceModulus)), rest) := by
  obtain ⟨hshort, -, rfl⟩ := encode_iFrame_eq_ok_iff.1 h
  have hrange : (Apci.iFrame (send % sequenceModulus) (receive % sequenceModulus)).InRange :=
    ⟨Nat.mod_lt _ (by decide), Nat.mod_lt _ (by decide)⟩
  have hbody : (asdu.octets widths).length = asdu.encodedLength widths := by
    rw [Asdu.length_octets, hlength]
  have hnonempty : (asdu.octets widths).isEmpty = false := by
    have hpos := Asdu.encodedLength_pos widths asdu
    rw [List.isEmpty_eq_false_iff, ← List.length_pos_iff]
    omega
  have hfield := Apci.length_encode (.iFrame send receive)
  have hframe : ((Apci.iFrame send receive).encode ++ asdu.octets widths).length =
      Apci.minLength + asdu.encodedLength widths := by
    rw [List.length_append, hfield, hbody, Apci.minLength]
  have hread : decodeBody widths ((Apci.iFrame send receive).encode ++ asdu.octets widths) =
      (Asdu.decode widths (asdu.octets widths)).map
        (iFrame (send % sequenceModulus) (receive % sequenceModulus)) := by
    unfold decodeBody
    rw [← hfield, List.take_left, List.drop_left, ← Apci.encode_iFrame_mod,
      ← List.append_nil (Apci.encode _), Apci.parse_encode hrange]
    simp only [ok_bind, Apci.isIFrame, hnonempty]
    cases Asdu.decode widths (asdu.octets widths) <;> rfl
  have hfound := next_frame widths hframe hshort rest
  rw [hread] at hfound
  simpa [Apci.header] using hfound

theorem reads_of_encode {a : Apdu} {octets : Octets} (hrange : a.apci.InRange)
    (hfaithful : ∀ asdu, a.asdu = some asdu → asdu.Faithful widths)
    (h : a.encode widths = .ok octets) : (reader widths).Reads octets a := by
  intro rest
  obtain ⟨apci, payload⟩ := a
  cases payload with
  | some asdu =>
    cases apci with
    | iFrame send receive =>
      obtain ⟨hsend, hreceive⟩ := hrange
      obtain ⟨-, hvalid, -⟩ := encode_iFrame_eq_ok_iff.1 h
      have hdecode := hfaithful asdu rfl _ (Asdu.encode_eq_ok_iff.2 ⟨hvalid, rfl⟩)
      have hlength := (Asdu.decode_eq_ok_iff.1 hdecode).1.toWellFormed.writtenLength widths
      have hfound := next_of_encode h hlength rest
      rw [Nat.mod_eq_of_lt hsend, Nat.mod_eq_of_lt hreceive, hdecode] at hfound
      exact hfound
    | sFrame | uFrame => exact nomatch h
  | none =>
    have hfield := Apci.length_encode apci
    have hkind : apci.isIFrame = false := by
      cases apci with
      | iFrame => exact nomatch h
      | sFrame | uFrame => rfl
    obtain rfl : apci.header 0 = octets := by simpa [encode, hkind] using h
    have hread : decodeBody widths apci.encode = .ok ⟨apci, none⟩ := by
      unfold decodeBody
      rw [← hfield, List.take_length, List.drop_length, ← List.append_nil apci.encode,
        Apci.parse_encode hrange]
      simp [hkind]
    have hfound := next_frame widths hfield (Nat.zero_le _) rest
    rw [hread] at hfound
    simpa [Apci.header, reader] using hfound

lemma decodeBody_of_next {octets rest : Octets} {a : Apdu}
    (h : next widths octets = some (.ok a, rest)) : ∃ body, decodeBody widths body = .ok a := by
  cases octets with
  | nil => exact nomatch h
  | cons start octets =>
    by_cases hstart : start ≠ Apci.startByte
    · simp [next, hstart] at h
    · cases octets with
      | nil => simp [next, hstart] at h
      | cons lengthByte octets =>
        simp only [next, hstart, if_false] at h
        split at h
        · simp at h
        · split at h
          · exact nomatch h
          · exact ⟨_, (Prod.mk.inj (Option.some.inj h)).1⟩

lemma exists_decode_of_next {octets rest : Octets} {a : Apdu} {asdu : Asdu}
    (h : next widths octets = some (.ok a, rest)) (hasdu : a.asdu = some asdu) :
    ∃ payload, Asdu.decode widths payload = .ok asdu := by
  obtain ⟨body, hbody⟩ := decodeBody_of_next h
  obtain ⟨apci, -, hbody⟩ := bind_eq_ok hbody
  dsimp only at hbody
  split at hbody
  · obtain ⟨asdu', hdecode, hbody⟩ := bind_eq_ok hbody
    obtain rfl := Except.ok.inj hbody
    obtain rfl := Option.some.inj hasdu
    exact ⟨body.drop 4, hdecode⟩
  · exact nomatch hbody
  · obtain rfl := Except.ok.inj hbody
    exact nomatch hasdu
  · exact nomatch hbody

theorem reader_stable (widths : FieldWidths) : (reader widths).Stable := by
  intro octets rest result more h
  change next widths octets = some (result, rest) at h
  change next widths (octets ++ more) = some (result, rest ++ more)
  unfold next at h ⊢
  cases octets with
  | nil => exact nomatch h
  | cons start octets =>
    by_cases hstart : start ≠ Apci.startByte
    · simp_all
    · cases octets with
      | nil => simp [hstart] at h
      | cons lengthByte octets =>
        simp only [hstart, if_false, List.cons_append] at h ⊢
        by_cases hrange : lengthByte.toNat < Apci.minLength ∨ Apci.maxLength < lengthByte.toNat
        · simp_all
        · by_cases hshort : octets.length < lengthByte.toNat
          · simp [hrange, hshort] at h
          · have hlong : ¬(octets ++ more).length < lengthByte.toNat := by
              rw [List.length_append]
              omega
            rw [if_neg hrange, if_neg hshort] at h
            rw [if_neg hrange, if_neg hlong, List.take_append_of_le_length (by omega),
              List.drop_append_of_le_length (by omega)]
            obtain ⟨rfl, rfl⟩ := by simpa using h
            rfl

end Apdu

end Telecontrol
