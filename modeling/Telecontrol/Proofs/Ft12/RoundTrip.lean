import Telecontrol.Ft12.Codec
import Telecontrol.Proofs.Channel
import Telecontrol.Proofs.Fallible

/-!
# Link frames are read as they were written

Every frame that can be written is read back, whatever its address width and its user data. As with
APDUs, what the reader finds at the front of a stream stays there when more octets arrive.
-/

namespace Telecontrol

lemma ControlField.ofByte_toByte (control : ControlField) : ofByte control.toByte = .ok control := by
  cases control with
  | primary function fcb fcv => cases function <;> cases fcb <;> cases fcv <;> rfl
  | secondary function acd dfc => cases function <;> cases acd <;> cases dfc <;> rfl

lemma maxLinkAddress_lt : ∀ width, maxLinkAddress width < Octets.capacity width
  | 0 => by decide
  | 1 => by decide
  | width + 2 => by
    have hcapacity := Octets.capacity_pos width
    simp only [maxLinkAddress, Octets.capacity]
    omega

namespace LinkFrame

variable {addressLength address : Nat} {frame : LinkFrame} {octets : Octets}

lemma checkAddressLength_eq_ok_iff :
    checkAddressLength addressLength = .ok () ↔ addressLength ≤ 2 := by
  rw [checkAddressLength, ite_error_eq_ok_iff, Nat.not_lt, and_iff_left rfl]

lemma checkAddress_eq_ok :
    checkAddress addressLength address = .ok () ↔ address ≤ maxLinkAddress addressLength := by
  unfold checkAddress
  split
  · simpa using ‹maxLinkAddress addressLength < address›
  · simpa using ‹¬maxLinkAddress addressLength < address›

lemma length_body (control : ControlField) (asdu : Octets) :
    (body addressLength control address asdu).length = 1 + addressLength + asdu.length := by
  simp only [body, List.length_cons, List.length_append, Octets.length_littleEndian]
  omega

lemma decodeBody_body (control : ControlField) (asdu : Octets)
    (haddress : address ≤ maxLinkAddress addressLength) :
    decodeBody addressLength (body addressLength control address asdu) =
      .ok (control, address, asdu) := by
  have hlength : (Octets.littleEndian addressLength address).length = addressLength :=
    Octets.length_littleEndian _ _
  have hvalue : Octets.valueOf (Octets.littleEndian addressLength address) = address := by
    rw [Octets.valueOf_littleEndian]
    exact Nat.mod_eq_of_lt (Nat.lt_of_le_of_lt haddress (maxLinkAddress_lt addressLength))
  simp only [decodeBody, body, List.headD_cons, ControlField.ofByte_toByte, ok_bind, List.drop_one,
    List.tail_cons, pure_eq_ok]
  rw [List.take_left' hlength, List.drop_left' hlength, hvalue]

lemma take_body {body : Octets} {length : Nat} (sum last : UInt8) (rest : Octets)
    (hlength : body.length = length) :
    (body ++ sum :: last :: rest).take length = body ∧
      ((body ++ sum :: last :: rest).drop length).headD 0 = sum ∧
      ((body ++ sum :: last :: rest).drop (length + 1)).headD 0 = last ∧
      (body ++ sum :: last :: rest).drop (length + 2) = rest := by
  subst hlength
  simp

lemma nextFixed_body {body : Octets} (sum last : UInt8) (rest : Octets)
    (hlength : body.length = 1 + addressLength) :
    nextFixed addressLength (body ++ sum :: last :: rest) =
      some (do
        if last ≠ endByte then throw (.framing (.fixedEnd last))
        if checksum body ≠ sum then throw (.framing .fixedChecksum)
        let (control, address, _) ← decodeBody addressLength body
        return fixed control address, rest) := by
  obtain ⟨htake, hsum, hlast, hrest⟩ := take_body sum last rest hlength
  have hlong : ¬(body ++ sum :: last :: rest).length < 1 + addressLength + 2 := by
    simp only [List.length_append, List.length_cons]
    omega
  unfold nextFixed
  simp only [hlong, if_false, htake, hsum, hlast, hrest]

lemma nextFixed_encode (control : ControlField) (rest : Octets)
    (haddress : address ≤ maxLinkAddress addressLength) :
    nextFixed addressLength (body addressLength control address [] ++
      checksum (body addressLength control address []) :: endByte :: rest) =
      some (.ok (fixed control address), rest) := by
  rw [nextFixed_body _ _ _ (length_body control []), decodeBody_body control [] haddress]
  simp

lemma nextVariable_body {body : Octets} {length : UInt8} (sum last : UInt8) (rest : Octets)
    (hlength : body.length = length.toNat) (hcomplete : 1 + addressLength ≤ body.length) :
    nextVariable addressLength (length :: length :: variableStart ::
        (body ++ sum :: last :: rest)) =
      some (do
        if last ≠ endByte then throw (.framing (.variableEnd last))
        if checksum body ≠ sum then throw (.framing .variableChecksum)
        let (control, address, asdu) ← decodeBody addressLength body
        return userData control address asdu, rest) := by
  obtain ⟨htake, hsum, hlast, hrest⟩ := take_body sum last rest hlength
  have hlong : ¬(body ++ sum :: last :: rest).length < length.toNat + 2 := by
    simp only [List.length_append, List.length_cons]
    omega
  have henough : ¬length.toNat < 1 + addressLength := by omega
  unfold nextVariable
  simp only [ne_eq, not_true_eq_false, or_self, henough, hlong, if_false, htake, hsum, hlast, hrest]

lemma toNat_lengthByte {body : Octets} (hshort : body.length ≤ maxLength) :
    (UInt8.ofNat body.length).toNat = body.length := by
  unfold maxLength at hshort
  rw [UInt8.toNat_ofNat']
  omega

lemma nextVariable_encode (control : ControlField) (asdu rest : Octets)
    (haddress : address ≤ maxLinkAddress addressLength)
    (hshort : (body addressLength control address asdu).length ≤ maxLength) :
    let length := UInt8.ofNat (body addressLength control address asdu).length
    nextVariable addressLength (length :: length :: variableStart ::
      (body addressLength control address asdu ++
        checksum (body addressLength control address asdu) :: endByte :: rest)) =
      some (.ok (userData control address asdu), rest) := by
  have hcomplete : 1 + addressLength ≤ (body addressLength control address asdu).length := by
    rw [length_body]
    omega
  dsimp only
  rw [nextVariable_body _ _ _ (toNat_lengthByte hshort).symm hcomplete,
    decodeBody_body control asdu haddress]
  simp

theorem reads_of_encode (h : frame.encode addressLength = .ok octets) :
    (reader addressLength).Reads octets frame := by
  intro rest
  change next addressLength (octets ++ rest) = some (.ok frame, rest)
  cases frame with
  | singleAck =>
    obtain rfl : [ackByte] = octets := by simpa [encode] using h
    rfl
  | singleNack =>
    obtain rfl : [nackByte] = octets := by simpa [encode] using h
    rfl
  | fixed control address =>
    obtain ⟨_, haddress, h⟩ := bind_eq_ok h
    obtain rfl := by simpa using h
    have hread := nextFixed_encode control rest (checkAddress_eq_ok.1 haddress)
    simpa [next, fixedStart, ackByte, nackByte] using hread
  | userData control address asdu =>
    obtain ⟨_, haddress, h⟩ := bind_eq_ok h
    dsimp only at h
    split at h
    · exact nomatch h
    · next hshort =>
      obtain rfl := by simpa using h
      have hread := nextVariable_encode control asdu rest (checkAddress_eq_ok.1 haddress)
        (by omega)
      simpa [next, fixedStart, variableStart, ackByte, nackByte] using hread

lemma encode_fixed (control : ControlField) (haddress : address ≤ maxLinkAddress addressLength) :
    ∃ octets, (fixed control address).encode addressLength = .ok octets := by
  rw [encode, checkAddress_eq_ok.2 haddress]
  exact ⟨_, rfl⟩

lemma encode_userData (control : ControlField) {asdu : Octets}
    (haddress : address ≤ maxLinkAddress addressLength)
    (hshort : 1 + addressLength + asdu.length ≤ maxLength) :
    ∃ octets, (userData control address asdu).encode addressLength = .ok octets := by
  have hlength : (body addressLength control address asdu).length = _ := length_body control asdu
  have hfits : ¬maxLength < (body addressLength control address asdu).length := by omega
  simp only [encode, checkAddress_eq_ok.2 haddress, ok_bind, if_neg hfits]
  exact ⟨_, rfl⟩

lemma headD_drop_append {more : Octets} {position : Nat} (h : position < octets.length) :
    ((octets ++ more).drop position).headD 0 = (octets.drop position).headD 0 := by
  simp [List.headD_eq_head?_getD, List.head?_drop, List.getElem?_append_left h]

lemma nextFixed_append {rest more : Octets} {result : Except Fault LinkFrame}
    (h : nextFixed addressLength octets = some (result, rest)) :
    nextFixed addressLength (octets ++ more) = some (result, rest ++ more) := by
  unfold nextFixed at h ⊢
  dsimp only at h ⊢
  by_cases hshort : octets.length < 1 + addressLength + 2
  · simp [hshort] at h
  · have hlong : ¬(octets ++ more).length < 1 + addressLength + 2 := by
      rw [List.length_append]
      omega
    rw [if_neg hshort] at h
    rw [if_neg hlong, List.take_append_of_le_length (by omega), headD_drop_append (by omega),
      headD_drop_append (by omega), List.drop_append_of_le_length (by omega)]
    obtain ⟨rfl, rfl⟩ := Prod.mk.inj (Option.some.inj h)
    rfl

lemma nextVariable_append {rest more : Octets} {result : Except Fault LinkFrame}
    (h : nextVariable addressLength octets = some (result, rest)) :
    nextVariable addressLength (octets ++ more) = some (result, rest ++ more) := by
  match octets with
  | [] | [_] | [_, _] => exact nomatch h
  | lengthByte :: again :: start :: octets =>
    simp only [List.cons_append, nextVariable] at h ⊢
    by_cases hheader : again ≠ lengthByte ∨ start ≠ variableStart
    · rw [if_pos hheader] at h ⊢
      obtain ⟨rfl, rfl⟩ := by simpa using h
      rfl
    · rw [if_neg hheader] at h ⊢
      by_cases hsmall : lengthByte.toNat < 1 + addressLength
      · rw [if_pos hsmall] at h ⊢
        obtain ⟨rfl, rfl⟩ := by simpa using h
        rfl
      · rw [if_neg hsmall] at h ⊢
        by_cases hshort : octets.length < lengthByte.toNat + 2
        · simp [hshort] at h
        · have hlong : ¬(octets ++ more).length < lengthByte.toNat + 2 := by
            rw [List.length_append]
            omega
          rw [if_neg hshort] at h
          rw [if_neg hlong, List.take_append_of_le_length (by omega),
            headD_drop_append (by omega), headD_drop_append (by omega),
            List.drop_append_of_le_length (by omega)]
          obtain ⟨rfl, rfl⟩ := Prod.mk.inj (Option.some.inj h)
          rfl

theorem reader_stable (addressLength : Nat) : (reader addressLength).Stable := by
  intro octets rest result more h
  change next addressLength octets = some (result, rest) at h
  change next addressLength (octets ++ more) = some (result, rest ++ more)
  cases octets with
  | nil => exact nomatch h
  | cons start octets =>
    rw [List.cons_append]
    unfold next at h ⊢
    dsimp only at h ⊢
    split at h
    · rw [if_pos ‹_›]
      obtain ⟨rfl, rfl⟩ := by simpa using h
      rfl
    · rw [if_neg ‹_›]
      split at h
      · rw [if_pos ‹_›]
        obtain ⟨rfl, rfl⟩ := by simpa using h
        rfl
      · rw [if_neg ‹_›]
        split at h
        · rw [if_pos ‹_›]
          exact nextFixed_append h
        · rw [if_neg ‹_›]
          split at h
          · rw [if_pos ‹_›]
            exact nextVariable_append h
          · rw [if_neg ‹_›]
            obtain ⟨rfl, rfl⟩ := by simpa using h
            rfl

end LinkFrame

end Telecontrol
