import Telecontrol.Proofs.Ft12.RoundTrip
import Telecontrol.Proofs.Stream

/-!
# Link frames with a corrupted octet

If one octet of a frame other than the start octet arrives as another one, the frame is refused. The
two length octets and the second start octet guard each other; an octet of the body changes the
checksum, which is a sum, so that a single change cannot cancel out. As long as the header is
intact, the receiver takes away the corrupted frame and nothing else.
-/

namespace Telecontrol

namespace LinkFrame

variable {addressLength position : Nat} {frame : LinkFrame} {octets body rest : Octets}
variable {byte old sum last : UInt8}

lemma checksum_set (byte : UInt8) (hold : octets[position]? = some old) :
    checksum (octets.set position byte) + old = checksum octets + byte := by
  induction octets generalizing position with
  | nil => exact nomatch hold
  | cons octet octets ih =>
    cases position with
    | zero =>
      obtain rfl : octet = old := by simpa using hold
      change byte + checksum octets + octet = octet + checksum octets + byte
      ac_rfl
    | succ position =>
      have hrest := ih (by simpa using hold)
      change octet + checksum (octets.set position byte) + old = octet + checksum octets + byte
      rw [UInt8.add_assoc, hrest, UInt8.add_assoc]

lemma checksum_set_ne (hold : octets[position]? = some old) (hbyte : byte ≠ old) :
    checksum (octets.set position byte) ≠ checksum octets := by
  intro hsum
  have hset := checksum_set byte hold
  rw [hsum] at hset
  exact hbyte (UInt8.add_right_inj (checksum octets) |>.1 hset).symm

/-- The octets of a frame behind its header. -/
def sealed (body : Octets) : Octets := body ++ [checksum body, endByte]

/-- The last two octets are not those that a body calls for. -/
def Broken (body : Octets) (sum last : UInt8) : Prop := last ≠ endByte ∨ checksum body ≠ sum

lemma broken_of_set (hold : (sealed body)[position]? = some old) (hbyte : byte ≠ old) :
    ∃ body' sum last, (sealed body).set position byte = body' ++ [sum, last] ∧
      body'.length = body.length ∧ Broken body' sum last := by
  unfold sealed at hold ⊢
  by_cases hbody : position < body.length
  · rw [List.getElem?_append_left hbody] at hold
    refine ⟨body.set position byte, checksum body, endByte, ?_, List.length_set, ?_⟩
    · rw [List.set_append_left _ _ hbody]
    · exact .inr (checksum_set_ne hold hbyte)
  · -- the checksum or the end octet itself has been changed
    have hbehind : body.length ≤ position := Nat.le_of_not_lt hbody
    rw [List.getElem?_append_right hbehind] at hold
    rw [List.set_append_right _ _ hbehind]
    match position - body.length, hold with
    | 0, hold =>
      obtain rfl : checksum body = old := by simpa using hold
      exact ⟨body, byte, endByte, rfl, rfl, .inr hbyte.symm⟩
    | 1, hold =>
      obtain rfl : endByte = old := by simpa using hold
      exact ⟨body, checksum body, byte, rfl, rfl, .inl hbyte⟩

lemma refused_of_broken (h : Broken body sum last) (onEnd onSum : FramingCause)
    (found : Except Fault LinkFrame) (rest : Octets) :
    ∃ cause, (some (do
        if last ≠ endByte then throw (.framing onEnd)
        if checksum body ≠ sum then throw (.framing onSum)
        found, rest) : Found LinkFrame) = some (.error (.framing cause), rest) := by
  by_cases hlast : last ≠ endByte
  · exact ⟨onEnd, by simp [hlast]⟩
  · have hsum := h.resolve_left hlast
    exact ⟨onSum, by simp [hlast, hsum]⟩

lemma nextFixed_broken (hlength : body.length = 1 + addressLength) (h : Broken body sum last)
    (rest : Octets) :
    ∃ cause, nextFixed addressLength (body ++ sum :: last :: rest) =
      some (.error (.framing cause), rest) := by
  rw [nextFixed_body sum last rest hlength]
  exact refused_of_broken h _ _ _ rest

lemma nextVariable_broken {length : UInt8} (hlength : body.length = length.toNat)
    (hcomplete : 1 + addressLength ≤ body.length) (h : Broken body sum last) (rest : Octets) :
    ∃ cause, nextVariable addressLength (length :: length :: variableStart ::
        (body ++ sum :: last :: rest)) = some (.error (.framing cause), rest) := by
  rw [nextVariable_body sum last rest hlength hcomplete]
  exact refused_of_broken h _ _ _ rest

lemma encode_fixed_eq {control : ControlField} {address : Nat}
    (h : (fixed control address).encode addressLength = .ok octets) :
    octets = fixedStart :: sealed (LinkFrame.body addressLength control address []) := by
  obtain ⟨_, -, h⟩ := bind_eq_ok h
  exact (Except.ok.inj h).symm

lemma encode_userData_eq {control : ControlField} {address : Nat} {asdu : Octets}
    (h : (userData control address asdu).encode addressLength = .ok octets) :
    ∃ (body : Octets) (length : UInt8), body.length = length.toNat ∧
      1 + addressLength ≤ body.length ∧
      octets = variableStart :: length :: length :: variableStart :: sealed body := by
  obtain ⟨_, -, h⟩ := bind_eq_ok h
  dsimp only at h
  split at h
  · exact nomatch h
  · next hshort =>
    refine ⟨LinkFrame.body addressLength control address asdu, _, ?_, ?_, (Except.ok.inj h).symm⟩
    · exact (toNat_lengthByte (Nat.le_of_not_lt hshort)).symm
    · rw [length_body]
      omega

lemma nextVariable_header {lengthByte again start : UInt8}
    (h : again ≠ lengthByte ∨ start ≠ variableStart) (rest : Octets) :
    nextVariable addressLength (lengthByte :: again :: start :: rest) =
      some (.error (.framing .variableHeader), rest) := by
  unfold nextVariable
  exact if_pos h

/-- The number of octets in front of the control field. -/
def headerLength : LinkFrame → Nat
  | fixed .. => 1
  | userData .. => 4
  | singleAck | singleNack => 0

lemma next_corrupted_body (hencode : frame.encode addressLength = .ok octets)
    (hframe : frame.control? ≠ none) (hposition : frame.headerLength ≤ position)
    (hold : octets[position]? = some old) (hbyte : byte ≠ old) (rest : Octets) :
    ∃ cause, next addressLength (octets.set position byte ++ rest) =
      some (.error (.framing cause), rest) := by
  obtain ⟨position, rfl⟩ := Nat.exists_eq_add_of_le' hposition
  cases frame with
  | singleAck | singleNack => exact absurd rfl hframe
  | fixed control address =>
    obtain rfl := encode_fixed_eq hencode
    obtain ⟨body, sum, last, hset, hlength, hbroken⟩ := broken_of_set hold hbyte
    obtain ⟨cause, hnext⟩ :=
      nextFixed_broken (hlength.trans (length_body control [])) hbroken rest
    refine ⟨cause, ?_⟩
    rw [← hnext]
    -- the header stands in front of the position and is as it was
    change next addressLength (fixedStart :: ((sealed _).set position byte ++ rest)) = _
    rw [hset, List.append_assoc]
    rfl
  | userData control address asdu =>
    obtain ⟨body, length, hcount, hcomplete, rfl⟩ := encode_userData_eq hencode
    obtain ⟨body', sum, last, hset, hlength, hbroken⟩ := broken_of_set hold hbyte
    rw [← hlength] at hcount hcomplete
    obtain ⟨cause, hnext⟩ := nextVariable_broken hcount hcomplete hbroken rest
    refine ⟨cause, ?_⟩
    rw [← hnext]
    change next addressLength (variableStart :: length :: length :: variableStart ::
      ((sealed body).set position byte ++ rest)) = _
    rw [hset, List.append_assoc]
    rfl

/-- The three octets of a header behind the start octet guard each other. -/
lemma next_corrupted_header (hencode : frame.encode addressLength = .ok octets)
    (hstart : position ≠ 0) (hposition : position < frame.headerLength)
    (hold : octets[position]? = some old) (hbyte : byte ≠ old) (rest : Octets) :
    ∃ left, next addressLength (octets.set position byte ++ rest) =
      some (.error (.framing .variableHeader), left) := by
  cases frame with
  | singleAck | singleNack => exact absurd hposition (Nat.not_lt_zero position)
  | fixed control address => exact absurd (Nat.lt_one_iff.1 hposition) hstart
  | userData control address asdu =>
    obtain ⟨body, length, -, -, rfl⟩ := encode_userData_eq hencode
    match position with
    | 1 =>
      obtain rfl : length = old := by simpa using hold
      exact ⟨_, nextVariable_header (.inl hbyte.symm) _⟩
    | 2 =>
      obtain rfl : length = old := by simpa using hold
      exact ⟨_, nextVariable_header (.inl hbyte) _⟩
    | 3 =>
      obtain rfl : variableStart = old := by simpa using hold
      exact ⟨_, nextVariable_header (.inr hbyte) _⟩

/-- A fixed frame or a frame with user data in which one octet other than the start octet has been
changed is refused. If the octet stood behind the header, what follows the frame is read as if the
frame had not been there. -/
theorem next_corrupted (hencode : frame.encode addressLength = .ok octets)
    (hframe : frame.control? ≠ none) (hstart : position ≠ 0)
    (hold : octets[position]? = some old) (hbyte : byte ≠ old) (rest : Octets) :
    ∃ cause left, next addressLength (octets.set position byte ++ rest) =
        some (.error (.framing cause), left) ∧
      (frame.headerLength ≤ position → left = rest ∧
        (reader addressLength).drain (octets.set position byte ++ rest) =
          (.error (.framing cause) :: ((reader addressLength).drain rest).1,
            ((reader addressLength).drain rest).2)) := by
  by_cases hposition : frame.headerLength ≤ position
  · obtain ⟨cause, hnext⟩ := next_corrupted_body hencode hframe hposition hold hbyte rest
    exact ⟨cause, rest, hnext, fun _ => ⟨rfl, FrameReader.drain_of_finds hnext⟩⟩
  · obtain ⟨left, hnext⟩ :=
      next_corrupted_header hencode hstart (Nat.lt_of_not_le hposition) hold hbyte rest
    exact ⟨.variableHeader, left, hnext, fun hbehind => absurd hbehind hposition⟩

/-- The user data looks like the end of a frame and the start of another. -/
def telegram : Octets := [0x68, 4, 4, 0x68, 0x73, 1, 0x16, 0x68, 0xf2, 0x16]

/-- An octet of user data is changed, and then a length octet. A single character follows. -/
theorem next_corrupted_telegram :
    (userData (.primary .userDataConfirmed true true) 1 [0x16, 0x68]).encode 1 = .ok telegram ∧
      (∃ cause, (reader 1).drain (telegram.set 7 0x16 ++ [0xe5]) =
        ([.error (.framing cause), .ok .singleAck], [])) ∧
      ∃ cause left, next 1 (telegram.set 1 3 ++ [0xe5]) =
        some (.error (.framing cause), left) := by
  have hencode : (userData (.primary .userDataConfirmed true true) 1 [0x16, 0x68]).encode 1 =
      .ok telegram := rfl
  have hdata : telegram[7]? = some 0x68 := rfl
  have hlength : telegram[1]? = some 4 := rfl
  have hack : (reader 1).next [0xe5] = some (.ok .singleAck, []) := rfl
  obtain ⟨cause, _, _, hbehind⟩ := next_corrupted hencode (by decide) (by decide) hdata
    (show 0x16 ≠ 0x68 by decide) [0xe5]
  obtain ⟨cause', left', hnext, -⟩ := next_corrupted hencode (by decide) (by decide) hlength
    (show 3 ≠ 4 by decide) [0xe5]
  obtain ⟨-, hdrain⟩ := hbehind (by decide)
  rw [FrameReader.drain_of_finds hack, FrameReader.drain_of_wants (reader 1).next_nil] at hdrain
  exact ⟨hencode, ⟨cause, hdrain⟩, cause', left', hnext⟩

end LinkFrame

end Telecontrol
