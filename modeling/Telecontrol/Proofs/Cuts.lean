import Telecontrol.Proofs.Apci.RoundTrip
import Telecontrol.Proofs.Ft12.RoundTrip
import Telecontrol.Proofs.Stream

/-!
# Where a stream is cut does not matter

Both kinds of receivers find the same in a stream, malformed or not, however it was cut into pieces.
Each of their calls either takes octets from the front or wants more and leaves all of them; what
waits is less than one frame.
-/

namespace Telecontrol

namespace Found

variable {α : Type} {limit : Nat} {octets : Octets} {found : Found α}

/-- What is found leaves the end of the octets, and more octets are wanted only behind a few. -/
def Within (limit : Nat) (octets : Octets) : Found α → Prop
  | none => octets.length ≤ limit
  | some (_, rest) => rest <:+ octets

lemma Within.cons (octet : UInt8) (h : Within limit octets found) :
    Within (limit + 1) (octet :: octets) found := by
  match found with
  | none => exact Nat.succ_le_succ h
  | some (_, rest) => exact h.trans (List.suffix_cons octet octets)

lemma Within.mono {limit' : Nat} (hlimit : limit ≤ limit') (h : Within limit octets found) :
    Within limit' octets found := by
  match found with
  | none => exact Nat.le_trans h hlimit
  | some _ => exact h

end Found

namespace FrameReader

variable {α : Type} {reader : FrameReader α} {limit : Nat}

/-- A receiver can rely on the reader whatever arrives. -/
structure Seamless (reader : FrameReader α) (limit : Nat) : Prop where
  /-- Neither the results nor the octets that wait depend on the cuts. -/
  cut : ∀ pieces pieces' : List Octets, pieces.flatten = pieces'.flatten →
    reader.receive [] pieces = reader.receive [] pieces'
  takes : ∀ octets result rest, reader.next octets = some (result, rest) →
    ∃ taken, taken ≠ [] ∧ octets = taken ++ rest
  wants : ∀ octets, reader.next octets = none → reader.drain octets = ([], octets)
  /-- More octets are wanted after at most one call for each octet. -/
  ends : ∀ octets, (reader.drain octets).1.length ≤ octets.length ∧
    reader.next (reader.drain octets).2 = none
  waits : ∀ pieces : List Octets, (reader.receive [] pieces).2.length ≤ limit

lemma Stable.seamless (hstable : reader.Stable)
    (hwithin : ∀ octets, Found.Within limit octets (reader.next octets)) :
    reader.Seamless limit where
  cut := by
    intro pieces pieces' h
    rw [receive_eq_drain hstable, receive_eq_drain hstable, h]
  takes := by
    intro octets result rest h
    have hsuffix := hwithin octets
    rw [h] at hsuffix
    obtain ⟨taken, rfl⟩ := hsuffix
    -- nothing taken would leave the octets as long as they were
    refine ⟨taken, ?_, rfl⟩
    rintro rfl
    exact absurd (reader.shorter h) (Nat.lt_irrefl _)
  wants := fun _ h => drain_of_wants h
  ends := by
    intro octets
    have hcalls := reader.length_drain_le octets
    exact ⟨by omega, reader.next_drain octets⟩
  waits := by
    intro pieces
    have hleft := hwithin (reader.drain pieces.flatten).2
    rw [reader.next_drain] at hleft
    rw [receive_eq_drain hstable]
    exact hleft

end FrameReader

namespace Apdu

lemma within_next (widths : FieldWidths) (octets : Octets) :
    Found.Within (1 + Apci.maxLength) octets (next widths octets) := by
  match octets with
  | [] => exact Nat.zero_le _
  | [start] =>
    unfold next
    dsimp only
    split
    · exact List.nil_suffix
    · exact Nat.le_add_right 1 Apci.maxLength
  | start :: lengthByte :: octets =>
    unfold next
    dsimp only
    split
    · exact List.suffix_cons start _
    · split
      · exact List.suffix_append [start, lengthByte] octets
      · split
        · change octets.length + 2 ≤ 1 + Apci.maxLength
          omega
        · exact (List.drop_suffix _ octets).trans (List.suffix_append [start, lengthByte] octets)

end Apdu

namespace LinkFrame

variable {addressLength : Nat}

lemma within_nextFixed (octets : Octets) :
    Found.Within (2 + addressLength) octets (nextFixed addressLength octets) := by
  unfold nextFixed
  dsimp only
  split
  · change octets.length ≤ 2 + addressLength
    omega
  · exact List.drop_suffix _ octets

lemma within_nextVariable (octets : Octets) :
    Found.Within (4 + maxLength) octets (nextVariable addressLength octets) := by
  match octets with
  | [] | [_] | [_, _] =>
    unfold nextVariable maxLength
    simp [Found.Within]
  | lengthByte :: again :: start :: octets =>
    have hheader := List.suffix_append [lengthByte, again, start] octets
    have hlength : lengthByte.toNat ≤ maxLength := Nat.le_of_lt_succ lengthByte.toNat_lt
    simp only [nextVariable]
    split
    · exact hheader
    · split
      · exact hheader
      · split
        · change octets.length + 3 ≤ 4 + maxLength
          omega
        · exact (List.drop_suffix _ octets).trans hheader

lemma within_next (haddress : addressLength ≤ 2) (octets : Octets) :
    Found.Within (5 + maxLength) octets (next addressLength octets) := by
  match octets with
  | [] => exact Nat.zero_le _
  | start :: octets =>
    unfold next
    dsimp only
    split
    · exact List.suffix_cons start octets
    · split
      · exact List.suffix_cons start octets
      · split
        · have hfixed : Found.Within (2 + addressLength) octets (nextFixed addressLength octets) :=
            within_nextFixed octets
          apply (hfixed.cons start).mono
          unfold maxLength
          omega
        · split
          · exact (within_nextVariable octets).cons start
          · exact List.suffix_cons start octets

end LinkFrame

/-- However the octets of a stream arrive, the receivers of both kinds of lines find the same, and
stop where less than a frame is left. -/
theorem readers_seamless (widths : FieldWidths) {addressLength : Nat}
    (h : LinkFrame.checkAddressLength addressLength = .ok ()) :
    (Apdu.reader widths).Seamless 254 ∧ (LinkFrame.reader addressLength).Seamless 260 := by
  have haddress := LinkFrame.checkAddressLength_eq_ok_iff.1 h
  constructor
  · exact FrameReader.Stable.seamless (Apdu.reader_stable widths) (Apdu.within_next widths)
  · exact FrameReader.Stable.seamless (LinkFrame.reader_stable addressLength)
      (LinkFrame.within_next haddress)

/-- A header whose length octets differ, a frame with a wrong end octet, and the front of a frame,
in one piece and in four. -/
theorem readers_seamless_malformed :
    LinkFrame.checkAddressLength 2 = .ok () ∧
      (LinkFrame.reader 2).receive [] [[0x68, 5, 6, 0x68, 0x10, 0x40, 1, 0, 0x41, 0x17, 0x10]] =
        ([.error (.framing .variableHeader), .error (.framing (.fixedEnd 0x17))], [0x10]) ∧
      (LinkFrame.reader 2).receive []
          [[0x68, 5], [], [6, 0x68, 0x10, 0x40], [1, 0, 0x41, 0x17, 0x10]] =
        ([.error (.framing .variableHeader), .error (.framing (.fixedEnd 0x17))], [0x10]) := by
  have hwidth : LinkFrame.checkAddressLength 2 = .ok () := rfl
  have hseamless := (readers_seamless .network hwidth).2
  have hheader : (LinkFrame.reader 2).next [0x68, 5, 6, 0x68, 0x10, 0x40, 1, 0, 0x41, 0x17, 0x10] =
      some (.error (.framing .variableHeader), [0x10, 0x40, 1, 0, 0x41, 0x17, 0x10]) := rfl
  have hend : (LinkFrame.reader 2).next [0x10, 0x40, 1, 0, 0x41, 0x17, 0x10] =
      some (.error (.framing (.fixedEnd 0x17)), [0x10]) := rfl
  have hfront : (LinkFrame.reader 2).next [0x10] = none := rfl
  have hwhole : (LinkFrame.reader 2).receive []
      [[0x68, 5, 6, 0x68, 0x10, 0x40, 1, 0, 0x41, 0x17, 0x10]] =
        ([.error (.framing .variableHeader), .error (.framing (.fixedEnd 0x17))], [0x10]) := by
    rw [FrameReader.receive_eq_drain (LinkFrame.reader_stable 2), List.flatten_singleton,
      FrameReader.drain_of_finds hheader, FrameReader.drain_of_finds hend, hseamless.wants _ hfront]
  refine ⟨hwidth, hwhole, ?_⟩
  rw [← hwhole]
  exact hseamless.cut _ _ rfl

end Telecontrol
