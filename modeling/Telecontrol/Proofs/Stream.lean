import Telecontrol.Proofs.Channel
import Telecontrol.Proofs.Fallible

/-!
# Streams that arrive in pieces

A receiver reads after each piece as far as it can and lets the rest wait. If its reader is stable,
this comes to the same as reading the whole stream at once (`receive_eq_drain`), so that the cuts
leave no trace. What is written part by part is read part by part, if each part is found whatever
follows it (`receive_written`).
-/

namespace Telecontrol

namespace FrameReader

variable {α : Type} {reader : FrameReader α} {octets rest : Octets} {result : Except Fault α}

lemma next_nil (reader : FrameReader α) : reader.next [] = none := by
  cases h : reader.next [] with
  | none => rfl
  | some found => exact absurd (reader.shorter h) (Nat.not_lt_zero _)

lemma drain_of_wants (h : reader.next octets = none) : reader.drain octets = ([], octets) := by
  rw [drain]
  split
  · rfl
  · next heq => simp [h] at heq

lemma drain_of_finds (h : reader.next octets = some (result, rest)) :
    reader.drain octets = (result :: (reader.drain rest).1, (reader.drain rest).2) := by
  rw [drain]
  split
  · next heq => simp [h] at heq
  · next heq =>
    obtain ⟨rfl, rfl⟩ : _ = result ∧ _ = rest := by simpa [h, eq_comm] using heq
    rfl

/-- Induction over the calls of a reader: either it wants more octets, or it finds a result and goes
on with the rest. -/
@[elab_as_elim]
lemma call_induction (reader : FrameReader α) {motive : Octets → Prop} (octets : Octets)
    (wants : ∀ octets, reader.next octets = none → motive octets)
    (finds : ∀ octets result rest, reader.next octets = some (result, rest) → motive rest →
      motive octets) : motive octets := by
  induction hlength : octets.length using Nat.strongRecOn generalizing octets with
  | _ length ih =>
    cases hnext : reader.next octets with
    | none => exact wants octets hnext
    | some found =>
      obtain ⟨result, rest⟩ := found
      have hshorter := reader.shorter hnext
      exact finds octets result rest hnext (ih rest.length (by omega) rest rfl)

lemma next_drain (reader : FrameReader α) (octets : Octets) :
    reader.next (reader.drain octets).2 = none := by
  induction octets using reader.call_induction with
  | wants octets h => rw [drain_of_wants h, h]
  | finds octets result rest h ih => rw [drain_of_finds h, ih]

lemma length_drain_le (reader : FrameReader α) (octets : Octets) :
    (reader.drain octets).1.length + (reader.drain octets).2.length ≤ octets.length := by
  induction octets using reader.call_induction with
  | wants octets h =>
    rw [drain_of_wants h]
    simp
  | finds octets result rest h ih =>
    -- the octet that the call has used up pays for its result
    have hshorter := reader.shorter h
    simp only [drain_of_finds h, List.length_cons]
    omega

lemma drain_append (hstable : reader.Stable) (octets more : Octets) :
    reader.drain (octets ++ more) =
      ((reader.drain octets).1 ++ (reader.drain ((reader.drain octets).2 ++ more)).1,
        (reader.drain ((reader.drain octets).2 ++ more)).2) := by
  induction octets using reader.call_induction with
  | wants octets h =>
    rw [drain_of_wants h]
    rfl
  | finds octets result rest h ih =>
    rw [drain_of_finds h, drain_of_finds (hstable more h), ih]
    rfl

lemma receive_of_wants (hstable : reader.Stable) {waiting : Octets}
    (hwaiting : reader.next waiting = none) (pieces : List Octets) :
    reader.receive waiting pieces = reader.drain (waiting ++ pieces.flatten) := by
  -- between two pieces the octets that wait are never enough for a call
  induction pieces generalizing waiting with
  | nil =>
    rw [List.flatten_nil, List.append_nil, drain_of_wants hwaiting]
    rfl
  | cons piece pieces ih =>
    have hothers := ih (reader.next_drain (waiting ++ piece))
    rw [List.flatten_cons, ← List.append_assoc, drain_append hstable, ← hothers]
    rfl

/-- A stream that arrives in pieces is read as if it had arrived at once. -/
theorem receive_eq_drain (hstable : reader.Stable) (pieces : List Octets) :
    reader.receive [] pieces = reader.drain pieces.flatten :=
  receive_of_wants hstable reader.next_nil pieces

/-- The octets are read as the result, whatever follows them. -/
def Finds (reader : FrameReader α) (octets : Octets) (result : Except Fault α) : Prop :=
  ∀ rest, reader.next (octets ++ rest) = some (result, rest)

lemma Reads.finds {a : α} (h : reader.Reads octets a) : reader.Finds octets (.ok a) := h

lemma receive_written {ι : Type} {items : List ι} {write : ι → Except Fault Octets}
    {reading : ι → Except Fault α} (hstable : reader.Stable)
    (h : ∀ i ∈ items, ∃ octets, write i = .ok octets ∧ reader.Finds octets (reading i)) :
    ∃ parts, items.mapM write = .ok parts ∧
      ∀ pieces : List Octets, pieces.flatten = parts.flatten →
        reader.receive [] pieces = (items.map reading, []) := by
  suffices hdrain : ∃ parts, items.mapM write = .ok parts ∧
      reader.drain parts.flatten = (items.map reading, []) by
    obtain ⟨parts, hparts, hread⟩ := hdrain
    refine ⟨parts, hparts, ?_⟩
    intro pieces hpieces
    rw [receive_eq_drain hstable, hpieces, hread]
  induction items with
  | nil => exact ⟨[], rfl, drain_of_wants reader.next_nil⟩
  | cons i items ih =>
    obtain ⟨hfirst, hothers⟩ := List.forall_mem_cons.1 h
    obtain ⟨octets, hwrite, hfinds⟩ := hfirst
    obtain ⟨parts, hparts, hread⟩ := ih hothers
    refine ⟨octets :: parts, ?_, ?_⟩
    · rw [List.mapM_cons, hwrite, ok_bind, hparts, ok_bind, pure_eq_ok]
    · rw [List.flatten_cons, drain_of_finds (hfinds parts.flatten), hread, List.map_cons]

end FrameReader

end Telecontrol
