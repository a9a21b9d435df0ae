import Mathlib.Tactic.Lemma
import Telecontrol.Apci.Window

/-!
# What windows count

Numbers on the wire are counts modulo 32768. A sender that has sent `sent` frames, of which the
first `oldest` are acknowledged, understands the acknowledgment of any count in between, because it
never has as many frames outstanding as there are numbers. A number that lies further ahead than all
its outstanding frames is not applied.
-/

namespace Telecontrol

lemma Sequence.next_mod (n : Nat) : next (n % sequenceModulus) = (n + 1) % sequenceModulus := by
  unfold next sequenceModulus
  omega

namespace SendWindow

variable {w w' : SendWindow} {sent oldest number acked now : Nat}

lemma distance_unacked (hnext : w.nextNumber = sent % sequenceModulus)
    (hcount : oldest + w.unacked = sent) :
    Sequence.distance w.unacked w.nextNumber = oldest % sequenceModulus := by
  unfold Sequence.distance sequenceModulus at *
  omega

lemma acknowledge_count (hnext : w.nextNumber = sent % sequenceModulus)
    (hcount : oldest + w.unacked = sent) (hfew : w.unacked < sequenceModulus)
    (hfrom : oldest ≤ number) (hto : number ≤ sent) :
    w.acknowledge (number % sequenceModulus) =
      some (number - oldest, { w with sent := w.sent.extract (number - oldest) w.sent.size }) := by
  have hacked : Sequence.distance (oldest % sequenceModulus) (number % sequenceModulus) =
      number - oldest := by
    unfold Sequence.distance sequenceModulus at *
    omega
  unfold acknowledge
  simp only [distance_unacked hnext hcount, hacked]
  rw [if_neg (by omega)]

lemma acknowledge_beyond (hnext : w.nextNumber = w.unacked % sequenceModulus)
    (hbeyond : w.unacked < number) (hrange : number < sequenceModulus) :
    w.acknowledge number = none := by
  have holdest : Sequence.distance w.unacked w.nextNumber = 0 % sequenceModulus :=
    distance_unacked hnext (Nat.zero_add _)
  have hacked : Sequence.distance (0 % sequenceModulus) number = number := by
    unfold Sequence.distance sequenceModulus at *
    omega
  unfold acknowledge
  simp only [holdest, hacked]
  rw [if_pos hbeyond]

lemma acknowledge_any (hnext : w.nextNumber = sent % sequenceModulus)
    (hcount : oldest + w.unacked = sent) (number : Nat) :
    w.acknowledge number =
      if oldest + Sequence.distance oldest number ≤ sent then
        some (Sequence.distance oldest number,
          { w with sent := w.sent.extract (Sequence.distance oldest number) w.sent.size })
      else none := by
  have hacked : Sequence.distance (oldest % sequenceModulus) number =
      Sequence.distance oldest number := by
    unfold Sequence.distance
    rw [Nat.mod_mod]
  unfold acknowledge
  simp only [distance_unacked hnext hcount, hacked]
  by_cases hwithin : oldest + Sequence.distance oldest number ≤ sent
  · rw [if_pos hwithin, if_neg (by omega)]
  · rw [if_neg hwithin, if_pos (by omega)]

lemma acknowledge_eq_some (h : w.acknowledge number = some (acked, w')) :
    w'.k = w.k ∧ w'.nextNumber = w.nextNumber ∧ acked + w'.unacked = w.unacked := by
  unfold acknowledge at h
  dsimp only at h
  split at h
  · exact nomatch h
  · next hfew =>
    obtain ⟨rfl, rfl⟩ := by simpa using h
    refine ⟨rfl, rfl, ?_⟩
    simp only [unacked, Array.size_extract] at hfew ⊢
    omega

lemma reserve_eq_ok (h : w.reserve now = .ok (number, w')) :
    number = w.nextNumber ∧ w.unacked < w.k ∧ w'.k = w.k ∧
      w'.nextNumber = Sequence.next w.nextNumber ∧ w'.unacked = w.unacked + 1 := by
  unfold reserve at h
  split at h
  · exact nomatch h
  · next hfull =>
    obtain ⟨rfl, rfl⟩ := by simpa using h
    refine ⟨rfl, by simpa [isFull] using hfull, rfl, rfl, ?_⟩
    simp [unacked]

end SendWindow

namespace ReceiveWindow

lemma accept_eq_ok {r r' : ReceiveWindow} {number : Nat} {due : Bool}
    (h : r.accept number = .ok (due, r')) :
    number = r.nextNumber ∧ r'.nextNumber = Sequence.next r.nextNumber := by
  unfold accept at h
  split at h
  · exact nomatch h
  · next hnumber =>
    obtain ⟨-, rfl⟩ := by simpa using h
    exact ⟨Decidable.not_not.1 hnumber, rfl⟩

lemma accept_next (r : ReceiveWindow) : ∃ due r', r.accept r.nextNumber = .ok (due, r') := by
  simp [accept]

end ReceiveWindow

end Telecontrol
