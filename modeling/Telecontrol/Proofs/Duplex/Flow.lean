import Telecontrol.Proofs.Apci.Window
import Telecontrol.Proofs.Connection.Transfer

/-!
# Frames between the two ends

What may lie between the two ends of a connection, counted without a modulus: the data follows on
what the reader has received, and the acknowledgments rise from what the reader has had
acknowledged to what the writer has received. Acknowledgments are described only as far as they are
known to be `honest`: a receipt that comes late, when its number belongs to a numbering that has
ended, is harmless only if it acknowledges nothing.
-/

namespace Telecontrol

/-- How far one end has come with its numberings: frames sent, how many of them are acknowledged,
and frames received. -/
structure Count where
  sent : Nat
  oldest : Nat
  received : Nat

namespace Count

def zero : Count := ⟨0, 0, 0⟩

end Count

/-- The acknowledgment of a number takes what is acknowledged to `count`. A number beyond all that
can be outstanding since the numbering began leaves it at zero. -/
def Settles (honest : Prop) (k acknowledged number count : Nat) : Prop :=
  honest → (acknowledged ≤ count ∧ number = count % sequenceModulus) ∨
    (acknowledged = 0 ∧ count = 0 ∧ k < number ∧ number < sequenceModulus)

/-- Frames that take their reader from `n` received and `a` acknowledged to `m` and `b`. -/
inductive Flow (honest : Prop) (k : Nat) : (n a : Nat) → List Apdu → (m b : Nat) → Prop
  | nil (n a : Nat) : Flow honest k n a [] n a
  | test {n a m b : Nat} {function : UFunction} {frames : List Apdu} :
      function = .testFrAct ∨ function = .testFrCon → Flow honest k n a frames m b →
      Flow honest k n a (.uFrame function :: frames) m b
  | receipt {n a m b number count : Nat} {frames : List Apdu} :
      Settles honest k a number count → Flow honest k n count frames m b →
      Flow honest k n a (.sFrame number :: frames) m b
  | data {n a m b number count : Nat} {frames : List Apdu} (asdu : Asdu) :
      Settles honest k a number count → Flow honest k (n + 1) count frames m b →
      Flow honest k n a (.iFrame (n % sequenceModulus) number asdu :: frames) m b

namespace Flow

variable {honest : Prop} {k n a m b l c number count : Nat} {frames more : List Apdu}

lemma append (h : Flow honest k n a frames m b) (h' : Flow honest k m b more l c) :
    Flow honest k n a (frames ++ more) l c := by
  induction h with
  | nil => exact h'
  | test hfunction _ ih => exact .test hfunction (ih h')
  | receipt hsettles _ ih => exact .receipt hsettles (ih h')
  | data asdu hsettles _ ih => exact .data asdu hsettles (ih h')

lemma length_data (h : Flow honest k n a frames m b) : n + (Apdu.data frames).length = m := by
  induction h with
  | nil => rfl
  | test _ _ ih => exact ih
  | receipt _ _ ih => exact ih
  | data asdu _ _ ih =>
    rw [Apdu.data_iFrame, List.length_cons, ← ih]
    omega

lemma acknowledged_le (h : Flow honest k n a frames m b) (hhonest : honest) : a ≤ b := by
  induction h with
  | nil => exact Nat.le_refl _
  | test _ _ ih => exact ih
  | receipt hsettles _ ih =>
    rcases hsettles hhonest with h | h <;> omega
  | data asdu hsettles _ ih =>
    rcases hsettles hhonest with h | h <;> omega

end Flow

/-- Frames of a writer that has sent `m` frames and received `r`. -/
def Course (honest : Prop) (k n a : Nat) (frames : List Apdu) (m r : Nat) : Prop :=
  ∃ b, Flow honest k n a frames m b ∧ (honest → b ≤ r)

namespace Course

variable {honest : Prop} {k n a m r r' number : Nat} {frames : List Apdu} {function : UFunction}

lemma length_data (h : Course honest k n a frames m r) : n + (Apdu.data frames).length = m := by
  obtain ⟨b, hflow, -⟩ := h
  exact hflow.length_data

lemma acknowledged_le (h : Course honest k n a frames m r) (hhonest : honest) : a ≤ r := by
  obtain ⟨b, hflow, hle⟩ := h
  exact Nat.le_trans (hflow.acknowledged_le hhonest) (hle hhonest)

lemma mono (h : Course honest k n a frames m r) (hr : honest → r ≤ r') :
    Course honest k n a frames m r' := by
  obtain ⟨b, hflow, hle⟩ := h
  exact ⟨b, hflow, fun hhonest => Nat.le_trans (hle hhonest) (hr hhonest)⟩

lemma putTest (h : Course honest k n a frames m r)
    (hfunction : function = .testFrAct ∨ function = .testFrCon) :
    Course honest k n a (frames ++ [.uFrame function]) m r := by
  obtain ⟨b, hflow, hle⟩ := h
  exact ⟨b, hflow.append (.test hfunction (.nil m b)), hle⟩

lemma putReceipt (h : Course honest k n a frames m r) :
    Course honest k n a (frames ++ [.sFrame (r % sequenceModulus)]) m r := by
  obtain ⟨b, hflow, hle⟩ := h
  have hsettles : Settles honest k b (r % sequenceModulus) r := fun hhonest =>
    .inl ⟨hle hhonest, rfl⟩
  exact ⟨r, hflow.append (.receipt hsettles (.nil m r)), fun _ => Nat.le_refl _⟩

lemma putData (h : Course honest k n a frames m r) (asdu : Asdu) :
    Course honest k n a
      (frames ++ [.iFrame (m % sequenceModulus) (r % sequenceModulus) asdu]) (m + 1) r := by
  obtain ⟨b, hflow, hle⟩ := h
  have hsettles : Settles honest k b (r % sequenceModulus) r := fun hhonest =>
    .inl ⟨hle hhonest, rfl⟩
  exact ⟨r, hflow.append (.data asdu hsettles (.nil (m + 1) r)), fun _ => Nat.le_refl _⟩

lemma putLate (h : Course honest k n a frames m 0) (hrange : number < sequenceModulus)
    (hharmless : honest → number = 0 ∨ k < number) :
    Course honest k n a (frames ++ [.sFrame number]) m 0 := by
  obtain ⟨b, hflow, hle⟩ := h
  have hsettles : Settles honest k b number 0 := by
    intro hhonest
    have hb := hle hhonest
    rcases hharmless hhonest with h | h
    · exact .inl ⟨hb, by rw [h]; rfl⟩
    · exact .inr ⟨by omega, rfl, h, hrange⟩
  exact ⟨0, hflow.append (.receipt hsettles (.nil m 0)), fun _ => Nat.le_refl _⟩

lemma takeFunction (h : Course honest k n a (.uFrame function :: frames) m r) :
    (function = .testFrAct ∨ function = .testFrCon) ∧ Course honest k n a frames m r := by
  obtain ⟨b, hflow, hle⟩ := h
  cases hflow with
  | test hfunction hrest => exact ⟨hfunction, b, hrest, hle⟩

lemma takeReceipt (h : Course honest k n a (.sFrame number :: frames) m r) :
    ∃ count, Settles honest k a number count ∧ (honest → count ≤ r) ∧
      Course honest k n count frames m r := by
  obtain ⟨b, hflow, hle⟩ := h
  cases hflow with
  | @receipt _ _ _ _ _ count _ hsettles hrest =>
    exact ⟨count, hsettles, fun hhonest => Nat.le_trans (hrest.acknowledged_le hhonest) (hle hhonest),
      b, hrest, hle⟩

lemma takeData {send : Nat} {asdu : Asdu}
    (h : Course honest k n a (.iFrame send number asdu :: frames) m r) :
    send = n % sequenceModulus ∧ n < m ∧
      ∃ count, Settles honest k a number count ∧ (honest → count ≤ r) ∧
        Course honest k (n + 1) count frames m r := by
  have hlength := h.length_data
  obtain ⟨b, hflow, hle⟩ := h
  cases hflow with
  | @data _ _ _ _ _ count _ _ hsettles hrest =>
    refine ⟨rfl, ?_, count, hsettles,
      fun hhonest => Nat.le_trans (hrest.acknowledged_le hhonest) (hle hhonest), b, hrest, hle⟩
    have hrest := hrest.length_data
    omega

lemma front {frame : Apdu} (h : Course honest k n a (frame :: frames) m r) :
    (∃ function, frame = .uFrame function) ∨ (∃ number, frame = .sFrame number) ∨
      ∃ number asdu, frame = .iFrame (n % sequenceModulus) number asdu ∧ n < m := by
  obtain ⟨b, hflow, hle⟩ := h
  cases hflow with
  | test => exact .inl ⟨_, rfl⟩
  | receipt => exact .inr (.inl ⟨_, rfl⟩)
  | data asdu _ hrest =>
    have hlength := hrest.length_data
    exact .inr (.inr ⟨_, asdu, rfl, by omega⟩)

end Course

end Telecontrol
