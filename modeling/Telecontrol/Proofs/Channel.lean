import Mathlib.Tactic.Lemma
import Telecontrol.Inbox

/-!
# Frames on their way

A channel is one direction of a line: octets in flight and the inbox at the far end. Its contents
are what the receiver has still to read, whatever part of it has arrived. `Spells` says that octets
are the given frames one behind the other, and `Spells.take` that a receiver which takes a piece
from its inbox takes the first of these frames, however the stream was cut.
-/

namespace Telecontrol

namespace FrameReader

variable {α : Type} {reader : FrameReader α}

/-- The octets are read as one frame, whatever follows them. -/
def Reads (reader : FrameReader α) (octets : Octets) (a : α) : Prop :=
  ∀ rest, reader.next (octets ++ rest) = some (.ok a, rest)

/-- What is found at the front is found there when more octets arrive behind it. -/
def Stable (reader : FrameReader α) : Prop :=
  ∀ {octets rest : Octets} {result : Except Fault α} (more : Octets),
    reader.next octets = some (result, rest) →
      reader.next (octets ++ more) = some (result, rest ++ more)

/-- The octets are the given frames, one behind the other. -/
inductive Spells (reader : FrameReader α) : List α → Octets → Prop
  | nil : Spells reader [] []
  | cons {a : α} {frames : List α} {octets rest : Octets} :
    reader.Reads octets a → Spells reader frames rest → Spells reader (a :: frames) (octets ++ rest)

lemma Spells.append {first second : List α} {octets more : Octets}
    (h : reader.Spells first octets) (h' : reader.Spells second more) :
    reader.Spells (first ++ second) (octets ++ more) := by
  induction h with
  | nil => exact h'
  | cons hread _ ih =>
    rw [List.cons_append, List.append_assoc]
    exact .cons hread ih

lemma Spells.single {octets : Octets} {a : α} (h : reader.Reads octets a) :
    reader.Spells [a] octets := by
  have hcons := Spells.cons h .nil
  rwa [List.append_nil] at hcons

lemma Spells.eq_nil_iff {frames : List α} {octets : Octets} (h : reader.Spells frames octets) :
    octets = [] ↔ frames = [] := by
  cases h with
  | nil => simp
  | @cons a frames octets rest hread _ =>
    refine iff_of_false (fun hnil => ?_) (by simp)
    obtain ⟨rfl, rfl⟩ := List.append_eq_nil_iff.1 hnil
    have hshort := reader.shorter (hread [])
    simp at hshort

lemma Spells.next {frames : List α} {waiting flight rest : Octets} {result : Except Fault α}
    (hstable : reader.Stable) (h : reader.Spells frames (waiting ++ flight))
    (hnext : reader.next waiting = some (result, rest)) :
    ∃ a others, frames = a :: others ∧ result = .ok a ∧ reader.Spells others (rest ++ flight) := by
  have hfound := hstable flight hnext
  generalize hall : waiting ++ flight = all at h hfound
  cases h with
  | nil =>
    have hshort := reader.shorter hfound
    simp at hshort
  | @cons a others octets remaining hread hothers =>
    rw [hread remaining] at hfound
    obtain ⟨rfl, rfl⟩ : Except.ok a = result ∧ remaining = rest ++ flight := by simpa using hfound
    exact ⟨a, others, rfl, rfl, hothers⟩

end FrameReader

/-- One direction of a line: octets that are on their way, and the inbox where they arrive. -/
structure Channel where
  inbox : Inbox := {}
  flight : Octets := []
deriving DecidableEq, Repr

namespace Channel

/-- All that the receiver has still to read, in the order in which it was written. -/
def contents (c : Channel) : Octets := c.inbox.waiting ++ c.flight

def put (octets : Octets) (c : Channel) : Channel := { c with flight := c.flight ++ octets }

/-- Some of the octets that are on their way arrive. -/
def carry (count : Nat) (c : Channel) : Channel where
  inbox := c.inbox.add (c.flight.take count)
  flight := c.flight.drop count

/-- The end of the stream arrives behind all octets. -/
def hangUp (c : Channel) : Channel := { c with inbox := c.inbox.stop .finished }

@[simp] lemma contents_put (octets : Octets) (c : Channel) :
    (c.put octets).contents = c.contents ++ octets := by
  simp [contents, put]

@[simp] lemma contents_carry (count : Nat) (c : Channel) :
    (c.carry count).contents = c.contents := by
  simp [contents, carry, Inbox.add]

@[simp] lemma contents_hangUp (c : Channel) : c.hangUp.contents = c.contents := rfl

lemma waiting_carry_all (c : Channel) : (c.carry c.flight.length).inbox.waiting = c.contents := by
  simp [contents, carry, Inbox.add]

end Channel

lemma Inbox.takeFrameEnd_cases {α : Type} {b : Inbox} {arrival : Arrival α}
    (h : b.takeFrameEnd = some arrival) :
    arrival = .ended ∨ ∃ text, arrival = .fault (.io text) := by
  unfold Inbox.takeFrameEnd Inbox.takeEnd at h
  rcases hstop : b.ending with _ | _ | text
  · simp [hstop] at h
  · cases hempty : b.waiting.isEmpty
    · exact .inr ⟨_, by simpa [hstop, hempty] using h.symm⟩
    · exact .inl (by simpa [hstop, hempty] using h.symm)
  · exact .inr ⟨text, by simpa [hstop] using h.symm⟩

lemma Inbox.ending_of_takeFrame {α : Type} {reader : FrameReader α} {b b' : Inbox}
    {result : Except Fault α} (h : b.takeFrame reader = some (result, b')) :
    b'.ending = b.ending := by
  obtain ⟨found, hnext, heq⟩ := Option.map_eq_some_iff.1 h
  rw [← (Prod.mk.inj heq).2]

lemma Inbox.next_of_take {α : Type} {reader : FrameReader α} {b b' : Inbox} {a : α}
    (h : b.take reader = some (.frame a, b')) :
    reader.next b.waiting = some (.ok a, b'.waiting) := by
  unfold Inbox.take at h
  cases hframe : b.takeFrame reader with
  | some found =>
    obtain ⟨⟨result, rest⟩, hnext, rfl⟩ := Option.map_eq_some_iff.1 hframe
    rw [hframe] at h
    cases result with
    | ok a' =>
      obtain ⟨rfl, rfl⟩ := by simpa using h
      exact hnext
    | error f => simp at h
  | none =>
    rw [hframe] at h
    obtain ⟨arrival, hend, heq⟩ := Option.map_eq_some_iff.1 h
    obtain rfl : arrival = .frame a := congrArg Prod.fst heq
    rcases Inbox.takeFrameEnd_cases hend with hended | ⟨text, hfault⟩
    · cases hended
    · cases hfault

namespace FrameReader

variable {α : Type} {reader : FrameReader α}

lemma Spells.takeFrame {frames : List α} {c : Channel} {result : Except Fault α} {inbox : Inbox}
    (hstable : reader.Stable) (h : reader.Spells frames c.contents)
    (htake : c.inbox.takeFrame reader = some (result, inbox)) :
    ∃ a others, frames = a :: others ∧ result = .ok a ∧
      reader.Spells others { c with inbox }.contents := by
  obtain ⟨⟨found, rest⟩, hnext, heq⟩ := Option.map_eq_some_iff.1 htake
  obtain ⟨rfl, rfl⟩ : found = result ∧ { c.inbox with waiting := rest } = inbox := by
    simpa using heq
  exact h.next hstable hnext

lemma Spells.take {frames : List α} {c : Channel} {arrival : Arrival α} {inbox : Inbox}
    (hstable : reader.Stable) (h : reader.Spells frames c.contents)
    (htake : c.inbox.take reader = some (arrival, inbox)) :
    (∃ a others, frames = a :: others ∧ arrival = .frame a ∧
        reader.Spells others { c with inbox }.contents) ∨
      ((arrival = .ended ∨ ∃ text, arrival = .fault (.io text)) ∧ inbox = c.inbox) := by
  unfold Inbox.take at htake
  cases hframe : c.inbox.takeFrame reader with
  | some found =>
    obtain ⟨result, rest⟩ := found
    obtain ⟨a, others, rfl, rfl, hothers⟩ := h.takeFrame hstable hframe
    rw [hframe] at htake
    obtain ⟨rfl, rfl⟩ : Arrival.frame a = arrival ∧ rest = inbox := by simpa using htake
    exact .inl ⟨a, others, rfl, rfl, hothers⟩
  | none =>
    rw [hframe] at htake
    obtain ⟨ending, hend, heq⟩ := Option.map_eq_some_iff.1 htake
    obtain ⟨rfl, rfl⟩ : ending = arrival ∧ c.inbox = inbox := by simpa using heq
    exact .inr ⟨Inbox.takeFrameEnd_cases hend, rfl⟩

lemma Spells.arrived {a : α} {frames : List α} {c : Channel}
    (h : reader.Spells (a :: frames) c.contents) (hall : c.flight = []) :
    ∃ inbox, c.inbox.takeFrame reader = some (.ok a, inbox) := by
  rw [Channel.contents, hall, List.append_nil] at h
  generalize hwaiting : c.inbox.waiting = waiting at h
  cases h with
  | cons hread _ =>
    rw [Inbox.takeFrame, hwaiting, hread]
    exact ⟨_, rfl⟩

end FrameReader

end Telecontrol
