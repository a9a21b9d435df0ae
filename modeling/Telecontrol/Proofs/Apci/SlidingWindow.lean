import Mathlib.Data.List.Induction
import Telecontrol.Proofs.Apci.Window

/-!
# The send window counts without end

The numbers that a send window gives and takes begin again at zero after 32768 frames, and it
forgets each frame that is acknowledged. The ledger beside it forgets nothing since the numbering
began: it has the time at which each frame was sent, and how many of these frames are acknowledged.
It is kept by what the window answers. Whatever is asked of the window, it answers as the ledger
calls for (`window_slides`).
-/

namespace Telecontrol

namespace Sequence

variable {start count number : Nat}

lemma distance_of_mod_eq (hfrom : start ≤ count) (hnear : count < start + sequenceModulus)
    (hnumber : count % sequenceModulus = number % sequenceModulus) :
    distance start number = count - start := by
  unfold distance sequenceModulus at *
  omega

lemma add_distance_mod (start number : Nat) :
    (start + distance start number) % sequenceModulus = number % sequenceModulus := by
  unfold distance sequenceModulus
  omega

end Sequence

namespace SendWindow

inductive Operation
  /-- A frame is to be sent at a time. -/
  | reserve (now : Nat)
  | acknowledge (number : Nat)
  | reset
deriving DecidableEq, Repr

/-- When a frame is to be sent. -/
def Operation.time? : Operation → Option Nat
  | reserve now => some now
  | _ => none

/-- All frames since the numbering began. -/
structure Ledger where
  /-- When each of them was sent, oldest first. -/
  times : List Nat := []
  /-- How many of them are acknowledged. -/
  acked : Nat := 0
deriving DecidableEq, Repr

def Ledger.sent (l : Ledger) : Nat := l.times.length

/-- The number stands for a count between the acknowledged frames and the sent ones. -/
def Ledger.Confirms (l : Ledger) (number count : Nat) : Prop :=
  l.acked ≤ count ∧ count ≤ l.sent ∧ count % sequenceModulus = number % sequenceModulus

instance (l : Ledger) (number count : Nat) : Decidable (l.Confirms number count) := by
  unfold Ledger.Confirms
  infer_instance

/-- A send window and its ledger. -/
structure Booked where
  window : SendWindow
  ledger : Ledger := {}
deriving DecidableEq, Repr

namespace Booked

/-- The window answers, and its answer is entered in the ledger. -/
def perform (b : Booked) (operation : Operation) : Booked :=
  match operation with
  | .reserve now =>
    match b.window.reserve now with
    | .ok (_, window) => { window, ledger := { b.ledger with times := b.ledger.times ++ [now] } }
    | .error _ => b
  | .acknowledge number =>
    match b.window.acknowledge number with
    | some (count, window) =>
      { window, ledger := { b.ledger with acked := b.ledger.acked + count } }
    | none => b
  | .reset => { window := b.window.reset }

/-- What operations one after the other make of an empty window that holds `k` frames. -/
def run (k : Nat) (operations : List Operation) : Booked :=
  operations.foldl perform { window := { k } }

/-- The window holds the frames of the ledger that are not acknowledged. -/
structure Agrees (k : Nat) (b : Booked) : Prop where
  capacity : b.window.k = k
  acked_le : b.ledger.acked ≤ b.ledger.sent
  sent_le : b.ledger.sent ≤ b.ledger.acked + k
  next : b.window.nextNumber = b.ledger.sent % sequenceModulus
  outstanding : b.window.sent.toList = b.ledger.times.drop b.ledger.acked

variable {k number count now : Nat} {b : Booked} {operations : List Operation}

lemma Agrees.unacked (h : Agrees k b) : b.window.unacked = b.ledger.sent - b.ledger.acked := by
  have hlength := congrArg List.length h.outstanding
  rwa [List.length_drop, Array.length_toList] at hlength

lemma Agrees.acked_add_unacked (h : Agrees k b) :
    b.ledger.acked + b.window.unacked = b.ledger.sent := by
  have hle := h.acked_le
  rw [h.unacked]
  omega

/-! ## What the window answers -/

lemma Agrees.reserve_ok (h : Agrees k b) (hroom : b.ledger.sent - b.ledger.acked < k) :
    b.window.reserve now = .ok (b.ledger.sent % sequenceModulus,
      { b.window with
        nextNumber := Sequence.next b.window.nextNumber, sent := b.window.sent.push now }) := by
  have hfull : b.window.isFull = false := by
    rw [isFull, h.unacked, h.capacity]
    simpa using hroom
  simp only [reserve, hfull, h.next, Bool.false_eq_true, if_false]

lemma Agrees.reserve_error (h : Agrees k b) (hfull : ¬b.ledger.sent - b.ledger.acked < k) :
    b.window.reserve now = .error (.tooManyUnconfirmed k) := by
  have hfull : b.window.isFull = true := by
    rw [isFull, h.unacked, h.capacity]
    simpa using hfull
  simp only [reserve, hfull, h.capacity, if_true]

/-- Fewer frames than there are numbers are outstanding, so that a number stands for one count at
most. -/
lemma Agrees.confirms_unique (h : Agrees k b) (hk : k < sequenceModulus) {other : Nat}
    (hcount : b.ledger.Confirms number count) (hother : b.ledger.Confirms number other) :
    other = count := by
  obtain ⟨hfrom, hto, hnumber⟩ := hcount
  obtain ⟨hfrom', hto', hnumber'⟩ := hother
  have hle := h.sent_le
  have hdistance := Sequence.distance_of_mod_eq hfrom (by omega) hnumber
  have hdistance' := Sequence.distance_of_mod_eq hfrom' (by omega) hnumber'
  omega

lemma Agrees.acknowledge_some (h : Agrees k b) (hk : k < sequenceModulus)
    (hcount : b.ledger.Confirms number count) :
    b.window.acknowledge number = some (count - b.ledger.acked,
      { b.window with
        sent := b.window.sent.extract (count - b.ledger.acked) b.window.sent.size }) := by
  obtain ⟨hfrom, hto, hnumber⟩ := hcount
  have hle := h.sent_le
  have hdistance := Sequence.distance_of_mod_eq hfrom (by omega) hnumber
  rw [acknowledge_any h.next h.acked_add_unacked, hdistance, if_pos (by omega)]

lemma Agrees.acknowledge_none (h : Agrees k b) (hnone : ¬∃ count, b.ledger.Confirms number count) :
    b.window.acknowledge number = none := by
  rw [acknowledge_any h.next h.acked_add_unacked, if_neg]
  intro hwithin
  exact hnone ⟨_, Nat.le_add_right .., hwithin, Sequence.add_distance_mod ..⟩

lemma Agrees.deadline (h : Agrees k b) (t1 : Nat) :
    b.window.deadline t1 = b.ledger.times[b.ledger.acked]?.map (· + t1) := by
  have holdest : b.window.sent[0]? = b.ledger.times[b.ledger.acked]? := by
    rw [← Array.getElem?_toList, h.outstanding, List.getElem?_drop, Nat.add_zero]
  rw [SendWindow.deadline, holdest]

/-! ## What the answers make of window and ledger -/

lemma Agrees.perform_reserve (h : Agrees k b) (hroom : b.ledger.sent - b.ledger.acked < k) :
    Agrees k (b.perform (.reserve now)) ∧
      (b.perform (.reserve now)).ledger =
        { b.ledger with times := b.ledger.times ++ [now] } := by
  have hle := h.acked_le
  simp only [perform, h.reserve_ok hroom, and_true]
  unfold Ledger.sent at hroom hle
  constructor
  · exact h.capacity
  · simp only [Ledger.sent, List.length_append, List.length_singleton]
    omega
  · simp only [Ledger.sent, List.length_append, List.length_singleton]
    omega
  · simp only [h.next, Sequence.next_mod, Ledger.sent, List.length_append, List.length_singleton]
  · simp only [Array.toList_push, h.outstanding, List.drop_append_of_le_length hle]

lemma Agrees.perform_acknowledge (h : Agrees k b) (hk : k < sequenceModulus)
    (hcount : b.ledger.Confirms number count) :
    Agrees k (b.perform (.acknowledge number)) ∧
      (b.perform (.acknowledge number)).ledger = { b.ledger with acked := count } := by
  have hanswer := h.acknowledge_some hk hcount
  obtain ⟨hfrom, hto, -⟩ := hcount
  have hle := h.sent_le
  have hacked : b.ledger.acked + (count - b.ledger.acked) = count := by omega
  simp only [perform, hanswer, hacked, and_true]
  constructor
  · exact h.capacity
  · exact hto
  · exact Nat.le_trans hle (Nat.add_le_add_right hfrom k)
  · exact h.next
  · have hsize : b.window.sent.size = b.window.sent.toList.length := Array.length_toList.symm
    simp only [Array.toList_extract, List.extract_eq_take_drop, hsize, ← List.length_drop,
      List.take_length, h.outstanding, List.drop_drop, hacked]

lemma Agrees.perform (h : Agrees k b) (hk : k < sequenceModulus) (operation : Operation) :
    Agrees k (b.perform operation) := by
  cases operation with
  | reserve now =>
    by_cases hroom : b.ledger.sent - b.ledger.acked < k
    · exact (h.perform_reserve hroom).1
    · simpa only [Booked.perform, h.reserve_error hroom] using h
  | acknowledge number =>
    by_cases hcount : ∃ count, b.ledger.Confirms number count
    · obtain ⟨count, hcount⟩ := hcount
      exact (h.perform_acknowledge hk hcount).1
    · simpa only [Booked.perform, h.acknowledge_none hcount] using h
  | reset => exact ⟨h.capacity, Nat.le_refl _, Nat.zero_le _, rfl, rfl⟩

lemma mem_times_perform {operation : Operation} {time : Nat}
    (h : time ∈ (b.perform operation).ledger.times) :
    time ∈ b.ledger.times ∨ operation.time? = some time := by
  cases operation with
  | reserve now =>
    simp only [perform] at h
    split at h
    · obtain h | h := List.mem_append.1 h
      · exact .inl h
      · exact .inr (congrArg some (List.mem_singleton.1 h).symm)
    · exact .inl h
  | acknowledge number =>
    simp only [perform] at h
    split at h <;> exact .inl h
  | reset => exact nomatch h

lemma pairwise_times_perform {operation : Operation} (h : b.ledger.times.Pairwise (· ≤ ·))
    (hlater : ∀ now, operation.time? = some now → ∀ time ∈ b.ledger.times, time ≤ now) :
    (b.perform operation).ledger.times.Pairwise (· ≤ ·) := by
  cases operation with
  | reserve now =>
    simp only [perform]
    split
    · refine List.pairwise_append.2 ⟨h, List.pairwise_singleton .., fun time hmem last hlast => ?_⟩
      obtain rfl := List.mem_singleton.1 hlast
      exact hlater last rfl time hmem
    · exact h
  | acknowledge number =>
    simp only [perform]
    split <;> exact h
  | reset => exact .nil

/-! ## Runs -/

lemma run_snoc (k : Nat) (operations : List Operation) (operation : Operation) :
    run k (operations ++ [operation]) = (run k operations).perform operation :=
  List.foldl_append

lemma agrees_run (hk : k < sequenceModulus) (operations : List Operation) :
    Agrees k (run k operations) := by
  refine List.foldlRecOn operations perform ?_ fun b h operation _ => h.perform hk operation
  exact ⟨rfl, Nat.le_refl _, Nat.zero_le _, rfl, rfl⟩

lemma pairwise_times_run (h : (operations.filterMap Operation.time?).Pairwise (· ≤ ·)) :
    (run k operations).ledger.times.Pairwise (· ≤ ·) ∧
      ∀ time ∈ (run k operations).ledger.times, time ∈ operations.filterMap Operation.time? := by
  induction operations using List.reverseRecOn with
  | nil => exact ⟨.nil, nofun⟩
  | append_singleton operations operation ih =>
    rw [List.filterMap_append, List.pairwise_append] at h
    obtain ⟨hbefore, -, hlast⟩ := h
    obtain ⟨hordered, hmem⟩ := ih hbefore
    rw [run_snoc]
    constructor
    · apply pairwise_times_perform hordered
      intro now hnow time htime
      exact hlast time (hmem time htime) now (by simp [hnow])
    · intro time htime
      rw [List.filterMap_append]
      obtain htime | htime := mem_times_perform htime
      · exact List.mem_append_left _ (hmem time htime)
      · exact List.mem_append_right _ (by simp [htime])

/-- Whatever is done with a window that holds `k` frames, and however often its numbers have begun
again:
- between `acked` and `acked + k` frames are sent, and the window shows their number and how many
  are outstanding;
- a frame is numbered as long as fewer than `k` are outstanding, and refused without any effect
  otherwise;
- an acknowledgment is applied if it stands for a count between the acknowledged frames and the sent
  ones, of which there is one at most, and otherwise has no effect;
- the deadline is that of the oldest outstanding frame, which is the earliest. -/
theorem window_slides (hk : k < sequenceModulus)
    (hclock : (operations.filterMap Operation.time?).Pairwise (· ≤ ·)) :
    let b := run k operations
    let l := b.ledger
    (l.acked ≤ l.sent ∧ l.sent ≤ l.acked + k ∧ b.window.nextNumber = l.sent % sequenceModulus ∧
        b.window.unacked = l.sent - l.acked) ∧
      (∀ now, l.sent - l.acked < k →
        (∃ w, b.window.reserve now = .ok (l.sent % sequenceModulus, w)) ∧
          (b.perform (.reserve now)).ledger = { l with times := l.times ++ [now] }) ∧
      (∀ now, ¬l.sent - l.acked < k →
        b.window.reserve now = .error (.tooManyUnconfirmed k) ∧ b.perform (.reserve now) = b) ∧
      (∀ number count, l.Confirms number count →
        (∀ other, l.Confirms number other → other = count) ∧
          (∃ w, b.window.acknowledge number = some (count - l.acked, w)) ∧
          (b.perform (.acknowledge number)).ledger = { l with acked := count }) ∧
      (∀ number, (¬∃ count, l.Confirms number count) →
        b.window.acknowledge number = none ∧ b.perform (.acknowledge number) = b) ∧
      (∀ t1, l.acked = l.sent → b.window.deadline t1 = none) ∧
      ∀ t1, l.acked < l.sent → ∃ oldest, l.times[l.acked]? = some oldest ∧
        b.window.deadline t1 = some (oldest + t1) ∧
          ∀ time ∈ l.times.drop l.acked, oldest ≤ time := by
  have h : Agrees k (run k operations) := agrees_run hk operations
  obtain ⟨hordered, -⟩ := pairwise_times_run (k := k) hclock
  refine ⟨⟨h.acked_le, h.sent_le, h.next, h.unacked⟩, ?_, ?_, ?_, ?_, ?_, ?_⟩
  · exact fun now hroom => ⟨⟨_, h.reserve_ok hroom⟩, (h.perform_reserve hroom).2⟩
  · intro now hfull
    have herror : (run k operations).window.reserve now = .error (.tooManyUnconfirmed k) :=
      h.reserve_error hfull
    exact ⟨herror, by simp only [perform, herror]⟩
  · intro number count hcount
    exact ⟨fun other => h.confirms_unique hk hcount, ⟨_, h.acknowledge_some hk hcount⟩,
      (h.perform_acknowledge hk hcount).2⟩
  · intro number hnone
    have hignored := h.acknowledge_none hnone
    exact ⟨hignored, by simp only [perform, hignored]⟩
  · intro t1 hall
    rw [h.deadline, List.getElem?_eq_none (Nat.le_of_eq hall.symm), Option.map_none]
  · intro t1 hsome
    have holdest := List.getElem?_eq_getElem hsome
    refine ⟨_, holdest, by rw [h.deadline, holdest, Option.map_some], ?_⟩
    have hdrop := hordered.drop (i := (run k operations).ledger.acked)
    rw [List.drop_eq_getElem_cons hsome] at hdrop ⊢
    exact List.forall_mem_cons.2 ⟨Nat.le_refl _, (List.pairwise_cons.1 hdrop).1⟩

/-- Frames of two periods. The acknowledgment 32769 stands for one frame, 5 for none. -/
def twoPeriods : List Operation :=
  [.reserve 10, .reset, .reserve 20, .reserve 30, .reserve 40, .acknowledge 32769, .acknowledge 5,
    .reserve 40]

/-- The second period has three frames, of which one is acknowledged. The next frame has to wait for
an acknowledgment, for which 2 and 3 are possible. -/
theorem window_slides_twoPeriods :
    2 < sequenceModulus ∧ (twoPeriods.filterMap Operation.time?).Pairwise (· ≤ ·) ∧
      (run 2 twoPeriods).ledger = ⟨[20, 30, 40], 1⟩ ∧
      (run 2 twoPeriods).window.reserve 50 = .error (.tooManyUnconfirmed 2) ∧
      (∃ w, (run 2 twoPeriods).window.acknowledge 3 = some (2, w)) ∧
      (run 2 twoPeriods).window.acknowledge 4 = none ∧
      (run 2 twoPeriods).window.deadline 100 = some 130 := by
  have hk : 2 < sequenceModulus := by decide
  have hclock : (twoPeriods.filterMap Operation.time?).Pairwise (· ≤ ·) := by decide
  have hledger : (run 2 twoPeriods).ledger = ⟨[20, 30, 40], 1⟩ := by decide
  obtain ⟨-, -, hfull, happlied, hignored, -, hdeadline⟩ := window_slides hk hclock
  rw [hledger] at hfull happlied hignored hdeadline
  obtain ⟨_, holdest, hdeadline, -⟩ := hdeadline 100 (by decide)
  obtain rfl := Option.some.inj holdest
  refine ⟨hk, hclock, hledger, (hfull 50 (by decide)).1, (happlied 3 3 (by decide)).2.1,
    (hignored 4 ?_).1, hdeadline⟩
  rintro ⟨count, hfrom, hto, hnumber⟩
  obtain rfl | rfl | rfl : count = 1 ∨ count = 2 ∨ count = 3 := by
    simp only [Ledger.sent, List.length_cons, List.length_nil] at hfrom hto
    omega
  all_goals exact absurd hnumber (by decide)

end Booked

end SendWindow

end Telecontrol
