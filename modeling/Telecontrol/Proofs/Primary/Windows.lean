import Telecontrol.Proofs.Primary.Calls

/-!
# The windows of a call

The time between two requests of a call is a window. After an answer of the wrong kind the station
does not listen until the window is over, so that each answer takes up a window of its own: the one
in which it arrives, or the next one that is free if others have arrived before it. `Hears` follows
the answers in this way, and `Room` says what it comes to.
-/

namespace Telecontrol.Primary.Call

/-- The window in which a time lies, counted from 0. -/
def window (q : Call) (time : Nat) : Nat := (time - q.begun) / q.link.ackTimeout

/-- The frames of a timed script that are answers of the secondary which is called, or could be. -/
def responses (q : Call) (script : List (Nat × LinkFrame)) : List (Nat × LinkFrame) :=
  script.filter fun w => isResponseOf q.address w.2

/-- One of the answers is good, comes in time and gets a window, if the windows before the given one
are taken. -/
def Hears (q : Call) : Nat → List (Nat × LinkFrame) → Prop
  | _, [] => False
  | free, w :: later =>
    let taken := max free (q.window w.1)
    taken < q.attempts ∧ (q.Accepts w.2 ∧ w.1 < q.limit ∨ Hears q (taken + 1) later)

/-- There is a good answer in time, and behind the window in which it or any answer before it
arrives there are at least as many windows as there are answers from that one to the good one. -/
def Room (q : Call) (script : List (Nat × LinkFrame)) : Prop :=
  ∃ (j time : Nat) (frame : LinkFrame), (q.responses script)[j]? = some (time, frame) ∧
    q.Accepts frame ∧ time < q.limit ∧
    ∀ i ≤ j, ∀ w, (q.responses script)[i]? = some w → q.window w.1 + (j - i) < q.attempts

/-- No answer comes at the very moment at which a request is due or the time is over. -/
def Offbeat (q : Call) (script : List (Nat × LinkFrame)) : Prop :=
  ∀ w ∈ q.responses script, w.1 ≠ q.limit ∧ ∀ k, w.1 ≠ q.due (k + 1)

variable {q : Call} {n free free' time : Nat} {w : Nat × LinkFrame}
  {script later : List (Nat × LinkFrame)}

/-! ### Times -/

lemma window_le (hq : q.Valid) (h : time < q.due (n + 1)) : q.window time ≤ n := by
  unfold due at h
  have hend : 0 < (n + 1) * q.link.ackTimeout := Nat.mul_pos (Nat.succ_pos n) hq.positive
  have hlt : time - q.begun < (n + 1) * q.link.ackTimeout := by omega
  exact Nat.lt_succ_iff.1 ((Nat.div_lt_iff_lt_mul hq.positive).2 hlt)

lemma le_window (hq : q.Valid) (h : q.due n ≤ time) : n ≤ q.window time := by
  rw [window, Nat.le_div_iff_mul_le hq.positive]
  unfold due at h
  omega

/-! ### Windows -/

lemma Hears.mono (h : q.Hears free script) (hle : free' ≤ free) : q.Hears free' script := by
  induction script generalizing free free' with
  | nil => exact h
  | cons w later ih =>
    obtain ⟨htaken, hgood⟩ := h
    refine ⟨by omega, hgood.imp_right fun hlater => ih hlater (by omega)⟩

lemma Hears.succ (h : q.Hears n script) (hlater : ∀ w ∈ script, n + 1 ≤ q.window w.1) :
    q.Hears (n + 1) script := by
  cases script with
  | nil => exact h
  | cons w later =>
    have hw := hlater w List.mem_cons_self
    have htaken : max (n + 1) (q.window w.1) = max n (q.window w.1) := by omega
    unfold Hears
    rw [htaken]
    exact h

lemma Hears.lt_attempts (h : q.Hears free script) : free < q.attempts := by
  cases script with
  | nil => exact h.elim
  | cons w later => exact Nat.lt_of_le_of_lt (Nat.le_max_left ..) h.1

lemma not_hears_of_late (h : ∀ w ∈ script, q.limit ≤ w.1) : ¬q.Hears free script := by
  induction script generalizing free with
  | nil => exact id
  | cons w later ih =>
    obtain ⟨hw, hrest⟩ := List.forall_mem_cons.1 h
    rintro ⟨-, ⟨-, hearly⟩ | hlater⟩
    · omega
    · exact ih hrest hlater

lemma hears_iff :
    q.Hears free script ↔ ∃ (j time : Nat) (frame : LinkFrame), script[j]? = some (time, frame) ∧
      q.Accepts frame ∧ time < q.limit ∧ free + j < q.attempts ∧
      ∀ i ≤ j, ∀ w, script[i]? = some w → q.window w.1 + (j - i) < q.attempts := by
  -- On the answers: the good one is the first, or it is that of the later ones.
  induction script generalizing free with
  | nil => simp [Hears]
  | cons first later ih =>
    unfold Hears
    dsimp only
    rw [ih]
    constructor
    · rintro ⟨htaken, ⟨haccepts, hearly⟩ | ⟨j, time, frame, hj, haccepts, hearly, hfree, hall⟩⟩
      · refine ⟨0, first.1, first.2, rfl, haccepts, hearly, by omega, ?_⟩
        intro i hi w hw
        obtain rfl : i = 0 := by omega
        obtain rfl := Option.some.inj hw
        omega
      · refine ⟨j + 1, time, frame, hj, haccepts, hearly, by omega, ?_⟩
        intro i hi w hw
        cases i with
        | zero =>
          obtain rfl := Option.some.inj hw
          omega
        | succ i =>
          rw [Nat.add_sub_add_right]
          exact hall i (by omega) w hw
    · rintro ⟨j, time, frame, hj, haccepts, hearly, hfree, hall⟩
      have hfirst := hall 0 (Nat.zero_le j) first rfl
      refine ⟨by omega, ?_⟩
      cases j with
      | zero =>
        obtain rfl := Option.some.inj hj
        exact .inl ⟨haccepts, hearly⟩
      | succ j =>
        refine .inr ⟨j, time, frame, hj, haccepts, hearly, by omega, ?_⟩
        intro i hi w hw
        have hlater := hall (i + 1) (by omega) w hw
        rwa [Nat.add_sub_add_right] at hlater

lemma room_iff : q.Room script ↔ q.Hears 0 (q.responses script) := by
  rw [hears_iff, Room]
  constructor
  · rintro ⟨j, time, frame, hj, haccepts, hearly, hall⟩
    refine ⟨j, time, frame, hj, haccepts, hearly, ?_, hall⟩
    -- The first answer leaves room for all of them.
    have hlong : 0 < (q.responses script).length := by
      have hlt := (List.getElem?_eq_some_iff.1 hj).1
      omega
    have hfirst := hall 0 (Nat.zero_le j) _ (List.getElem?_eq_getElem hlong)
    omega
  · rintro ⟨j, time, frame, hj, haccepts, hearly, -, hall⟩
    exact ⟨j, time, frame, hj, haccepts, hearly, hall⟩

/-! ### What is left of a script -/

/-- From the window on that is still free, what is left has the same prospects as the script had. -/
structure Prospects (q : Call) (script : List (Nat × LinkFrame)) (free : Nat)
    (left : List (Nat × LinkFrame)) : Prop where
  part : ∀ w ∈ left, w ∈ script
  hears : q.Room script → q.Hears free (q.responses left)
  heard : q.Offbeat script → q.Hears free (q.responses left) → q.Room script

lemma prospects_whole (q : Call) (script : List (Nat × LinkFrame)) :
    q.Prospects script 0 script where
  part _ := id
  hears := room_iff.1
  heard _ := room_iff.2

lemma responses_cons_of_pos (h : isResponseOf q.address w.2 = true) :
    q.responses (w :: later) = w :: q.responses later :=
  List.filter_cons_of_pos h

namespace Prospects

lemma window_le (hq : q.Valid) (h : q.Prospects script free (w :: later))
    (hresponse : isResponseOf q.address w.2 = true) (hoffbeat : q.Offbeat script)
    (hpast : w.1 ≤ min q.limit (q.due (n + 1))) : q.window w.1 ≤ n ∧ w.1 < q.limit := by
  have hmem : w ∈ q.responses script :=
    List.mem_filter.2 ⟨h.part w List.mem_cons_self, hresponse⟩
  obtain ⟨hlimit, hdue⟩ := hoffbeat w hmem
  have hnot := hdue n
  exact ⟨Call.window_le hq (by omega), by omega⟩

lemma skip (h : q.Prospects script free (w :: later))
    (hother : isResponseOf q.address w.2 = false) : q.Prospects script free later := by
  have hsame : q.responses (w :: later) = q.responses later :=
    List.filter_cons_of_neg (by simp [hother])
  constructor
  · exact fun w' hw' => h.part w' (List.mem_cons_of_mem _ hw')
  · rw [← hsame]
    exact h.hears
  · rw [← hsame]
    exact h.heard

lemma take (hq : q.Valid) (h : q.Prospects script n (w :: later))
    (hresponse : isResponseOf q.address w.2 = true) (hwrong : ¬q.Accepts w.2)
    (hpast : w.1 ≤ min q.limit (q.due (n + 1))) (hearly : n < q.attempts) :
    q.Prospects script (n + 1) later where
  part := fun w' hw' => h.part w' (List.mem_cons_of_mem _ hw')
  hears := by
    intro hroom
    have hall := h.hears hroom
    rw [responses_cons_of_pos hresponse] at hall
    obtain ⟨-, ⟨haccepts, -⟩ | hlater⟩ := hall
    · exact absurd haccepts hwrong
    · exact hlater.mono (Nat.succ_le_succ (Nat.le_max_left ..))
  heard := by
    intro hoffbeat hlater
    obtain ⟨hwindow, -⟩ := h.window_le hq hresponse hoffbeat hpast
    apply h.heard hoffbeat
    rw [responses_cons_of_pos hresponse]
    unfold Hears
    rw [Nat.max_eq_left hwindow]
    exact ⟨hearly, .inr hlater⟩

lemma pass (h : q.Prospects script n later) (hlater : ∀ w ∈ later, n + 1 ≤ q.window w.1) :
    q.Prospects script (n + 1) later where
  part := h.part
  hears hroom := (h.hears hroom).succ fun w hw => hlater w (List.mem_filter.1 hw).1
  heard hoffbeat hhears := h.heard hoffbeat (hhears.mono (Nat.le_succ n))

lemma room (hq : q.Valid) (h : q.Prospects script n (w :: later)) (hgood : q.Accepts w.2)
    (hoffbeat : q.Offbeat script) (hpast : w.1 ≤ min q.limit (q.due (n + 1)))
    (hearly : n < q.attempts) : q.Room script := by
  obtain ⟨hwindow, hlimit⟩ := h.window_le hq hgood.1 hoffbeat hpast
  apply h.heard hoffbeat
  rw [responses_cons_of_pos hgood.1]
  unfold Hears
  rw [Nat.max_eq_left hwindow]
  exact ⟨hearly, .inl ⟨hgood, hlimit⟩⟩

end Prospects

end Telecontrol.Primary.Call
