import Telecontrol.Ft12.Frame
import Mathlib.Tactic.Lemma

/-!
# The discipline of the frame count bit

What passes between the primary station and one secondary, as far as the frame count bit is
concerned, is divided into periods, each of which begins with a reset of the link. Once the reset
has been acknowledged there are exchanges, one after the other, with alternating bits. An exchange
is one numbered frame, which may be repeated, and an answer. Nothing of a period comes after an
exchange without an answer.
-/

namespace Telecontrol.Primary

/-- What counts for the frame count bit. -/
inductive Sign
  /-- A reset of the link is written. -/
  | reset
  /-- The reset of the link is acknowledged. -/
  | confirmed
  /-- A numbered frame is written. -/
  | numbered (frame : LinkFrame)
  /-- The time for an answer is over, or the answer is a refusal. -/
  | missed
  /-- There is an answer that is not a refusal. -/
  | answered
deriving DecidableEq, Repr

/-- The frame is numbered with a bit. -/
def Numbered (fcb : Bool) (frame : LinkFrame) : Prop :=
  ∃ function, frame.control? = some (.primary function fcb true)

/-- A numbered frame and a number of repetitions. -/
def attempts (frame : LinkFrame) (repetitions : Nat) : List Sign :=
  .numbered frame :: (List.replicate repetitions [.missed, .numbered frame]).flatten

/-- Exchanges that all have been answered. The bit is the one of the next exchange. -/
inductive Answered (retries : Nat) : Bool → List Sign → Prop
  | none : Answered retries true []
  | more {fcb : Bool} {signs : List Sign} {frame : LinkFrame} {repetitions : Nat} :
      Answered retries fcb signs → Numbered fcb frame → repetitions ≤ retries →
      Answered retries (!fcb) (signs ++ attempts frame repetitions ++ [Sign.answered])

/-- What follows a reset of the link up to the next one. -/
inductive Period (retries : Nat) : List Sign → Prop
  | asked : Period retries [Sign.reset]
  | linked {fcb : Bool} {signs : List Sign} : Answered retries fcb signs →
      Period retries ([Sign.reset, .confirmed] ++ signs)
  | busy {fcb : Bool} {signs : List Sign} {frame : LinkFrame} {repetitions : Nat} :
      Answered retries fcb signs → Numbered fcb frame → repetitions ≤ retries →
      Period retries ([Sign.reset, .confirmed] ++ signs ++ attempts frame repetitions)
  | lost {fcb : Bool} {signs : List Sign} {frame : LinkFrame} {repetitions : Nat} :
      Answered retries fcb signs → Numbered fcb frame → repetitions ≤ retries →
      Period retries ([Sign.reset, .confirmed] ++ signs ++ attempts frame repetitions ++
        [Sign.missed])

/-- Everything belongs to a period. -/
def Disciplined (retries : Nat) (signs : List Sign) : Prop :=
  ∃ periods : List (List Sign), signs = periods.flatten ∧ ∀ period ∈ periods, Period retries period

/-- The link is being reset. -/
def Asked (retries : Nat) (signs : List Sign) : Prop :=
  ∃ before, Disciplined retries before ∧ signs = before ++ [Sign.reset]

/-- An exchange with the bit can begin. -/
def Linked (retries : Nat) (fcb : Bool) (signs : List Sign) : Prop :=
  ∃ before exchanges, Disciplined retries before ∧ Answered retries fcb exchanges ∧
    signs = before ++ ([Sign.reset, .confirmed] ++ exchanges)

/-- The frame has been written in an exchange, and repeated so many times. -/
def Busy (retries : Nat) (frame : LinkFrame) (fcb : Bool) (repetitions : Nat)
    (signs : List Sign) : Prop :=
  ∃ before exchanges, Disciplined retries before ∧ Answered retries fcb exchanges ∧
    Numbered fcb frame ∧ repetitions ≤ retries ∧
    signs = before ++ ([Sign.reset, .confirmed] ++ exchanges ++ attempts frame repetitions)

/-- The last attempt of an exchange has been in vain. -/
def Missed (retries : Nat) (frame : LinkFrame) (fcb : Bool) (repetitions : Nat)
    (signs : List Sign) : Prop :=
  ∃ before, Busy retries frame fcb repetitions before ∧ signs = before ++ [Sign.missed]

variable {retries repetitions : Nat} {frame : LinkFrame} {fcb : Bool} {signs : List Sign}

lemma attempts_succ (frame : LinkFrame) (repetitions : Nat) :
    attempts frame (repetitions + 1) =
      attempts frame repetitions ++ [Sign.missed, .numbered frame] := by
  rw [attempts, List.replicate_succ', List.flatten_concat]
  rfl

lemma disciplined_nil : Disciplined retries [] := ⟨[], rfl, nofun⟩

lemma Disciplined.append {period : List Sign} (h : Disciplined retries signs)
    (hperiod : Period retries period) : Disciplined retries (signs ++ period) := by
  obtain ⟨periods, rfl, hall⟩ := h
  refine ⟨periods ++ [period], by simp, ?_⟩
  intro other hmem
  rcases List.mem_append.1 hmem with hmem | hmem
  · exact hall other hmem
  · obtain rfl := List.mem_singleton.1 hmem
    exact hperiod

lemma Disciplined.ask (h : Disciplined retries signs) : Asked retries (signs ++ [Sign.reset]) :=
  ⟨signs, h, rfl⟩

lemma Asked.disciplined (h : Asked retries signs) : Disciplined retries signs := by
  obtain ⟨before, hbefore, rfl⟩ := h
  exact hbefore.append .asked

lemma Asked.confirm (h : Asked retries signs) :
    Linked retries true (signs ++ [Sign.confirmed]) := by
  obtain ⟨before, hbefore, rfl⟩ := h
  exact ⟨before, [], hbefore, .none, List.append_assoc ..⟩

lemma Linked.disciplined (h : Linked retries fcb signs) : Disciplined retries signs := by
  obtain ⟨before, exchanges, hbefore, hanswered, rfl⟩ := h
  exact hbefore.append (.linked hanswered)

lemma Linked.send (h : Linked retries fcb signs) (hframe : Numbered fcb frame) :
    Busy retries frame fcb 0 (signs ++ [Sign.numbered frame]) := by
  obtain ⟨before, exchanges, hbefore, hanswered, rfl⟩ := h
  exact ⟨before, exchanges, hbefore, hanswered, hframe, Nat.zero_le _, by simp [attempts]⟩

lemma Busy.disciplined (h : Busy retries frame fcb repetitions signs) :
    Disciplined retries signs := by
  obtain ⟨before, exchanges, hbefore, hanswered, hframe, hle, rfl⟩ := h
  exact hbefore.append (.busy hanswered hframe hle)

lemma Busy.answer (h : Busy retries frame fcb repetitions signs) :
    Linked retries (!fcb) (signs ++ [Sign.answered]) := by
  obtain ⟨before, exchanges, hbefore, hanswered, hframe, hle, rfl⟩ := h
  exact ⟨before, _, hbefore, .more hanswered hframe hle, by simp⟩

lemma Busy.miss (h : Busy retries frame fcb repetitions signs) :
    Missed retries frame fcb repetitions (signs ++ [Sign.missed]) :=
  ⟨signs, h, rfl⟩

lemma Missed.numbered (h : Missed retries frame fcb repetitions signs) : Numbered fcb frame := by
  obtain ⟨-, ⟨-, -, -, -, hframe, -, -⟩, -⟩ := h
  exact hframe

lemma Missed.disciplined (h : Missed retries frame fcb repetitions signs) :
    Disciplined retries signs := by
  obtain ⟨-, ⟨before, exchanges, hbefore, hanswered, hframe, hle, rfl⟩, rfl⟩ := h
  rw [List.append_assoc]
  exact hbefore.append (.lost hanswered hframe hle)

lemma Missed.again (h : Missed retries frame fcb repetitions signs)
    (hless : repetitions < retries) :
    Busy retries frame fcb (repetitions + 1) (signs ++ [Sign.numbered frame]) := by
  obtain ⟨-, ⟨before, exchanges, hbefore, hanswered, hframe, -, rfl⟩, rfl⟩ := h
  exact ⟨before, exchanges, hbefore, hanswered, hframe, hless, by simp [attempts_succ]⟩

end Telecontrol.Primary
