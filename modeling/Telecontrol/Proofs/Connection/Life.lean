import Telecontrol.Proofs.Connection.Fails

/-!
# The life of a connection

A connection together with the commands that wait for it, the clock, and a history of all that can
be seen of it: the commands that are handed over, what each turn is about, and what is put out. The
other end, the application and the clock do what they like. What is known about the turns of a
connection becomes what is known about the steps of its life (`act_advances`), and what each step
keeps holds of every run (`run_keeps`).
-/

namespace Telecontrol.Connection

/-- What can be seen of a connection. -/
inductive Happening
  /-- A command is handed over. -/
  | asked (command : Command)
  /-- A turn begins in the state that the connection shows. -/
  | met (state : TransferState) (input : Input)
  | put (output : Output Apdu)
deriving DecidableEq, Repr

/-- What has been seen, each with the time. -/
abbrev History := List (Nat × Happening)

/-- Things that happen one behind the other at one time. -/
def History.note (now : Nat) (happenings : List Happening) (h : History) : History :=
  h ++ happenings.map (now, ·)

structure Life where
  now : Nat
  connection : Connection
  /-- Commands that wait. -/
  mail : List Command := []
  ending : Option CloseReason := none
  history : History := []
deriving DecidableEq, Repr

/-- What a history has to say about something, in order. -/
def History.gather {α : Type} (f : Happening → Option α) (h : History) : List α :=
  h.filterMap fun entry => f entry.2

/-- Something happened at a time, and what would have undone it has not happened since. -/
def History.Since (h : History) (time : Nat) (mark bar : Happening → Prop) : Prop :=
  ∃ before happening after, h = before ++ (time, happening) :: after ∧ mark happening ∧
    ∀ entry ∈ after, ¬bar entry.2

/-- Everything that happened is such as what had happened before allows. -/
def History.Each (allows : History → Happening → Prop) (h : History) : Prop :=
  ∀ before entry after, h = before ++ entry :: after → allows before entry.2

namespace History

variable {h : History} {now time : Nat} {mark bar : Happening → Prop} {happening : Happening}
  {allows : History → Happening → Prop}

@[simp] lemma gather_note {α : Type} (f : Happening → Option α) (happenings : List Happening) :
    (h.note now happenings).gather f = h.gather f ++ happenings.filterMap f := by
  rw [History.note, gather, List.filterMap_append, List.filterMap_map]
  rfl

lemma Since.note {rest : List Happening} (hsince : h.Since time mark bar)
    (hbar : ∀ x ∈ rest, ¬bar x) : (h.note now rest).Since time mark bar := by
  obtain ⟨before, happening, after, rfl, hmark, hafter⟩ := hsince
  refine ⟨before, happening, after ++ rest.map (now, ·), by simp [History.note], hmark, ?_⟩
  intro entry hmem
  obtain hmem | hmem := List.mem_append.1 hmem
  · exact hafter entry hmem
  · obtain ⟨x, hx, rfl⟩ := List.mem_map.1 hmem
    exact hbar x hx

lemma note_cons (h : History) (now : Nat) (x : Happening) (rest : List Happening) :
    h.note now (x :: rest) = (h.note now [x]).note now rest := by
  simp [History.note]

lemma since_note (h : History) (now : Nat) (first rest : List Happening) (hmark : mark happening)
    (hbar : ∀ x ∈ rest, ¬bar x) :
    (h.note now (first ++ happening :: rest)).Since now mark bar := by
  refine ⟨h ++ first.map (now, ·), happening, rest.map (now, ·), by simp [History.note], hmark, ?_⟩
  intro entry hmem
  obtain ⟨x, hx, rfl⟩ := List.mem_map.1 hmem
  exact hbar x hx

lemma Each.snoc {x : Happening} (heach : h.Each allows) (hx : allows h x) :
    (h.note now [x]).Each allows := by
  intro before entry after heq
  obtain rfl | ⟨rest, last, rfl⟩ := List.eq_nil_or_concat after
  · obtain ⟨rfl, rfl⟩ := by simpa [note] using heq
    exact hx
  · have hinit : h = before ++ entry :: rest := by
      have hlast : h ++ [(now, x)] = (before ++ entry :: rest) ++ [last] := by
        simpa [note] using heq
      exact (List.append_inj' hlast rfl).1
    exact heach before entry rest hinit

end History

namespace Life

def begin (now : Nat) (connection : Connection) : Life := { now, connection }

/-- What a turn is about. -/
inductive Occasion
  | arrival (arrival : Arrival Apdu)
  /-- The command that has waited longest. -/
  | command
  | timer (timer : Timer)
  | abandoned
deriving DecidableEq, Repr

inductive Action
  | ask (command : Command)
  /-- The connection takes a turn; its writes fail if there is a fault. -/
  | turn (occasion : Occasion) (fault : Option String)
  | elapse (duration : Nat)
deriving DecidableEq, Repr

/-- Answers to commands that are not carried out any more. -/
def refusals (commands : List Command) : List (Output Apdu) :=
  (commands.filterMap Command.request?).map fun request => .answered request (.refused .notConnected)

/-- The connection's input for an occasion, if the occasion is there, and the commands that still
wait. -/
def input? (occasion : Occasion) (l : Life) : Option (Input × List Command) :=
  match occasion with
  | .arrival arrival => some (.arrival arrival, l.mail)
  | .command =>
    match l.mail with
    | [] => none
    | command :: mail => some (.command command, mail)
  | .timer timer =>
    if (l.connection.deadline timer).any (· ≤ l.now) then some (.timer timer, l.mail) else none
  | .abandoned => if l.mail = [] then some (.abandoned, []) else none

/-- What is seen of a turn. -/
def seen (l : Life) (input : Input) (output : List (Output Apdu)) : History :=
  l.history.note l.now (.met l.connection.state input :: output.map .put)

/-- A turn goes on. -/
def goOn (input : Input) (mail : List Command) (output : List (Output Apdu)) (c : Connection)
    (l : Life) : Life :=
  { l with connection := c, mail, history := l.seen input output }

/-- A turn ends the connection. Commands that still wait are refused. -/
def finish (input : Input) (mail : List Command) (output : List (Output Apdu)) (c : Connection)
    (reason : CloseReason) (l : Life) : Life :=
  { l with
    connection := (c.close reason).1
    mail := []
    ending := some reason
    history := l.seen input (output ++ refusals mail ++ (c.close reason).2) }

/-- What an action makes of a connection, if it is possible. -/
def act (action : Action) (l : Life) : Option Life :=
  match action with
  | .ask command =>
    if l.ending = none then
      some { l with
        mail := l.mail ++ [command], history := l.history.note l.now [.asked command] }
    else
      some { l with
        history := l.history.note l.now (.asked command :: (refusals [command]).map .put) }
  | .turn occasion fault =>
    if l.ending = none then
      (l.input? occasion).map fun (input, mail) =>
        let t := l.connection.step ⟨l.now, fault⟩ input
        match t.ending with
        | none => l.goOn input mail t.output t.state
        | some reason => l.finish input mail t.output t.state reason
    else none
  | .elapse duration => some { l with now := l.now + duration }

/-- What actions one after the other make of a connection, if each is possible. -/
def run : List Action → Life → Option Life
  | [], l => some l
  | action :: actions, l => (l.act action).bind (run actions)

/-- A frame of the other end is read. -/
def hear (a : Apdu) : Action := .turn (.arrival (.frame a)) none

/-- A command is handed over and carried out. -/
def tell (command : Command) : List Action := [.ask command, .turn .command none]

/-- The writes of a turn do not fail. -/
def Action.Sound : Action → Prop
  | .turn _ fault => fault = none
  | _ => True

instance (action : Action) : Decidable action.Sound := by
  unfold Action.Sound
  split <;> infer_instance

/-- The clock does not pass the time at which a timer of an open connection expires. -/
def Action.Timely (l : Life) : Action → Prop
  | .elapse duration => l.ending = none →
      ∀ timer ∈ Timer.all, ∀ time ∈ l.connection.deadline timer, l.now + duration ≤ time
  | _ => True

instance (l : Life) (action : Action) : Decidable (action.Timely l) := by
  unfold Action.Timely
  split <;> infer_instance

/-- Timers are handled when they are due, in each action of a run. -/
def Timely : List Action → Life → Prop
  | [], _ => True
  | action :: actions, l => action.Timely l ∧ ∀ l', l.act action = some l' → Timely actions l'

instance decidableTimely : ∀ actions l, Decidable (Timely actions l)
  | [], _ => isTrue trivial
  | action :: actions, l =>
    if htimely : action.Timely l then
      match hact : l.act action with
      | none => isTrue ⟨htimely, by simp [hact]⟩
      | some l' =>
        have := decidableTimely actions l'
        decidable_of_iff (Timely actions l') (by simp [Timely, htimely, hact])
    else isFalse fun h => htimely h.1

/-- A step in the life of a connection. -/
inductive Advances (l : Life) : Action → Life → Prop
  | asked (command : Command) : l.ending = none →
      Advances l (.ask command)
        { l with mail := l.mail ++ [command], history := l.history.note l.now [.asked command] }
  | askedLate (command : Command) : l.ending ≠ none →
      Advances l (.ask command)
        { l with
          history := l.history.note l.now (.asked command :: (refusals [command]).map .put) }
  | goesOn {occasion : Occasion} {fault : Option String} {input : Input} {mail : List Command}
      {output : List (Output Apdu)} {c : Connection} : l.ending = none →
      l.input? occasion = some (input, mail) → Proceeds ⟨l.now, fault⟩ l.connection input output c →
      Advances l (.turn occasion fault) (l.goOn input mail output c)
  | finishes {occasion : Occasion} {fault : Option String} {input : Input} {mail : List Command}
      {output : List (Output Apdu)} {c : Connection} {reason : CloseReason} : l.ending = none →
      l.input? occasion = some (input, mail) → Fails l.connection input output c →
      (l.connection.step ⟨l.now, fault⟩ input).ending = some reason →
      Advances l (.turn occasion fault) (l.finish input mail output c reason)
  | elapses (duration : Nat) : Advances l (.elapse duration) { l with now := l.now + duration }

variable {l l' : Life} {action : Action} {actions : List Action}

lemma start_eq_ok {role : Role} {apci : ApciParameters} {widths : FieldWidths} {now : Nat}
    {c : Connection} (h : Connection.start role apci widths now = .ok c) :
    apci.validate = .ok () ∧
      c = { role, widths, apci, state := .connected, send := { k := apci.k },
            receive := { w := apci.w }, handshake := none, receiptDue := none,
            testDue := some (now + apci.t3), testDeadline := none } := by
  obtain ⟨⟨⟩, hvalid, heq⟩ := bind_eq_ok h
  exact ⟨hvalid, (Except.ok.inj heq).symm⟩

/-- A turn is about the command that has waited longest, or about something that leaves the commands
waiting; a timer has its turn when it is due. -/
lemma input?_eq_some {occasion : Occasion} {input : Input} {mail : List Command}
    (h : l.input? occasion = some (input, mail)) :
    (∃ command, input = .command command ∧ l.mail = command :: mail) ∨
      input.request? = none ∧ l.mail = mail ∧ ∀ timer, input = .timer timer →
        ∃ time, l.connection.deadline timer = some time ∧ time ≤ l.now := by
  unfold input? at h
  split at h
  · obtain ⟨rfl, rfl⟩ := by simpa using h
    exact .inr ⟨rfl, rfl, nofun⟩
  · split at h
    · exact nomatch h
    · next command rest hmail =>
      obtain ⟨rfl, rfl⟩ := by simpa using h
      exact .inl ⟨command, rfl, hmail⟩
  · next timer =>
    split at h
    · next hdue =>
      obtain ⟨rfl, rfl⟩ := by simpa using h
      refine .inr ⟨rfl, rfl, fun timer' heq => ?_⟩
      obtain rfl := Input.timer.inj heq
      simpa [Option.any_eq_true] using hdue
    · exact nomatch h
  · split at h
    · next hempty =>
      obtain ⟨rfl, rfl⟩ := by simpa using h
      exact .inr ⟨rfl, hempty, nofun⟩
    · exact nomatch h

theorem act_advances (h : l.act action = some l') : Advances l action l' := by
  cases action with
  | ask command =>
    simp only [act] at h
    split at h
    · next hopen =>
      obtain rfl := Option.some.inj h
      exact .asked command hopen
    · next hended =>
      obtain rfl := Option.some.inj h
      exact .askedLate command hended
  | turn occasion fault =>
    simp only [act] at h
    split at h
    · next hopen =>
      obtain ⟨⟨input, mail⟩, hinput, rfl⟩ := Option.map_eq_some_iff.1 h
      dsimp only
      split
      · next hending => exact .goesOn hopen hinput (step_proceeds hending)
      · next reason hending => exact .finishes hopen hinput (step_fails hending) hending
    · exact nomatch h
  | elapse duration =>
    obtain rfl := Option.some.inj h
    exact .elapses duration

lemma output_of_finish {input : Input} {output : List (Output Apdu)} {c c' : Connection}
    (hfails : Fails c input output c') (mail : List Command) (reason : CloseReason) :
    ∀ o ∈ output ++ refusals mail ++ (c'.close reason).2,
      (∃ request fault, o = .answered request (.refused fault)) ∨ o = .reported (.lost reason) := by
  intro o hmem
  obtain hmem | hmem := List.mem_append.1 hmem
  · left
    obtain hmem | hmem := List.mem_append.1 hmem
    · cases hfails with
      | refused fault => exact ⟨_, _, List.mem_singleton.1 hmem⟩
      | _ => exact nomatch hmem
    · obtain ⟨request, -, rfl⟩ := List.mem_map.1 hmem
      exact ⟨_, _, rfl⟩
  · obtain hmem | hmem := List.mem_append.1 hmem
    · obtain ⟨handshake, -, rfl⟩ := List.mem_map.1 hmem
      exact .inl ⟨_, _, rfl⟩
    · exact .inr (List.mem_singleton.1 hmem)

theorem run_keeps {P : Life → Prop} (h : P l)
    (hkeeps : ∀ action ∈ actions, ∀ l l', P l → l.Advances action l' → P l')
    (hrun : l.run actions = some l') : P l' := by
  induction actions generalizing l with
  | nil =>
    obtain rfl := Option.some.inj hrun
    exact h
  | cons action actions ih =>
    obtain ⟨l₁, hact, hrun⟩ := Option.bind_eq_some_iff.1 hrun
    have hfirst := hkeeps action (List.mem_cons_self ..) l l₁ h (act_advances hact)
    exact ih hfirst (fun a ha => hkeeps a (List.mem_cons_of_mem _ ha)) hrun

theorem run_keeps_timely {P : Life → Prop} (h : P l) (htimely : l.Timely actions)
    (hkeeps : ∀ action l l', P l → action.Timely l → l.Advances action l' → P l')
    (hrun : l.run actions = some l') : P l' := by
  induction actions generalizing l with
  | nil =>
    obtain rfl := Option.some.inj hrun
    exact h
  | cons action actions ih =>
    obtain ⟨l₁, hact, hrun⟩ := Option.bind_eq_some_iff.1 hrun
    have hfirst := hkeeps action l l₁ h htimely.1 (act_advances hact)
    exact ih hfirst (htimely.2 l₁ hact) hrun

lemma run_apci (h : l.run actions = some l') (hopen : l'.ending = none) :
    l'.connection.role = l.connection.role ∧ l'.connection.apci = l.connection.apci := by
  refine run_keeps (P := fun l' => l'.ending = none →
    l'.connection.role = l.connection.role ∧ l'.connection.apci = l.connection.apci)
    (fun _ => ⟨rfl, rfl⟩) ?_ h hopen
  intro action _ l₁ l₂ hsame hadvances hopen
  cases hadvances with
  | goesOn hopen₁ _ hproceeds =>
    obtain ⟨hrole, hapci⟩ := hproceeds.role_apci
    exact ⟨hrole.trans (hsame hopen₁).1, hapci.trans (hsame hopen₁).2⟩
  | finishes => exact nomatch hopen
  | _ => exact hsame hopen

end Life

end Telecontrol.Connection
