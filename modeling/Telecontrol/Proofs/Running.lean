import Telecontrol.Ft12.Codec
import Telecontrol.Inbox
import Telecontrol.Proofs.Output

/-!
# Stations that run

A station of a serial line together with the octets and commands that wait for it, the clock, and a
record of its turns. What arrives, what is asked and how time passes is not restricted, and of the
things that are ready any one may be next. What each step keeps holds of every run (`run_keeps`).
-/

namespace Telecontrol

/-- How the stations of a kind take their turns. -/
structure Conduct (σ κ ι φ : Type) where
  step : Moment → ι → σ → Turn σ φ
  /-- What is put out at the end. -/
  close : CloseReason → σ → σ × List (Output φ)
  /-- What the station reads next. -/
  read : σ → Inbox → Option (ι × Inbox)
  /-- Whether the station takes a command. -/
  isFree : σ → Bool
  carryOut : κ → ι
  request? : κ → Option Nat
  /-- Nobody is left who could hand over a command. -/
  abandoned : ι
  /-- What is to be done at a time if nothing else happens. -/
  expiry : Nat → σ → Option ι

/-- What is on record of one turn: when it was taken, by what station, what it was about, and what
it put out. -/
structure Episode (σ ι φ : Type) where
  time : Nat
  station : σ
  input : ι
  output : List (Output φ)
deriving DecidableEq, Repr

/-- A station that runs. -/
structure Running (σ κ ι φ : Type) where
  now : Nat
  station : σ
  inbox : Inbox := {}
  /-- Commands that wait. -/
  mail : List κ := []
  ending : Option CloseReason := none
  /-- What was put out when the station was started. -/
  opening : List (Output φ) := []
  /-- The turns so far. -/
  past : List (Episode σ ι φ) := []
deriving DecidableEq, Repr

namespace Running

/-- What a turn is about. -/
inductive Occasion
  | arrival
  /-- The command that has waited longest. -/
  | command
  | expiry
  | abandoned
deriving DecidableEq, Repr

inductive Action (κ : Type)
  | arrive (octets : Octets)
  | hangUp (ending : StreamEnd)
  | ask (command : κ)
  | elapse (duration : Nat)
  /-- The station takes a turn; its writes fail if there is a fault. -/
  | turn (occasion : Occasion) (fault : Option String)
deriving DecidableEq, Repr

/-- The turn reads what has arrived, and the line works. -/
def Action.read {κ : Type} : Action κ := .turn .arrival none

/-- Nothing goes wrong on the line. -/
def Action.isSound {κ : Type} : Action κ → Bool
  | .turn _ fault => fault.isNone
  | .hangUp ending => ending = .finished
  | _ => true

/-- A command is asked for and carried out. -/
def instruct {κ : Type} (command : κ) : List (Action κ) := [.ask command, .turn .command none]

/-- A link frame arrives and is read. -/
def receive {κ : Type} (addressLength : Nat) (frame : LinkFrame) : List (Action κ) :=
  [.arrive ((frame.encode addressLength).toOption.getD []), .read]

/-- Time passes until the station goes on by itself. -/
def await {κ : Type} (duration : Nat) : List (Action κ) :=
  [.elapse duration, .turn .expiry none]

variable {σ κ ι φ : Type}

/-- Everything put out so far. -/
def output (r : Running σ κ ι φ) : List (Output φ) :=
  r.opening ++ r.past.flatMap Episode.output

def events (r : Running σ κ ι φ) : List Event := r.output.filterMap Output.event?

variable (c : Conduct σ κ ι φ)

/-- Answers to commands that are not carried out any more. -/
def refusals (mail : List κ) : List (Output φ) :=
  (mail.filterMap c.request?).map fun request => .answered request (.refused .notConnected)

/-- The station behind a turn. -/
def left (t : Turn σ φ) : σ :=
  match t.ending with
  | none => t.state
  | some reason => (c.close reason t.state).1

/-- What a turn puts out. If it ends the station, the commands that still wait are refused. -/
def issued (mail : List κ) (t : Turn σ φ) : List (Output φ) :=
  match t.ending with
  | none => t.output
  | some reason => t.output ++ refusals c mail ++ (c.close reason t.state).2

/-- A station that has been started. -/
def begin (now : Nat) (t : Turn σ φ) : Running σ κ ι φ :=
  { now, station := left c t, ending := t.ending, opening := issued c [] t }

/-- What the station is confronted with on an occasion, if it is there, and the octets and commands
that still wait. -/
def input? (occasion : Occasion) (r : Running σ κ ι φ) : Option (ι × Inbox × List κ) :=
  match occasion with
  | .arrival => (c.read r.station r.inbox).map fun (input, inbox) => (input, inbox, r.mail)
  | .command =>
    match r.mail with
    | [] => none
    | command :: mail =>
      if c.isFree r.station then some (c.carryOut command, r.inbox, mail) else none
  | .expiry => (c.expiry r.now r.station).map (·, r.inbox, r.mail)
  | .abandoned =>
    if r.mail.isEmpty && c.isFree r.station then some (c.abandoned, r.inbox, []) else none

/-- A turn is taken. -/
def proceed (input : ι) (inbox : Inbox) (mail : List κ) (t : Turn σ φ) (r : Running σ κ ι φ) :
    Running σ κ ι φ :=
  { r with
    station := left c t
    inbox
    mail := if t.ending = none then mail else []
    ending := t.ending
    past := r.past ++ [⟨r.now, r.station, input, issued c mail t⟩] }

/-- What an action makes of a running station, if it is possible. A command that comes too late does
not reach the station. -/
def act (action : Action κ) (r : Running σ κ ι φ) : Option (Running σ κ ι φ) :=
  match action with
  | .arrive octets => some { r with inbox := r.inbox.add octets }
  | .hangUp ending => some { r with inbox := r.inbox.stop ending }
  | .ask command =>
    some (if r.ending = none then { r with mail := r.mail ++ [command] } else r)
  | .elapse duration => some { r with now := r.now + duration }
  | .turn occasion fault =>
    if r.ending = none then
      (r.input? c occasion).map fun (input, inbox, mail) =>
        r.proceed c input inbox mail (c.step ⟨r.now, fault⟩ input r.station)
    else none

/-- What actions one after the other make of a running station, if each is possible. -/
def run : List (Action κ) → Running σ κ ι φ → Option (Running σ κ ι φ)
  | [], r => some r
  | action :: actions, r => (r.act c action).bind (run actions)

/-- A step of a running station. -/
inductive Advances (r : Running σ κ ι φ) : Action κ → Running σ κ ι φ → Prop
  | arrives (octets : Octets) : Advances r (.arrive octets) { r with inbox := r.inbox.add octets }
  | hangsUp (ending : StreamEnd) :
      Advances r (.hangUp ending) { r with inbox := r.inbox.stop ending }
  | asked (command : κ) : r.ending = none →
      Advances r (.ask command) { r with mail := r.mail ++ [command] }
  | askedLate (command : κ) : r.ending ≠ none → Advances r (.ask command) r
  | elapses (duration : Nat) : Advances r (.elapse duration) { r with now := r.now + duration }
  | turns {occasion : Occasion} {fault : Option String} {input : ι} {inbox : Inbox}
      {mail : List κ} : r.ending = none → r.input? c occasion = some (input, inbox, mail) →
      Advances r (.turn occasion fault)
        (r.proceed c input inbox mail (c.step ⟨r.now, fault⟩ input r.station))

/-- A station can be confronted with an input while commands wait. -/
def Faces (s : σ) (input : ι) (mail : List κ) : Prop :=
  ∃ (r : Running σ κ ι φ) (occasion : Occasion) (inbox : Inbox),
    r.station = s ∧ r.input? c occasion = some (input, inbox, mail)

/-- The turns that lead from one station to another. Each is taken by the station that the one
before has left, unless that has ended it. -/
inductive Path : σ → Option CloseReason → List (Episode σ ι φ) → σ → Option CloseReason → Prop
  | nil (s : σ) (ending : Option CloseReason) : Path s ending [] s ending
  | cons {s s' : σ} {ending' : Option CloseReason} {later : List (Episode σ ι φ)} (m : Moment)
      (input : ι) (mail : List κ) : Faces c s input mail →
      Path (left c (c.step m input s)) (c.step m input s).ending later s' ending' →
      Path s none (⟨m.now, s, input, issued c mail (c.step m input s)⟩ :: later) s' ending'

variable {c} {r r' : Running σ κ ι φ} {action : Action κ} {actions : List (Action κ)}

theorem act_advances (h : r.act c action = some r') : Advances c r action r' := by
  cases action with
  | arrive octets =>
    obtain rfl := Option.some.inj h
    exact .arrives octets
  | hangUp ending =>
    obtain rfl := Option.some.inj h
    exact .hangsUp ending
  | ask command =>
    simp only [act] at h
    by_cases hopen : r.ending = none
    · rw [if_pos hopen] at h
      obtain rfl := Option.some.inj h
      exact .asked command hopen
    · rw [if_neg hopen] at h
      obtain rfl := Option.some.inj h
      exact .askedLate command hopen
  | elapse duration =>
    obtain rfl := Option.some.inj h
    exact .elapses duration
  | turn occasion fault =>
    simp only [act] at h
    by_cases hopen : r.ending = none
    · rw [if_pos hopen] at h
      obtain ⟨⟨input, inbox, mail⟩, hinput, rfl⟩ := Option.map_eq_some_iff.1 h
      exact .turns hopen hinput
    · rw [if_neg hopen] at h
      exact nomatch h

/-- What a station is confronted with has arrived, or is the command that has waited longest, or
falls due, or is that the application has gone away. -/
lemma input?_cases {occasion : Occasion} {input : ι} {inbox : Inbox} {mail : List κ}
    (h : r.input? c occasion = some (input, inbox, mail)) :
    (c.read r.station r.inbox = some (input, inbox) ∧ mail = r.mail) ∨
      (∃ command, r.mail = command :: mail ∧ c.isFree r.station = true ∧
        input = c.carryOut command ∧ inbox = r.inbox) ∨
      (c.expiry r.now r.station = some input ∧ inbox = r.inbox ∧ mail = r.mail) ∨
      (input = c.abandoned ∧ mail = [] ∧ inbox = r.inbox) := by
  cases occasion with
  | arrival =>
    obtain ⟨⟨input', inbox'⟩, hread, heq⟩ := Option.map_eq_some_iff.1 h
    obtain ⟨rfl, rfl, rfl⟩ : input' = input ∧ inbox' = inbox ∧ r.mail = mail := by simpa using heq
    exact .inl ⟨hread, rfl⟩
  | command =>
    cases hmail : r.mail with
    | nil => simp [input?, hmail] at h
    | cons command rest =>
      obtain ⟨hfree, rfl, rfl, rfl⟩ : c.isFree r.station = true ∧ c.carryOut command = input ∧
          r.inbox = inbox ∧ rest = mail := by
        simpa [input?, hmail] using h
      exact .inr (.inl ⟨command, rfl, hfree, rfl, rfl⟩)
  | expiry =>
    obtain ⟨input', hexpiry, heq⟩ := Option.map_eq_some_iff.1 h
    obtain ⟨rfl, rfl, rfl⟩ : input' = input ∧ r.inbox = inbox ∧ r.mail = mail := by simpa using heq
    exact .inr (.inr (.inl ⟨hexpiry, rfl, rfl⟩))
  | abandoned =>
    obtain ⟨-, rfl, rfl, rfl⟩ : (r.mail = [] ∧ c.isFree r.station = true) ∧
        c.abandoned = input ∧ r.inbox = inbox ∧ [] = mail := by
      simpa [input?] using h
    exact .inr (.inr (.inr ⟨rfl, rfl, rfl⟩))

lemma left_eq_state (hclose : ∀ reason s, (c.close reason s).1 = s) (t : Turn σ φ) :
    left c t = t.state := by
  unfold left
  split
  · rfl
  · exact hclose _ _

theorem run_keeps {P : Running σ κ ι φ → Prop} (h : P r)
    (hkeeps : ∀ action ∈ actions, ∀ r r', P r → Advances c r action r' → P r')
    (hrun : r.run c actions = some r') : P r' := by
  induction actions generalizing r with
  | nil =>
    obtain rfl := Option.some.inj hrun
    exact h
  | cons action actions ih =>
    obtain ⟨r₁, hact, hrun⟩ := Option.bind_eq_some_iff.1 hrun
    have hfirst := hkeeps action (List.mem_cons_self ..) r r₁ h (act_advances hact)
    exact ih hfirst (fun a ha => hkeeps a (List.mem_cons_of_mem _ ha)) hrun

lemma run_append (earlier later : List (Action κ)) (r : Running σ κ ι φ) :
    r.run c (earlier ++ later) = (r.run c earlier).bind (run c later) := by
  induction earlier generalizing r with
  | nil => rfl
  | cons action earlier ih =>
    simp only [List.cons_append, run]
    rw [Option.bind_assoc]
    exact congrArg _ (funext ih)

lemma opening_of_run (hrun : r.run c actions = some r') : r'.opening = r.opening := by
  apply run_keeps (P := fun r₁ => r₁.opening = r.opening) rfl _ hrun
  intro action _ r₁ r₂ h hadvances
  cases hadvances <;> exact h

theorem run_path (hrun : r.run c actions = some r') :
    ∃ later, r'.past = r.past ++ later ∧
      Path c r.station r.ending later r'.station r'.ending := by
  induction actions generalizing r with
  | nil =>
    obtain rfl := Option.some.inj hrun
    exact ⟨[], (List.append_nil _).symm, .nil ..⟩
  | cons action actions ih =>
    obtain ⟨r₁, hact, hrun⟩ := Option.bind_eq_some_iff.1 hrun
    obtain ⟨later, hpast, hpath⟩ := ih hrun
    -- Only turns are on record.
    cases act_advances hact with
    | arrives | hangsUp | asked | askedLate | elapses => exact ⟨later, hpast, hpath⟩
    | turns hopen hinput =>
      rw [hopen]
      exact ⟨_, hpast.trans (List.append_assoc ..), .cons _ _ _ ⟨r, _, _, rfl, hinput⟩ hpath⟩

namespace Path

variable {s s' : σ} {ending ending' : Option CloseReason}
  {earlier later : List (Episode σ ι φ)} {e : Episode σ ι φ}

lemma of_ended {reason : CloseReason} (h : Path c s (some reason) later s' ending') :
    later = [] ∧ s' = s ∧ ending' = some reason := by
  cases h with
  | nil => exact ⟨rfl, rfl, rfl⟩

theorem keeps {P : σ → Prop} (hturn : ∀ m input s, P s → P (left c (c.step m input s)))
    (h : Path c s ending later s' ending') (hs : P s) : P s' ∧ ∀ e ∈ later, P e.station := by
  induction h with
  | nil => exact ⟨hs, nofun⟩
  | cons m input mail _ _ ih =>
    obtain ⟨hend, hlater⟩ := ih (hturn m input _ hs)
    exact ⟨hend, List.forall_mem_cons.2 ⟨hs, hlater⟩⟩

theorem split (h : Path c s ending (earlier ++ e :: later) s' ending') :
    ∃ m mail, e.output = issued c mail (c.step m e.input e.station) ∧
      Path c s ending earlier e.station none ∧
      Path c (left c (c.step m e.input e.station)) (c.step m e.input e.station).ending later s'
        ending' := by
  induction earlier generalizing s ending with
  | nil =>
    cases h with
    | cons m input mail _ hlater => exact ⟨m, mail, rfl, .nil .., hlater⟩
  | cons first earlier ih =>
    cases h with
    | cons m input mail hfaces hrest =>
      obtain ⟨m', mail', houtput, hearlier, hlater⟩ := ih hrest
      exact ⟨m', mail', houtput, .cons m input mail hfaces hearlier, hlater⟩

end Path

end Running

end Telecontrol
