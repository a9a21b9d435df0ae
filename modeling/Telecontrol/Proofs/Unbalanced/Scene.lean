import Telecontrol.Proofs.Unbalanced.Basic

/-!
# Scenes of unbalanced transmission

A scene is what the two stations and the line look like from outside the octets: the stage of the
primary, the requests and responses that are still to be read, and the accounts. `Move` lists what
can happen to a scene. A turn of a station is one move, or two when the end of an exchange is
directly followed by another exchange.
-/

namespace Telecontrol

/-- The call that a demand serves. -/
def Demand.calls : Demand → List Unbalanced.Call
  | deliver request asdu _ => [⟨request, asdu, [], none⟩]
  | fetch _ => []

namespace Unbalanced

open Primary (HandshakeStep Stage)

/-- What the primary asks of the secondary: a step of a handshake, or a numbered demand. -/
inductive Ask
  | step (s : HandshakeStep)
  | demand (d : Demand) (fcb : Bool)

def Ask.frame (address : Nat) : Ask → LinkFrame
  | step s => s.frame address
  | demand d fcb => d.frame address fcb

/-- Something on the line, with its mark. -/
structure Letter (α : Type) where
  content : α
  mark : Mark

/-- Writes a letter, unless it is lost. -/
def post {α : Type} (lost : Bool) (letter : Letter α) (letters : List (Letter α)) :
    List (Letter α) :=
  if lost then letters else letters ++ [letter]

structure Scene where
  fcb : Bool
  stage : Stage
  secondary : Secondary
  requests : List (Letter Ask)
  responses : List (Letter LinkFrame)
  exchanges : List Account
  calls : List Call
  accepted : List Asdu
  received : List Asdu
  reported : List Asdu

namespace Scene

/-- Nothing is on the line. -/
def Silent (c : Scene) : Prop := c.requests = [] ∧ c.responses = []

/-- The number of the exchange that is under way, or of the last one. -/
def current (c : Scene) : Mark := some (c.exchanges.length - 1)

/-- The primary writes a request. -/
def ask (a : Ask) (mark : Mark) (lost : Bool) (c : Scene) : Scene :=
  { c with requests := post lost ⟨a, mark⟩ c.requests }

/-- The call that a demand serves is taken up. -/
def callFor (d : Demand) (c : Scene) : Scene := { c with calls := c.calls ++ d.calls }

/-- An exchange begins. -/
def begin (link : LinkParameters) (d : Demand) (quiet lost : Bool) (c : Scene) : Scene :=
  { c with
    fcb := !c.fcb
    stage := .exchanging d link.retries
    exchanges := c.exchanges ++ [{ quiet, attempts := 1 }]
    requests := post lost ⟨.demand d (!c.fcb), some c.exchanges.length⟩ c.requests }

/-- The exchange that is under way is repeated. -/
def again (d : Demand) (repeats : Nat) (lost : Bool) (c : Scene) : Scene :=
  { c with
    stage := .exchanging d repeats
    exchanges := c.exchanges.modifyLast fun a => { a with attempts := a.attempts + 1 }
    requests := post lost ⟨.demand d c.fcb, c.current⟩ c.requests }

/-- The exchange that is under way is over, after a response or without one. -/
def finish (answer : Option Mark) (active : Bool) (reported : List Asdu)
    (answers : List (Nat × Answer)) (c : Scene) : Scene :=
  { c with
    stage := .idle active
    exchanges := c.exchanges.modifyLast fun a => { a with ended := true, answer, reported }
    calls := c.calls.modifyLast (Call.conclude answers)
    reported := c.reported ++ reported }

/-- The secondary takes a request with a mark and writes a response. -/
def respond (mark : Mark) (s : Secondary) (r : LinkFrame) (lost : Bool) (c : Scene) : Scene :=
  { c with
    secondary := s
    requests := c.requests.tail
    responses := post lost ⟨r, mark⟩ c.responses }

/-- The secondary has served a demand afresh. -/
def supply (mark : Mark) (taken delivered : List Asdu) (c : Scene) : Scene :=
  { c with
    exchanges :=
      match mark with
      | some number => c.exchanges.modify number fun a => { a with taken := a.taken ++ taken }
      | none => c.exchanges
    calls := c.calls.modifyLast (Call.witness delivered)
    received := c.received ++ delivered }

/-- The primary takes a response. -/
def pop (c : Scene) : Scene := { c with responses := c.responses.tail }

end Scene

/-- What can happen on a line. On a lossy line a deadline passes only in silence, and on a slow line
nothing is lost. -/
inductive Move (line : Line) (link : LinkParameters) (widths : FieldWidths) (address : Nat) :
    Scene → Scene → Prop
  /-- A handshake begins. -/
  | ask {c : Scene} {lost : Bool} (hstage : c.stage = .idle false)
    (hlost : line = .slow → lost = false) (hsilent : line = .lossy → c.Silent) :
    Move line link widths address c
      { c.ask (.step .status) none lost with stage := .asking .status }
  /-- A step of a handshake is repeated. -/
  | askAgain {c : Scene} {s : HandshakeStep} {lost : Bool} (hstage : c.stage = .asking s)
    (hlost : line = .slow → lost = false) (hsilent : line = .lossy → c.Silent) :
    Move line link widths address c (c.ask (.step s) none lost)
  | giveUp {c : Scene} {s : HandshakeStep} (hstage : c.stage = .asking s)
    (hsilent : line = .lossy → c.Silent) :
    Move line link widths address c { c with stage := .idle false }
  /-- The status is known, and the link is to be reset. -/
  | known {c : Scene} {r : Letter LinkFrame} {rest : List (Letter LinkFrame)} {lost : Bool}
    (hstage : c.stage = .asking .status) (hresponses : c.responses = r :: rest)
    (hlost : line = .slow → lost = false) :
    Move line link widths address c
      { c.pop.ask (.step .reset) none lost with fcb := false, stage := .asking .reset }
  /-- The link is up. -/
  | up {c : Scene} {r : Letter LinkFrame} {rest : List (Letter LinkFrame)}
    {answers : List (Nat × Answer)} (hstage : c.stage = .asking .reset)
    (hresponses : c.responses = r :: rest) :
    Move line link widths address c
      { c.pop with stage := .idle true, calls := c.calls.modifyLast (Call.conclude answers) }
  /-- The primary cannot be opened. -/
  | fail {c : Scene} {s : HandshakeStep} {answers : List (Nat × Answer)}
    (hstage : c.stage = .asking s) :
    Move line link widths address c { c with calls := c.calls.modifyLast (Call.conclude answers) }
  /-- A response is dropped. -/
  | drop {c : Scene} {r : Letter LinkFrame} {rest : List (Letter LinkFrame)}
    (hstage : ∀ d repeats, c.stage ≠ .exchanging d repeats) (hresponses : c.responses = r :: rest) :
    Move line link widths address c c.pop
  | begin {c : Scene} {d : Demand} {quiet lost : Bool} (hstage : c.stage = .idle true)
    (hproper : d.Proper link.addressLength widths) (hquiet : quiet = true ↔ c.Silent)
    (hlost : line = .slow → lost = false) :
    Move line link widths address c ((c.callFor d).begin link d quiet lost)
  | again {c : Scene} {d : Demand} {repeats : Nat} {lost : Bool}
    (hstage : c.stage = .exchanging d (repeats + 1)) (hlost : line = .slow → lost = false)
    (hsilent : line = .lossy → c.Silent) :
    Move line link widths address c (c.again d repeats lost)
  /-- An exchange has not been answered in any attempt. -/
  | exhaust {c : Scene} {d : Demand} (hstage : c.stage = .exchanging d 0)
    (hsilent : line = .lossy → c.Silent) :
    Move line link widths address c (c.finish none false [] (d.abandoned address))
  /-- A response ends an exchange. -/
  | conclude {c : Scene} {d : Demand} {repeats : Nat} {r : Letter LinkFrame}
    {rest : List (Letter LinkFrame)} (hstage : c.stage = .exchanging d repeats)
    (hresponses : c.responses = r :: rest) :
    Move line link widths address c
      (c.pop.finish (some r.mark) true (d.reported widths r.content) (d.concluded r.content))
  /-- A call is refused at once. -/
  | refuse {c : Scene} {active : Bool} {request : Nat} {asdu : Asdu} {fault : Fault}
    (hstage : c.stage = .idle active)
    (hfault : fault = .notActive ∨ ∃ receiver, fault = .domain (.noSecondary receiver)) :
    Move line link widths address c
      { c with calls := c.calls ++ [⟨request, asdu, [], some (.refused fault)⟩] }
  /-- A repeated demand is answered as before. -/
  | repeated {c : Scene} {d : Demand} {fcb : Bool} {mark : Mark} {rest : List (Letter Ask)}
    {r : LinkFrame} {lost : Bool} (hrequests : c.requests = ⟨.demand d fcb, mark⟩ :: rest)
    (hfcb : c.secondary.lastFcb = some fcb) (hkept : c.secondary.lastResponse = some r)
    (hlost : line = .slow → lost = false) :
    Move line link widths address c (c.respond mark c.secondary r lost)
  /-- A demand is served. -/
  | served {c : Scene} {d : Demand} {fcb : Bool} {mark : Mark} {rest : List (Letter Ask)}
    {r : LinkFrame} {s : Secondary} {lost : Bool}
    (hrequests : c.requests = ⟨.demand d fcb, mark⟩ :: rest)
    (hfcb : c.secondary.lastFcb ≠ some fcb) (hserves : Secondary.Serves d fcb r c.secondary s)
    (hlost : line = .slow → lost = false) :
    Move line link widths address c
      ((c.respond mark s r lost).supply mark (r.asdus widths) d.delivery)
  /-- The status is told. -/
  | told {c : Scene} {mark : Mark} {rest : List (Letter Ask)} {r : LinkFrame} {lost : Bool}
    (hrequests : c.requests = ⟨.step .status, mark⟩ :: rest)
    (hanswers : r.Answers link.addressLength address) (hlost : line = .slow → lost = false) :
    Move line link widths address c (c.respond mark c.secondary r lost)
  /-- The link is reset. -/
  | reset {c : Scene} {mark : Mark} {rest : List (Letter Ask)} {r : LinkFrame} {s : Secondary}
    {lost : Bool} (hrequests : c.requests = ⟨.step .reset, mark⟩ :: rest)
    (hanswers : r.Answers link.addressLength address) (hsame : c.secondary.Same s)
    (hsound : s.Sound) (hfcb : s.lastFcb = none)
    (hwaiting : ∀ dataClass, s.waiting dataClass = c.secondary.waiting dataClass)
    (hlost : line = .slow → lost = false) :
    Move line link widths address c (c.respond mark s r lost)
  /-- The secondary accepts an ASDU for its queue. -/
  | queue {c : Scene} {s : Secondary} {asdu : Asdu} (hsame : c.secondary.Same s) (hsound : s.Sound)
    (hfcb : s.lastFcb = c.secondary.lastFcb) (hkept : s.lastResponse = c.secondary.lastResponse)
    (hwaiting : ∀ dataClass, s.waiting dataClass =
      c.secondary.waiting dataClass ++ [asdu].filter (·.dataClass = dataClass)) :
    Move line link widths address c { c with secondary := s, accepted := c.accepted ++ [asdu] }

lemma modifyLast_id {calls : List Call} {f : Call → Call} (h : ∀ call ∈ calls, f call = call) :
    calls.modifyLast f = calls := by
  rcases List.eq_nil_or_concat calls with rfl | ⟨past, last, rfl⟩
  · rfl
  · simp only [List.concat_eq_append] at h ⊢
    rw [List.modifyLast_concat, h last (by simp)]

lemma map_modifyLast {β : Type} {accounts : List Account} {f : Account → Account}
    {g : Account → β} (h : ∀ a, g (f a) = g a) : (accounts.modifyLast f).map g = accounts.map g := by
  rcases List.eq_nil_or_concat accounts with rfl | ⟨past, last, rfl⟩
  · rfl
  · simp [List.concat_eq_append, List.modifyLast_concat, h last]

lemma map_modify {β : Type} {accounts : List Account} {number : Nat} {f : Account → Account}
    {g : Account → β} (h : ∀ a, g (f a) = g a) :
    (accounts.modify number f).map g = accounts.map g := by
  refine List.ext_getElem? fun i => ?_
  simp only [List.getElem?_map, List.getElem?_modify]
  cases accounts[i]? with
  | none => rfl
  | some a =>
    by_cases hi : number = i
    · simp [hi, h a]
    · simp [hi]

lemma length_modifyLast (accounts : List Account) (f : Account → Account) :
    (accounts.modifyLast f).length = accounts.length := by
  have hmap : (accounts.modifyLast f).map (fun _ => ()) = accounts.map fun _ => () :=
    map_modifyLast fun _ => rfl
  have hlength := congrArg List.length hmap
  rwa [List.length_map, List.length_map] at hlength

lemma witness_nil (calls : List Call) : calls.modifyLast (Call.witness []) = calls :=
  modifyLast_id fun call _ => by simp [Call.witness]

lemma conclude_nil (calls : List Call) : calls.modifyLast (Call.conclude []) = calls := by
  refine modifyLast_id fun call _ => ?_
  rcases call with ⟨request, asdu, received, _ | answer⟩ <;> rfl

/-- Moves one after the other. -/
inductive Moves (line : Line) (link : LinkParameters) (widths : FieldWidths) (address : Nat) :
    Scene → Scene → Prop
  | none (c : Scene) : Moves line link widths address c c
  | more {c c' c'' : Scene} : Move line link widths address c c' →
    Moves line link widths address c' c'' → Moves line link widths address c c''

end Unbalanced

end Telecontrol
