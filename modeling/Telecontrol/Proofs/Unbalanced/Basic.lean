import Mathlib.Data.List.ModifyLast
import Telecontrol.Proofs.Channel
import Telecontrol.Proofs.Primary.Turns
import Telecontrol.Proofs.Secondary.Turns

/-!
# Unbalanced transmission

A primary station and the one secondary station that it serves, on a line that may lose frames and
may deliver them late. Whatever can happen is an action, and a run is any list of actions that are
possible one after the other. Beside the stations an account is kept of the exchanges and of the
calls of the application; to this end every frame on the line is marked with the exchange that it
belongs to.
-/

namespace Telecontrol

/-- The frame of the exchange that is under way. -/
def Primary.frame? (p : Primary) : Option LinkFrame :=
  match p.activity with
  | .exchange x _ => some x.frame
  | _ => none

/-- An exchange is known by its number. Frames of handshakes belong to none. -/
abbrev Unbalanced.Mark := Option Nat

/-- One direction of the line, with the marks of the frames in it. -/
structure Unbalanced.Lane where
  channel : Channel := {}
  marks : List Unbalanced.Mark := []
deriving DecidableEq, Repr

/-- What is noted of an exchange. -/
structure Unbalanced.Account where
  /-- Nothing was on the line when the exchange began. -/
  quiet : Bool
  /-- How often its frame was written. -/
  attempts : Nat := 0
  /-- The ASDUs that the secondary took from its queues to answer it. -/
  taken : List Asdu := []
  ended : Bool := false
  /-- The mark of the response that ended it; none if none did. -/
  answer : Option Unbalanced.Mark := none
  /-- The ASDUs that the primary handed out at its end. -/
  reported : List Asdu := []
deriving DecidableEq, Repr

/-- What is noted of a call that the primary has taken up. -/
structure Unbalanced.Call where
  request : Nat
  asdu : Asdu
  /-- The ASDUs that the secondary handed out before the call was answered. -/
  received : List Asdu := []
  answer : Option Answer := none
deriving DecidableEq, Repr

structure Unbalanced where
  now : Nat
  primary : Primary
  secondary : Secondary
  requests : Unbalanced.Lane := {}
  responses : Unbalanced.Lane := {}
  primaryEnd : Option CloseReason := none
  secondaryEnd : Option CloseReason := none
  exchanges : List Unbalanced.Account := []
  calls : List Unbalanced.Call := []
  /-- The ASDUs that the secondary accepted for its queues. -/
  accepted : List Asdu := []
  /-- The ASDUs that the secondary handed out. -/
  received : List Asdu := []
  /-- The ASDUs that the primary handed out. -/
  reported : List Asdu := []
deriving DecidableEq, Repr

namespace Unbalanced

/-- What can happen. What a station writes is lost with `lost`. -/
inductive Action
  /-- The primary takes up a call to send an ASDU. -/
  | send (address : Nat) (asdu : Asdu) (request : Nat) (lost : Bool)
  /-- The secondary is to queue an ASDU. -/
  | queue (asdu : Asdu) (request : Nat)
  /-- Some of the octets on their way to the secondary, or to the primary, arrive. -/
  | carryRequests (count : Nat)
  | carryResponses (count : Nat)
  /-- The primary takes what has arrived. -/
  | hear (lost : Bool)
  /-- The secondary takes what has arrived. -/
  | serve (lost : Bool)
  /-- The time has come at which the primary goes on. -/
  | expire (lost : Bool)
  | elapse (duration : Nat)
deriving DecidableEq, Repr

namespace Action

def lost : Action → Bool
  | send _ _ _ lost | hear lost | serve lost | expire lost => lost
  | _ => false

/-- The ASDU that an action is about. -/
def asdu? : Action → Option Asdu
  | send _ asdu _ _ | queue asdu _ => some asdu
  | _ => none

end Action

namespace Lane

/-- Takes what a turn writes, unless it is lost. -/
def write {σ : Type} (mark : Mark) (lost : Bool) (t : Turn σ LinkFrame) (lane : Lane) : Lane :=
  if lost then lane
  else
    { channel := lane.channel.put t.octets
      marks := lane.marks ++ t.frames.map fun _ => mark }

/-- One frame is taken from the inbox. -/
def read (inbox : Inbox) (lane : Lane) : Lane where
  channel := { lane.channel with inbox }
  marks := lane.marks.tail

def carry (count : Nat) (lane : Lane) : Lane := { lane with channel := lane.channel.carry count }

end Lane

namespace Call

/-- The secondary hands out ASDUs. -/
def witness (asdus : List Asdu) (call : Call) : Call :=
  if call.answer.isNone then { call with received := call.received ++ asdus } else call

/-- The primary answers requests. -/
def conclude (answers : List (Nat × Answer)) (call : Call) : Call :=
  if call.answer.isNone then { call with answer := answers.lookup call.request } else call

end Call

/-- Keeps account of the exchanges when the primary has taken a turn: the one that was under way is
over if it is not under way any more, and another may have begun. -/
def settle (p : Primary) (t : Primary.Turn) (heard : Option Mark) (silent : Bool)
    (accounts : List Account) : List Account :=
  let before := p.frame?
  let now := t.state.frame?
  let accounts :=
    if before.isSome ∧ now ≠ before then
      accounts.modifyLast fun a => { a with ended := true, answer := heard, reported := t.asdus }
    else accounts
  let accounts :=
    if now.isSome ∧ now ≠ before then accounts ++ [{ quiet := silent }] else accounts
  if now.isSome then
    accounts.modifyLast fun a => { a with attempts := a.attempts + t.frames.length }
  else accounts

/-- Nothing is on the line. -/
def silent (u : Unbalanced) : Bool :=
  u.requests.channel.contents.isEmpty && u.responses.channel.contents.isEmpty

/-- The primary takes a turn, after a response with a mark or for another reason. -/
def prompt (input : Primary.Input) (heard : Option Mark) (lost : Bool) (u : Unbalanced) :
    Unbalanced :=
  let t := u.primary.step ⟨u.now, none⟩ input
  let exchanges := settle u.primary t heard u.silent u.exchanges
  let mark := if t.state.frame?.isSome then some (exchanges.length - 1) else none
  { u with
    primary := t.state
    primaryEnd := t.ending
    requests := u.requests.write mark lost t
    exchanges
    calls := u.calls.modifyLast (Call.conclude t.answers)
    reported := u.reported ++ t.asdus }

/-- A call is taken up. -/
def call (asdu : Asdu) (request : Nat) (u : Unbalanced) : Unbalanced :=
  { u with calls := u.calls ++ [{ request := request, asdu }] }

/-- The secondary takes a turn because of a request with a mark. -/
def reply (input : Secondary.Input) (mark : Mark) (lost : Bool) (u : Unbalanced) : Unbalanced :=
  let t := u.secondary.step ⟨u.now, none⟩ input
  let taken := u.secondary.taken t.state
  { u with
    secondary := t.state
    secondaryEnd := t.ending
    responses := u.responses.write mark lost t
    exchanges :=
      match mark with
      | some number => u.exchanges.modify number fun a => { a with taken := a.taken ++ taken }
      | none => u.exchanges
    calls := u.calls.modifyLast (Call.witness t.asdus)
    received := u.received ++ t.asdus }

/-- The secondary queues an ASDU, or refuses to. -/
def enqueue (command : Secondary.Command) (asdu : Asdu) (request : Nat) (u : Unbalanced) :
    Unbalanced :=
  let t := u.secondary.step ⟨u.now, none⟩ (.command command)
  { u with
    secondary := t.state
    secondaryEnd := t.ending
    accepted :=
      if t.answers.lookup request = some .done then u.accepted ++ [asdu] else u.accepted }

/-- What an action makes of the stations and the line, if it is possible. -/
def act (action : Action) (u : Unbalanced) : Option Unbalanced :=
  match action with
  | .send address asdu request lost =>
    if u.primaryEnd.isNone ∧ u.primary.isIdle = true then
      (Primary.sendCommand u.primary.link u.primary.widths address asdu request).toOption.map
        fun command => (u.call asdu request).prompt (.command command) none lost
    else none
  | .queue asdu request =>
    if u.secondaryEnd.isNone then
      (Secondary.commandOf u.secondary.link u.secondary.widths asdu request).toOption.map
        fun command => u.enqueue command asdu request
    else none
  | .carryRequests count => some { u with requests := u.requests.carry count }
  | .carryResponses count => some { u with responses := u.responses.carry count }
  | .hear lost =>
    if u.primaryEnd.isNone ∧ u.primary.isListening = true then
      (u.primary.take u.responses.channel.inbox).map fun (input, inbox) =>
        { u with responses := u.responses.read inbox }.prompt input u.responses.marks.head? lost
    else none
  | .serve lost =>
    if u.secondaryEnd.isNone then
      (u.secondary.take u.requests.channel.inbox).map fun (input, inbox) =>
        { u with requests := u.requests.read inbox }.reply input u.requests.marks.head?.join lost
    else none
  | .expire lost =>
    if u.primaryEnd.isNone ∧ u.primary.deadline.any (· ≤ u.now) = true then
      some (u.prompt .deadline none lost)
    else none
  | .elapse duration => some { u with now := u.now + duration }

/-- What actions one after the other make of it, if each is possible. -/
def run : List Action → Unbalanced → Option Unbalanced
  | [], u => some u
  | action :: actions, u => (u.act action).bind (run actions)

/-- A fresh secondary station, and a primary station that begins to open. -/
def start (address : Nat) (link : LinkParameters) (widths : FieldWidths) (request now : Nat)
    (lost : Bool) : Except Fault Unbalanced := do
  let secondary ← Secondary.start address link widths
  let turn ← Primary.start ⟨now, none⟩ [address] link widths request
  return { now, secondary, primary := turn.state, primaryEnd := turn.ending,
           requests := ({} : Lane).write none lost turn }

/-- What a line does to frames: it may lose them, but then it is fast enough for every deadline, or
it may be slow, but then it loses none. -/
inductive Line
  | lossy | slow
deriving DecidableEq, Repr

/-- The line allows an action: when a deadline passes on a fast line, nothing is on its way. -/
def Allows (u : Unbalanced) : Line → Action → Prop
  | .lossy, .expire _ => u.silent = true
  | .lossy, _ => True
  | .slow, action => action.lost = false

/-- The line allows every action of a run. -/
def Keeps (line : Line) : List Action → Unbalanced → Prop
  | [], _ => True
  | action :: actions, u =>
    u.Allows line action ∧ ∀ u', u.act action = some u' → Keeps line actions u'

instance (u : Unbalanced) (line : Line) (action : Action) : Decidable (u.Allows line action) := by
  unfold Allows
  split <;> infer_instance

instance decidableKeeps (line : Line) : ∀ actions u, Decidable (Keeps line actions u)
  | [], _ => isTrue trivial
  | action :: actions, u =>
    if hallows : u.Allows line action then
      match hact : u.act action with
      | none => isTrue ⟨hallows, by simp [hact]⟩
      | some u' =>
        have := decidableKeeps line actions u'
        decidable_of_iff (Keeps line actions u') (by simp [Keeps, hallows, hact])
    else isFalse fun h => hallows h.1

end Unbalanced

end Telecontrol
