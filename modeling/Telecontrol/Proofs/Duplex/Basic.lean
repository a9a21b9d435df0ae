import Telecontrol.Proofs.Channel
import Telecontrol.Proofs.Connection.Turns

/-!
# Two connected ends

A controlling and a controlled connection, joined by a channel in each direction that loses nothing
and delays as it likes. Whatever can happen to either end is an action, and a run is any list of
actions that are possible one after the other. Besides their connections the ends keep account of
the ASDUs that they accepted for sending and of those that they handed out.
-/

namespace Telecontrol

def Role.other : Role → Role
  | .controlling => .controlled
  | .controlled => .controlling

/-- One end, with the channel that leads to it. -/
structure Duplex.End where
  connection : Connection
  inbound : Channel := {}
  ending : Option CloseReason := none
  /-- The ASDUs whose sending was granted. -/
  accepted : List Asdu := []
  /-- The ASDUs that were reported as received. -/
  received : List Asdu := []
deriving DecidableEq, Repr

structure Duplex where
  now : Nat
  controlling : Duplex.End
  controlled : Duplex.End
deriving DecidableEq, Repr

namespace Duplex

/-- What a turn of an end is about. -/
inductive Occasion
  | arrival
  | command (command : Connection.Command)
  | timer (timer : Connection.Timer)
  | abandoned
deriving DecidableEq, Repr

inductive Action
  /-- An end takes a turn; its writes fail if there is a fault. -/
  | turn (role : Role) (occasion : Occasion) (fault : Option String)
  /-- Some of the octets on their way to an end arrive. -/
  | carry (role : Role) (count : Nat)
  /-- The end of the stream arrives at an end. -/
  | hangUp (role : Role)
  | elapse (duration : Nat)
deriving DecidableEq, Repr

namespace End

/-- The connection's input for an occasion, if the occasion is there, and what it leaves in the
inbox. -/
def input? (now : Nat) (occasion : Occasion) (e : End) : Option (Connection.Input × Inbox) :=
  match occasion with
  | .arrival =>
    (e.inbound.inbox.take (Apdu.reader e.connection.widths)).map fun (arrival, inbox) =>
      (.arrival arrival, inbox)
  | .command command => some (.command command, e.inbound.inbox)
  | .timer timer =>
    if (e.connection.deadline timer).any (· ≤ now) then some (.timer timer, e.inbound.inbox)
    else none
  | .abandoned => some (.abandoned, e.inbound.inbox)

/-- What a turn leaves of an end. -/
def conclude (input : Connection.Input) (inbox : Inbox) (t : Connection.Turn) (e : End) : End where
  connection :=
    match t.ending with
    | none => t.state
    | some reason => (t.state.close reason).1
  inbound := { e.inbound with inbox }
  ending := t.ending
  accepted := e.accepted ++ input.accepted t
  received := e.received ++ t.asdus

end End

def side (d : Duplex) : Role → End
  | .controlling => d.controlling
  | .controlled => d.controlled

def modify (role : Role) (f : End → End) (d : Duplex) : Duplex :=
  match role with
  | .controlling => { d with controlling := f d.controlling }
  | .controlled => { d with controlled := f d.controlled }

/-- Two ends over a fresh stream. Each has its own parameters, but the widths are the same. -/
def start (controlling controlled : ApciParameters) (widths : FieldWidths) (now : Nat) :
    Except Fault Duplex := do
  return {
    now
    controlling := { connection := ← Connection.start .controlling controlling widths now }
    controlled := { connection := ← Connection.start .controlled controlled widths now } }

/-- An end that has not ended takes a turn. Its writes can fail only when the other end is gone. -/
def turn (role : Role) (occasion : Occasion) (fault : Option String) (d : Duplex) :
    Option Duplex :=
  if (d.side role).ending.isSome ∨ (fault.isSome ∧ (d.side role.other).ending.isNone) then none
  else
    ((d.side role).input? d.now occasion).map fun (input, inbox) =>
      let t := (d.side role).connection.step ⟨d.now, fault⟩ input
      (d.modify role (End.conclude input inbox t)).modify role.other fun e =>
        { e with inbound := e.inbound.put t.octets }

/-- What an action makes of the two ends, if it is possible. -/
def act (action : Action) (d : Duplex) : Option Duplex :=
  match action with
  | .turn role occasion fault => d.turn role occasion fault
  | .carry role count =>
    some (d.modify role fun e => { e with inbound := e.inbound.carry count })
  | .hangUp role =>
    if (d.side role.other).ending.isSome ∧ (d.side role).inbound.flight = [] then
      some (d.modify role fun e => { e with inbound := e.inbound.hangUp })
    else none
  | .elapse duration => some { d with now := d.now + duration }

/-- What actions one after the other make of the two ends, if each is possible. -/
def run : List Action → Duplex → Option Duplex
  | [], d => some d
  | action :: actions, d => (d.act action).bind (run actions)

/-- The ASDU that an action asks to send. -/
def Action.asdu? : Action → Option Asdu
  | turn _ (.command (.send asdu _)) _ => some asdu
  | _ => none

/-- A read command for one object. -/
def reading (address : Nat) : Asdu where
  header := { type := .readCommand, cause := .request, commonAddress := 1 }
  objects := [⟨address, [[]]⟩]

/-- The controlling end sends a receipt while it waits for the confirmation that data transfer
begins, and the number of the receipt is one that the controlled end, which may keep `k` frames
outstanding, can take for a number of its new period. -/
def Stale (k : Nat) (d : Duplex) : Action → Prop
  | .turn .controlling (.timer .receipt) _ =>
    d.controlling.connection.state = .startPending ∧
      0 < d.controlling.connection.receive.nextNumber ∧
      d.controlling.connection.receive.nextNumber ≤ k
  | _ => False

/-- No action of a run is stale. -/
def Fresh (k : Nat) : List Action → Duplex → Prop
  | [], _ => True
  | action :: actions, d =>
    ¬d.Stale k action ∧ ∀ d', d.act action = some d' → Fresh k actions d'

instance (k : Nat) (d : Duplex) (action : Action) : Decidable (d.Stale k action) := by
  unfold Stale
  split <;> infer_instance

instance decidableFresh (k : Nat) : ∀ actions d, Decidable (Fresh k actions d)
  | [], _ => isTrue trivial
  | action :: actions, d =>
    if hstale : d.Stale k action then isFalse fun h => h.1 hstale
    else
      match hact : d.act action with
      | none => isTrue ⟨hstale, by simp [hact]⟩
      | some d' =>
        have := decidableFresh k actions d'
        decidable_of_iff (Fresh k actions d') (by simp [Fresh, hstale, hact])

end Duplex

end Telecontrol
