import Telecontrol.Server.Basic

/-!
# Actions of a server

The activities of a server take turns in any order. An action is what one of them does without being
interrupted; it is possible only where that activity has come so far. The compound operations at the
end are what happens when an activity is left alone.
-/

namespace Telecontrol.Server

variable {κ : Type}

/-! ## The acceptor -/

/-- Takes in a connection that is waiting. It is turned away if there is no room for it. A shutdown
does not keep the acceptor from taking in what waits as well. -/
def accept (handle : κ) (s : Server κ) : Option (Server κ) :=
  match s.acceptor with
  | .waiting =>
    if s.hasRoom then
      let entry : Entry κ := ⟨s.nextId, handle⟩
      some { s with
        nextId := s.nextId + 1, members := s.members ++ [{ toEntry := entry }],
        acceptor := .registering entry }
    else some (s.notify .rejected)
  | _ => none

def register (s : Server κ) : Option (Server κ) :=
  match s.acceptor with
  | .registering entry =>
    some { s with registry := s.registry ++ [entry], acceptor := .announcing entry.id }
  | _ => none

/-- Reports the connection; from now on its events are forwarded. -/
def announce (s : Server κ) : Option (Server κ) :=
  match s.acceptor with
  | .announcing id => do
    let member ← s.member? id
    return { (s.setMember { member with announced := true }).notify (.accepted id) with
      acceptor := .waiting }
  | _ => none

def stop (s : Server κ) : Option (Server κ) :=
  match s.acceptor with
  | .waiting => if s.isStopping then some { s with acceptor := .stopped } else none
  | _ => none

/-! ## Connections and their forwarders -/

/-- A connection puts out an event. Nothing comes from a connection that has ended. -/
def emit (id : Nat) (event : Event) (s : Server κ) : Option (Server κ) := do
  let member ← s.member? id
  if member.ended then none
  let ended :=
    match event with
    | .lost _ => true
    | _ => false
  return s.setMember { member with queue := member.queue ++ [event], ended }

/-- The forwarder of a connection takes over the next event. -/
def take (id : Nat) (s : Server κ) : Option (Server κ) := do
  let member ← s.member? id
  match member.announced, member.forwarding, member.queue with
  | true, .idle, event :: queue =>
    let forwarding :=
      match event with
      | .lost _ => Forwarding.releasing event
      | _ => .sending event
    return s.setMember { member with queue, forwarding }
  | _, _, _ => none

/-- A connection that has ended is removed from the registry. -/
def release (id : Nat) (s : Server κ) : Option (Server κ) := do
  let member ← s.member? id
  match member.forwarding with
  | .releasing event =>
    return { s.setMember { member with forwarding := .sending event } with
      registry := s.registry.filter (·.id != id) }
  | _ => none

/-- The event is passed on to the application. -/
def forward (id : Nat) (s : Server κ) : Option (Server κ) := do
  let member ← s.member? id
  match member.forwarding with
  | .sending event =>
    return (s.setMember { member with forwarding := .idle }).notify (.connection id event)
  | _ => none

/-! ## Shutdown -/

/-- A shutdown that is over can be requested again. -/
def requestShutdown (s : Server κ) : Option (Server κ) :=
  match s.shutdown with
  | .absent | .closing [] => some { s with shutdown := .requested }
  | _ => none

/-- Takes all connections out of the registry. -/
def drain (s : Server κ) : Option (Server κ) :=
  match s.shutdown with
  | .requested => some { s with shutdown := .closing s.registry, registry := [] }
  | _ => none

/-- Tells the next of the connections that were taken out to close. -/
def tellNext (s : Server κ) : Option (Server κ) :=
  match s.shutdown with
  | .closing (entry :: rest) =>
    let members := s.members.map fun m => if m.id = entry.id then { m with told := true } else m
    some { s with shutdown := .closing rest, members }
  | _ => none

/-- What an activity of a server, or one of its connections, can do next. -/
inductive Action (κ : Type)
  | accept (handle : κ)
  | register
  | announce
  | stop
  | emit (id : Nat) (event : Event)
  | take (id : Nat)
  | release (id : Nat)
  | forward (id : Nat)
  | requestShutdown
  | drain
  | tellNext
deriving DecidableEq, Repr

/-- Carries out an action, if it is possible. -/
def act (action : Action κ) (s : Server κ) : Option (Server κ) :=
  match action with
  | .accept handle => s.accept handle
  | .register => s.register
  | .announce => s.announce
  | .stop => s.stop
  | .emit id event => s.emit id event
  | .take id => s.take id
  | .release id => s.release id
  | .forward id => s.forward id
  | .requestShutdown => s.requestShutdown
  | .drain => s.drain
  | .tellNext => s.tellNext

/-- Carries out the actions that are possible when it is their turn. -/
def actAll (actions : List (Action κ)) (s : Server κ) : Server κ :=
  actions.foldl (fun s action => (s.act action).getD s) s

/-- Takes in a connection, from first to last. -/
def enroll (handle : κ) (s : Server κ) : Server κ :=
  s.actAll [.accept handle, .register, .announce]

/-- An event of a connection finds its way to the application. -/
def deliver (id : Nat) (event : Event) (s : Server κ) : Server κ :=
  s.actAll [.emit id event, .take id, .release id, .forward id]

/-- Shuts down from first to last. -/
def shutDown (s : Server κ) : Server κ :=
  s.actAll
    ([.requestShutdown, .stop, .drain] ++ List.replicate s.registry.length .tellNext)

end Telecontrol.Server
