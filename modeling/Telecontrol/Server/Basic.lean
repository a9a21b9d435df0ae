import Telecontrol.Event

/-!
# State of a server

A server admits network connections up to a limit and gives each of them a number. Three kinds of
activity run side by side and share the registry of open connections: the acceptor takes connections
in, a forwarder for each connection passes its events on to the application, and a shutdown, once it
is requested, tells the registered connections to close.
-/

namespace Telecontrol

structure ServerParameters where
  /-- Connections that may be open at the same time. -/
  limit : Nat := 10
  apci : ApciParameters := {}
  widths : FieldWidths := .network
deriving DecidableEq, Repr

def ServerParameters.validate (p : ServerParameters) : Except Fault Unit := do
  p.apci.validate
  if p.limit = 0 then throw (.config .connectionLimitZero)

/-- What a server reports to its application. -/
inductive Notice
  | accepted (id : Nat)
  | rejected
  | connection (id : Nat) (event : Event)
deriving DecidableEq, Repr

/-- The number of the connection that a notice is about. A connection that is turned away has none,
and zero is nobody's number. -/
def Notice.id : Notice → Nat
  | accepted id | connection id _ => id
  | rejected => 0

namespace Server

/-- A connection by its number, and how the server reaches it. -/
structure Entry (κ : Type) where
  id : Nat
  handle : κ
deriving DecidableEq, Repr

/-- Where the forwarder of a connection is with an event. Before it passes on the last event of a
connection it removes the connection from the registry. -/
inductive Forwarding
  | idle
  | releasing (event : Event)
  | sending (event : Event)
deriving DecidableEq, Repr

/-- A connection that was admitted. -/
structure Member (κ : Type) extends Entry κ where
  /-- The application knows of the connection, and the forwarder runs. -/
  announced : Bool := false
  /-- Events that the forwarder has not taken over. -/
  queue : List Event := []
  forwarding : Forwarding := .idle
  ended : Bool := false
  /-- The connection was told to close. -/
  told : Bool := false
deriving DecidableEq, Repr

/-- How far the acceptor is with a connection that it admits. -/
inductive Acceptor (κ : Type)
  | waiting
  | registering (entry : Entry κ)
  | announcing (id : Nat)
  | stopped
deriving DecidableEq, Repr

/-- How far a shutdown has come. It is over when nobody is left to be told. -/
inductive Shutdown (κ : Type)
  | absent
  | requested
  | closing (entries : List (Entry κ))
deriving DecidableEq, Repr

end Server

structure Server (κ : Type) where
  parameters : ServerParameters
  /-- The number of the next connection. Numbers have no bound: that those of 64 bits would start
  again from zero, after as many connections, is left out. -/
  nextId : Nat := 1
  registry : List (Server.Entry κ) := []
  members : List (Server.Member κ) := []
  acceptor : Server.Acceptor κ := .waiting
  shutdown : Server.Shutdown κ := .absent
  notices : List Notice := []
deriving DecidableEq, Repr

namespace Server

variable {κ : Type}

/-- A server that listens. -/
def listen (parameters : ServerParameters) : Except Fault (Server κ) := do
  parameters.validate
  return { parameters }

def hasRoom (s : Server κ) : Bool := s.registry.length < s.parameters.limit

def entry? (id : Nat) (s : Server κ) : Option (Entry κ) := s.registry.find? (·.id == id)

def member? (id : Nat) (s : Server κ) : Option (Member κ) := s.members.find? (·.id == id)

def setMember (m : Member κ) (s : Server κ) : Server κ :=
  { s with members := s.members.map fun other => if other.id = m.id then m else other }

def notify (notice : Notice) (s : Server κ) : Server κ :=
  { s with notices := s.notices ++ [notice] }

/-- A shutdown was requested. -/
def isStopping (s : Server κ) : Bool :=
  match s.shutdown with
  | .absent => false
  | _ => true

end Server

end Telecontrol
