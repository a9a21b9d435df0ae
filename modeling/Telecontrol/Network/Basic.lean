import Telecontrol.Line.Session
import Telecontrol.Server.Action

/-!
# Networks of a server and its clients

Every connection has two terminals of a session whose terminals are paired: an even terminal where
the client has its station and the odd terminal after it for the server. Terminals are never reused,
so that a client can hear the last events of a connection that it has let go.
-/

namespace Telecontrol

/-- How an attempt to reach a server comes out. -/
inductive Route
  | direct | refused | unreachable
deriving DecidableEq, Repr

def Route.attempt : Route → Except Fault Unit
  | direct => .ok ()
  | refused => .error (.io "Connection refused (os error 111)")
  | unreachable => .error (.io "Network is unreachable (os error 101)")

/-- A client has at most one connection at a time. -/
structure Client where
  route : Route
  apci : ApciParameters := {}
  widths : FieldWidths := .network
  /-- Terminal of the connection that the client has. -/
  connection : Option Nat := none
  /-- Terminal of the connection whose events the application of the client hears. -/
  heard : Option Nat := none
deriving DecidableEq, Repr

structure Network where
  session : Line.Session
  /-- Reaches its connections by their terminals. -/
  server : Server Nat
  clients : List Client
  /-- How many requests were made of stations. -/
  requests : Nat := 0
deriving DecidableEq, Repr

namespace Network

/-- A server that listens, and clients without connections. -/
def start (parameters : ServerParameters) (clients : List Client) : Except Fault Network := do
  let server ← Server.listen parameters
  return { session := .start .paired [], server, clients }

def terminal? (n : Network) (index : Nat) : Option Line.Terminal := n.session.terminals[index]?

/-- State of the connection at a terminal. -/
def transferState (n : Network) (index : Nat) : TransferState :=
  match (n.terminal? index).bind Line.Terminal.station with
  | some (.connection c _) => c.state
  | _ => .disconnected

def clientState (n : Network) (c : Client) : TransferState :=
  match c.connection with
  | some index => n.transferState index
  | none => .disconnected

/-- The terminal of a connection that the client can still use. -/
def usableTerminal? (n : Network) (c : Client) : Option Nat :=
  c.connection.filter fun index => (n.terminal? index).any Line.Terminal.running

/-- Events that the application of a client hears. -/
def heardEvents (n : Network) (c : Client) : List Event :=
  match c.heard.bind n.terminal? with
  | some terminal => terminal.record.events.filterMap Prod.snd
  | none => []

def setClient (n : Network) (index : Nat) (f : Client → Client) : Network :=
  { n with clients := n.clients.modify index f }

end Network

end Telecontrol
