import Telecontrol.Network.Basic

/-!
# What happens on a network

An operation is carried out until nothing more happens at that time. After it the server has passed
on all events of its connections, and those that have ended are removed from its registry.
-/

namespace Telecontrol.Network

/-- What is done on a network. -/
inductive Operation
  | connect (client : Nat)
  | disconnect (client : Nat)
  /-- The application lets go of a client and takes another one with default parameters. -/
  | replace (client : Nat)
  | request (client : Nat) (request : Station.Request)
  /-- A request that cannot be made because its data is refused. -/
  | unmade (fault : Fault)
  | serverRequest (id : Nat) (request : Station.Request)
  | serverClose (id : Nat)
  | broadcast (asdu : Asdu)
  | shutDown
  | wait (duration : Nat)
  | observe
deriving DecidableEq, Repr

/-- How an operation came out. -/
inductive Reply
  | done
  | refused (fault : Fault)
  /-- The answer is still to come. -/
  | pending
  /-- The server has no connection of that number. -/
  | noConnection
  | closed
  | delivered (count : Nat)
  | shutDown
deriving DecidableEq, Repr

def Reply.ofResult : Except Fault Unit → Reply
  | .ok _ => done
  | .error fault => refused fault

def Reply.ofOutcome : Option Line.Outcome → Reply
  | some (.answered (.refused fault)) => refused fault
  | some (.answered _) => done
  | some .noHandle => noConnection
  | none => pending

/-- Does something at a terminal and lets all stations run. -/
def operate (index : Nat) (operation : Line.Operation) (n : Network) : Network :=
  { n with session := n.session.perform index n.requests operation, requests := n.requests + 1 }

/-- Makes a request at a terminal. -/
def ask (index : Nat) (operation : Line.Operation) (n : Network) : Reply × Network :=
  let asked := n.operate index operation
  let completion := asked.session.completed.find? (·.request == n.requests)
  (.ofOutcome (completion.map Line.Completion.outcome), asked)

/-! ## Clients -/

/-- The server takes in the connection that was made at a pair of terminals. A connection that is
turned away ends at once; nobody takes it in after a shutdown. -/
def takeIn (index : Nat) (n : Network) : Network :=
  if n.server.isStopping then n
  else if n.server.hasRoom then
    { n with server := n.server.enroll (index + 1) }.operate (index + 1) .open
  else
    { n with server := n.server.enroll (index + 1) }.operate index (.endStream .finished)

/-- Connects a client. Its connection is a new one with numbers that begin at zero. -/
def connect (client : Nat) (c : Client) (n : Network) : Reply × Network :=
  if n.clientState c ≠ .disconnected then
    (.refused (.connection .alreadyConnected), n)
  else
    match c.apci.validate >>= fun _ => c.route.attempt with
    | .error fault => (.refused fault, n)
    | .ok _ =>
      let index := n.session.terminals.length
      let ends : List Line.Terminal :=
        [{ setup := .connection .controlling c.apci c.widths },
          { setup := .connection .controlled n.server.parameters.apci
              n.server.parameters.widths }]
      let session := { n.session with terminals := n.session.terminals ++ ends }
      let n := { n with session }.setClient client fun c =>
        { c with connection := some index, heard := some index }
      (.done, (n.operate index .open).takeIn index)

/-- Stops data transfer if it is active, and closes the connection. -/
def disconnect (client : Nat) (c : Client) (n : Network) : Reply × Network :=
  match c.connection with
  | none => (.done, n)
  | some index =>
    let active := n.transferState index = .active
    let n := n.setClient client fun c => { c with connection := none }
    let n := if active then n.operate index (.request .stopTransfer) else n
    (.done, (n.operate index .close).operate index .drop)

/-- The events of the connection that was let go are still heard. -/
def replace (client : Nat) (c : Client) (n : Network) : Reply × Network :=
  let n := n.setClient client fun c => { route := c.route, heard := c.heard }
  match c.connection with
  | none => (.done, n)
  | some index => (.done, n.operate index .drop)

def requestOf (c : Client) (request : Station.Request) (n : Network) : Reply × Network :=
  match n.usableTerminal? c with
  | some index => n.ask index (.request request)
  | none => (.refused .notConnected, n)

/-! ## The server -/

def askMember (id : Nat) (operation : Line.Operation) (n : Network) : Reply × Network :=
  match n.server.entry? id with
  | some entry => n.ask entry.handle operation
  | none => (.noConnection, n)

/-- Sends data on every connection with active data transfer, and counts those that accept it. -/
def broadcast (asdu : Asdu) (n : Network) : Reply × Network :=
  let targets := n.server.registry.filter fun entry => n.transferState entry.handle = .active
  let (count, n) := targets.foldl (fun (count, n) entry =>
    let (reply, n) := ask entry.handle (.request (.send asdu)) n
    (if reply = .done then count + 1 else count, n)) (0, n)
  (.delivered count, n)

/-- Connections that were told to close do so. -/
def shutDown (n : Network) : Reply × Network :=
  let entries := n.server.registry
  let n := { n with server := n.server.shutDown }
  (.shutDown, entries.foldl (fun n entry => n.operate entry.handle .close) n)

/-- Takes the events of a connection from its terminal to the server. -/
def deliverFrom (m : Server.Member Nat) (n : Network) : Network :=
  match n.terminal? m.handle with
  | none => n
  | some terminal =>
    let events := terminal.record.events.filterMap Prod.snd
    { n with
      server := events.foldl (fun server event => server.deliver m.id event) n.server,
      session := n.session.modifyTerminal m.handle fun p => { p with record.events := [] } }

/-- The server passes on what its connections have reported. -/
def deliver (n : Network) : Network :=
  n.server.members.foldl (fun n m => n.deliverFrom m) n

/-! ## Operations -/

def begin (operation : Operation) (n : Network) : Reply × Network :=
  let onClient (client : Nat) (f : Client → Network → Reply × Network) : Reply × Network :=
    match n.clients[client]? with
    | some c => f c n
    | none => (.noConnection, n)
  match operation with
  | .connect client => onClient client (connect client)
  | .disconnect client => onClient client (disconnect client)
  | .replace client => onClient client (replace client)
  | .request client request => onClient client fun c => requestOf c request
  | .unmade fault => (.refused fault, n)
  | .serverRequest id request => askMember id (.request request) n
  | .serverClose id =>
    let (reply, n) := askMember id .close n
    (if reply = .noConnection then reply else .closed, n)
  | .broadcast asdu => broadcast asdu n
  | .shutDown => shutDown n
  | .wait duration => (.done, n.operate 0 (.wait duration))
  | .observe => (.done, n)

/-- Carries out an operation and passes on the events. -/
def perform (operation : Operation) (n : Network) : Reply × Network :=
  let (reply, n) := begin operation n
  (reply, n.deliver)

/-- Forgets what has been recorded and reported. -/
def clear (n : Network) : Network :=
  { n with session := n.session.clear, server := { n.server with notices := [] } }

end Telecontrol.Network
