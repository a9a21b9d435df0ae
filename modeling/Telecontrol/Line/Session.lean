import Telecontrol.Line.Terminal

/-!
# Sessions on a line

Stations at the terminals of a line, and a clock that moves only when it is told to. What one
station writes arrives at once where the wiring of the terminals takes it. After each operation the
stations run until none of them has anything to do; while the clock moves, every timer expires at
its time.
-/

namespace Telecontrol.Line

/-- How a request came out. -/
inductive Outcome
  | answered (answer : Answer)
  | noHandle
deriving DecidableEq, Repr

/-- A request that was completed, with the time. -/
structure Completion where
  request : Nat
  time : Nat
  outcome : Outcome
deriving DecidableEq, Repr

/-- Where octets go: nowhere, to all other terminals, or between each even terminal and the odd
terminal that follows it. -/
inductive Wiring
  | separate | shared | paired
deriving DecidableEq, Repr

namespace Wiring

/-- Whether what is written at one terminal arrives at another. -/
def carries (wiring : Wiring) (sender receiver : Nat) : Bool :=
  match wiring with
  | separate => false
  | shared => sender != receiver
  | paired => sender != receiver && sender / 2 == receiver / 2

/-- Whether the end of the stream at one terminal is noticed at another. A line that is shared by
more than two stations goes on without one of them. -/
def ends (wiring : Wiring) (terminals sender receiver : Nat) : Bool :=
  wiring.carries sender receiver && (wiring == paired || terminals == 2)

end Wiring

structure Session where
  now : Nat
  wiring : Wiring
  terminals : List Terminal
  /-- Answers that need no station. They are given when the stations run. -/
  certain : List (Nat × Answer)
  completed : List Completion
deriving DecidableEq, Repr

/-- What is done to a session. Requests of an application are known by the number of the
operation. -/
inductive Operation
  | open
  | receive (octets : Octets)
  | endStream (ending : StreamEnd)
  | breakWrites (text : String)
  | wait (duration : Nat)
  | observe
  | drop
  | lose (count : Nat)
  | garble (garbling : Garbling)
  | request (request : Station.Request)
  /-- A request that cannot be made because its data is refused. -/
  | unmade (fault : Fault)
  | close
deriving DecidableEq, Repr

namespace Session

def start (wiring : Wiring) (setups : List Setup) : Session :=
  ⟨0, wiring, setups.map ({ setup := · }), [], []⟩

def modifyTerminal (index : Nat) (f : Terminal → Terminal) (s : Session) : Session :=
  { s with terminals := s.terminals.modify index f }

def complete (request : Nat) (outcome : Outcome) (s : Session) : Session :=
  { s with completed := s.completed ++ [⟨request, s.now, outcome⟩] }

/-- Notes an answer to a request that does not reach a station. -/
def answerLater (request : Nat) (answer : Answer) (s : Session) : Session :=
  { s with certain := s.certain ++ [(request, answer)] }

/-- Lets something happen at the chosen terminals. -/
def modifyTerminals (chosen : Nat → Bool) (f : Terminal → Terminal) (s : Session) : Session :=
  { s with terminals := s.terminals.mapIdx fun i t => if chosen i then f t else t }

/-- Takes octets from a terminal to where they go. -/
def carry (index : Nat) (octets : Octets) (s : Session) : Session :=
  match s.terminals[index]? with
  | none => s
  | some t =>
    let (arriving, t) := (t.recordWrite s.now octets).transmission octets
    let s := s.modifyTerminal index fun _ => t
    match arriving with
    | some octets =>
      s.modifyTerminals (s.wiring.carries index) fun t => { t with inbox := t.inbox.add octets }
    | none => s

/-- A request of the station at a terminal is answered. The answer to the request that opens the
station decides whether the application gets hold of it and of the events so far. -/
def answered (index request : Nat) (answer : Answer) (s : Session) : Session :=
  let s := s.complete request (.answered answer)
  s.modifyTerminal index fun t =>
    if t.opening = some request then
      match answer with
      | .refused _ => t
      | _ =>
        { t.recordEvents s.now (t.early.map some) with
          opening := none, early := [], held := true }
    else { t with pending := t.pending.erase request }

/-- Puts into effect what the station at a terminal puts out. -/
def apply (index : Nat) : List (Output Unit) → Session → Session
  | [], s => s
  | output :: rest, s =>
    apply index rest <|
      match output with
      | .wrote _ octets => s.carry index octets
      | .reported event => s.modifyTerminal index fun t => t.report s.now event
      | .answered request answer => s.answered index request answer

/-- Ends the station at a terminal: its stream is shut, and those who wait for the end are told. -/
def finish (index : Nat) (reason : CloseReason) (s : Session) : Session :=
  match s.terminals[index]? with
  | none => s
  | some t =>
    match t.station with
    | none => s
    | some station =>
      let (station, output) := station.close reason
      let s := s.apply index output
      let s := s.modifyTerminal index fun t =>
        let t := if t.opening.isSome then t else t.recordEvents s.now [none]
        { t with station := some station, running := false, shut := true, closing := [] }
      let s := t.closing.foldl (fun s request => s.complete request (.answered .done)) s
      s.modifyTerminals (s.wiring.ends s.terminals.length index) fun t =>
        { t with inbox := t.inbox.stop .finished }

/-- One turn of the station at a terminal, if anything is ready for it. -/
def turn (index : Nat) (s : Session) : Option Session := do
  let t ← s.terminals[index]?
  if !t.running then none
  let station ← t.station
  let result ← station.turn ⟨s.now, t.writeFault⟩ t.abandoned t.inbox
  let s := s.modifyTerminal index fun t =>
    { t with station := some result.station, inbox := result.inbox }
  let s := s.apply index result.output
  match result.ending with
  | some reason => return s.finish index reason
  | none => return s

/-- Lets the stations take turns, each as long as anything is ready for it, until all have been
found with nothing to do. -/
def settleFrom : (turns : Nat) → (index quiet : Nat) → Session → Session
  | 0, _, _, s => s
  | turns + 1, index, quiet, s =>
    match s.turn index with
    | some s => settleFrom turns index 0 s
    | none =>
      if s.terminals.length ≤ quiet + 1 then s
      else settleFrom turns ((index + 1) % s.terminals.length) (quiet + 1) s

/-- No exchange of frames at one moment takes as many turns as this. -/
def maxTurns : Nat := 1000000

/-- Gives the answers that need no station and lets the stations run, first the one at a
terminal. -/
def settle (index : Nat) (s : Session) : Session :=
  let s := s.certain.foldl (fun s (request, answer) => s.complete request (.answered answer))
    { s with certain := [] }
  settleFrom maxTurns index 0 s

/-- When the next timer expires. -/
def deadline (s : Session) : Option Nat := (s.terminals.filterMap Terminal.deadline).min?

/-- Moves the clock to a time, and stops at each timer on the way. -/
def advance (now limit : Nat) (s : Session) : Session :=
  match s.deadline with
  | some time =>
    if _h : now < time ∧ time ≤ limit then
      advance time limit (settle 0 { s with now := time })
    else { s with now := limit }
  | none => { s with now := limit }
termination_by limit - now
decreasing_by omega

/-- Brings a station up, once. The primary station is open only when the links to its secondaries
are. -/
def bringUp (index number : Nat) (s : Session) : Session :=
  match (s.terminals[index]?).filter (·.station.isNone) with
  | none => s.complete number .noHandle
  | some t =>
    let started (r : Except Fault Station) : Session :=
      match r with
      | .error f => s.complete number (.answered (.refused f))
      | .ok station =>
        (s.modifyTerminal index fun t =>
          { t with station := some station, running := true, held := true }).complete number
            (.answered .done)
    match t.setup with
    | .unusable fault => s.complete number (.answered (.refused fault))
    | .connection role apci widths =>
      started ((Connection.start role apci widths s.now).map fun c => .connection c [])
    | .secondary address link widths =>
      started ((Secondary.start address link widths).map fun c => .secondary c [])
    | .primary addresses link widths =>
      match Primary.start ⟨s.now, t.writeFault⟩ addresses link widths number with
      | .error f => s.complete number (.answered (.refused f))
      | .ok turn =>
        let s := s.modifyTerminal index fun t =>
          { t with
            station := some (.primary turn.state []), running := true, opening := some number }
        let s := s.apply index (turn.output.map Output.bare)
        match turn.ending with
        | some reason => s.finish index reason
        | none => s

/-- Hands a request over to the station at a terminal. -/
def post (index number : Nat) (request : Station.Request) (s : Session) : Session :=
  match (s.terminals[index]?).filter Terminal.held with
  | none => s.complete number .noHandle
  | some t =>
    match t.station.bind (Station.post number request) with
    | none => s.complete number .noHandle
    | some (.error f) => s.answerLater number (.refused f)
    | some (.ok station) =>
      if t.running then
        s.modifyTerminal index fun t =>
          { t with station := some station, pending := number :: t.pending }
      else s.answerLater number (.refused .notConnected)

/-- Answers a request that cannot be made. -/
def refuse (index number : Nat) (fault : Fault) (s : Session) : Session :=
  match (s.terminals[index]?).filter Terminal.held with
  | none => s.complete number .noHandle
  | some _ => s.answerLater number (.refused fault)

/-- Asks the station at a terminal to end. -/
def postClose (index number : Nat) (s : Session) : Session :=
  match (s.terminals[index]?).filter Terminal.held with
  | none => s.complete number .noHandle
  | some t =>
    if t.running then
      s.modifyTerminal index fun t =>
        { t with
          station := t.station.map Station.postClose, closing := t.closing ++ [number] }
    else s.answerLater number .done

/-- Carries out an operation at a terminal, before the stations run. -/
def begin (index number : Nat) (operation : Operation) (s : Session) : Session :=
  match operation with
  | .open => s.bringUp index number
  | .receive octets => s.modifyTerminal index fun t => { t with inbox := t.inbox.add octets }
  | .endStream ending => s.modifyTerminal index fun t => { t with inbox := t.inbox.stop ending }
  | .breakWrites text => s.modifyTerminal index fun t => { t with writeFault := some text }
  | .drop => s.modifyTerminal index fun t => { t with held := false }
  | .lose count => s.modifyTerminal index fun t => { t with losses := count }
  | .garble garbling => s.modifyTerminal index fun t => { t with garbling := some garbling }
  | .request request => s.post index number request
  | .unmade fault => s.refuse index number fault
  | .close => s.postClose index number
  | .wait _ | .observe => s

/-- Carries out an operation and lets the stations run. -/
def perform (index number : Nat) (operation : Operation) (s : Session) : Session :=
  let s := (s.begin index number operation).settle index
  match operation with
  | .wait duration => s.advance s.now (s.now + duration)
  | _ => s

/-- Forgets what has been recorded. -/
def clear (s : Session) : Session :=
  { s with completed := [], terminals := s.terminals.map ({ · with record := {} }) }

end Session

end Telecontrol.Line
