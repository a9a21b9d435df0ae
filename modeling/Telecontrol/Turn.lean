import Telecontrol.Event

/-!
# Turns of a station

A station is a state and a function that takes one turn for each thing that happens to it: a frame
arrives, a request is handed over, a timer expires. A turn leaves a new state, puts something out,
and may end the station; nothing of a turn takes place behind its end. Requests are known by
numbers, and each is answered once.
-/

namespace Telecontrol

/-- The time, and what goes wrong when a station writes to its line. That a clock comes to the end of
its range is left out: times have no bound. -/
structure Moment where
  now : Nat
  writeFault : Option String
deriving DecidableEq, Repr

/-- The octets that reach the line: none if the frame cannot be encoded or the line fails. -/
def Moment.transmit (m : Moment) (encoded : Except Fault Octets) : Except Fault Octets := do
  let octets ← encoded
  match m.writeFault with
  | some text => throw (.io text)
  | none => return octets

/-- Answer to a request. -/
inductive Answer
  | done
  | refused (fault : Fault)
  | linkStates (states : List (Nat × LinkState))
deriving DecidableEq, Repr

/-- What a station puts out: frames on the line, events, and answers to requests. -/
inductive Output (φ : Type)
  | wrote (frame : φ) (octets : Octets)
  | reported (event : Event)
  | answered (request : Nat) (answer : Answer)
deriving DecidableEq, Repr

/-- The same output without the frames that the octets stand for. -/
def Output.bare {φ : Type} : Output φ → Output Unit
  | wrote _ octets => .wrote () octets
  | reported event => .reported event
  | answered request answer => .answered request answer

/-- What one turn leaves, puts out and, if it ends the station, gives as the reason. -/
structure Turn (σ φ : Type) where
  state : σ
  output : List (Output φ)
  ending : Option CloseReason
deriving DecidableEq, Repr

namespace Turn

variable {σ φ : Type}

/-- Nothing more happens. -/
def done (s : σ) : Turn σ φ := ⟨s, [], none⟩

def fail (reason : CloseReason) (s : σ) : Turn σ φ := ⟨s, [], some reason⟩

def report (event : Event) (s : σ) : Turn σ φ := ⟨s, [.reported event], none⟩

def answer (request : Nat) (answer : Answer) (s : σ) : Turn σ φ :=
  ⟨s, [.answered request answer], none⟩

/-- Writes a frame. A frame that does not reach the line ends the station. -/
def write (m : Moment) (frame : φ) (encoded : Except Fault Octets) (s : σ) : Turn σ φ :=
  match m.transmit encoded with
  | .ok octets => ⟨s, [.wrote frame octets], none⟩
  | .error fault => fail (.ofFault fault) s

/-- Goes on with the state that a turn leaves, unless the turn has ended the station. -/
def andThen (t : Turn σ φ) (next : σ → Turn σ φ) : Turn σ φ :=
  match t.ending with
  | some _ => t
  | none =>
    let u := next t.state
    ⟨u.state, t.output ++ u.output, u.ending⟩

@[simp] theorem done_andThen (s : σ) (next : σ → Turn σ φ) :
    (done s : Turn σ φ).andThen next = next s := by
  simp [andThen, done]

end Turn

end Telecontrol
