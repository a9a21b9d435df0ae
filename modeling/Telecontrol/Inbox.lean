import Telecontrol.Stream

/-!
# Inboxes

The receiving side of a station: the octets that have arrived and are not read yet, and whether the
stream has ended behind them. A receiver of whole frames takes a stream that ends inside a frame for
a failure; a receiver of octets lets the incomplete frame go.
-/

namespace Telecontrol

/-- How a stream stops: at its end, or by a failure. -/
inductive StreamEnd
  | finished
  | failed (text : String)
deriving DecidableEq, Repr

/-- Octets that wait to be read, and the end of the stream behind them. -/
structure Inbox where
  waiting : Octets := []
  ending : Option StreamEnd := none
deriving DecidableEq, Repr

/-- What a station finds in its inbox. -/
inductive Arrival (α : Type)
  | frame (a : α)
  | fault (f : Fault)
  | ended
deriving DecidableEq, Repr

namespace Inbox

variable {α : Type}

def add (b : Inbox) (octets : Octets) : Inbox := { b with waiting := b.waiting ++ octets }

def stop (b : Inbox) (ending : StreamEnd) : Inbox := { b with ending := b.ending.or (some ending) }

/-- The next frame or malformed piece, if it has arrived. -/
def takeFrame (reader : FrameReader α) (b : Inbox) : Option (Except Fault α × Inbox) :=
  (reader.next b.waiting).map fun (result, rest) => (result, { b with waiting := rest })

/-- How the stream ends for a receiver of octets. -/
def takeEnd (b : Inbox) : Option (Arrival α) :=
  b.ending.map fun
    | .finished => .ended
    | .failed text => .fault (.io text)

/-- How the stream ends for a receiver of whole frames. -/
def takeFrameEnd (b : Inbox) : Option (Arrival α) :=
  match b.ending with
  | some .finished =>
    some (if b.waiting.isEmpty then .ended else .fault (.io "bytes remaining on stream"))
  | _ => b.takeEnd

/-- The next frame, malformed piece or end of the stream, for a receiver of whole frames. -/
def take (reader : FrameReader α) (b : Inbox) : Option (Arrival α × Inbox) :=
  match b.takeFrame reader with
  | some (.ok a, rest) => some (.frame a, rest)
  | some (.error f, rest) => some (.fault f, rest)
  | none => b.takeFrameEnd.map (·, b)

end Inbox

end Telecontrol
