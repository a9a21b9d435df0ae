import Telecontrol.Fault

/-!
# Frames out of a stream

Octets arrive in pieces that have nothing to do with frames. A `FrameReader` takes one frame, or one
piece of malformed input, from the front of the octets that have arrived; when it does, what is left
is shorter, so that reading until more is wanted comes to an end. `feed` is what a receiver does
with each piece that arrives, and `receive` what it does with all of them.
-/

namespace Telecontrol

/-- What a reader finds at the front of the octets: a frame or a fault, and the octets behind it.
Nothing is found when more octets are wanted. -/
abbrev Found (α : Type) := Option (Except Fault α × Octets)

/-- A reader of frames. -/
structure FrameReader (α : Type) where
  next : Octets → Found α
  shorter : ∀ {octets rest : Octets} {result : Except Fault α},
    next octets = some (result, rest) → rest.length < octets.length

namespace FrameReader

variable {α : Type}

/-- Reads until more octets are wanted, and returns the octets that wait. -/
def drain (reader : FrameReader α) (octets : Octets) : List (Except Fault α) × Octets :=
  match _h : reader.next octets with
  | none => ([], octets)
  | some (result, rest) =>
    let (results, left) := reader.drain rest
    (result :: results, left)
termination_by octets.length
decreasing_by exact reader.shorter _h

/-- Takes in a piece behind the octets that wait. -/
def feed (reader : FrameReader α) (waiting piece : Octets) : List (Except Fault α) × Octets :=
  reader.drain (waiting ++ piece)

/-- Takes in pieces one after the other, and returns the octets that wait behind the last one. -/
def receive (reader : FrameReader α) (waiting : Octets) :
    List Octets → List (Except Fault α) × Octets
  | [] => ([], waiting)
  | piece :: pieces =>
    let (results, waiting) := reader.feed waiting piece
    let (others, left) := reader.receive waiting pieces
    (results ++ others, left)

end FrameReader

end Telecontrol
