import Telecontrol.Parameters

/-!
# Sliding windows

The sender keeps, for every I-frame that is not acknowledged yet, the time at which it was sent, and
never more than `k` of them. The receiver knows the number it expects next and counts the frames
that it has not acknowledged. Sequence numbers count modulo 32768.
-/

namespace Telecontrol

namespace Sequence

def next (n : Nat) : Nat := (n + 1) % sequenceModulus

/-- How far `target` lies ahead of `start`. -/
def distance (start target : Nat) : Nat :=
  (target + (sequenceModulus - start % sequenceModulus)) % sequenceModulus

end Sequence

/-- Sent frames that are not acknowledged, oldest first, each with the time it was sent. -/
structure SendWindow where
  k : Nat
  nextNumber : Nat := 0
  sent : Array Nat := #[]
deriving DecidableEq, Repr

namespace SendWindow

def unacked (w : SendWindow) : Nat := w.sent.size

def isFull (w : SendWindow) : Bool := w.k ≤ w.unacked

/-- Takes the number of a frame sent at `now`. -/
def reserve (w : SendWindow) (now : Nat) : Except Fault (Nat × SendWindow) :=
  if w.isFull then .error (.tooManyUnconfirmed w.k)
  else
    .ok (w.nextNumber,
      { w with nextNumber := Sequence.next w.nextNumber, sent := w.sent.push now })

/-- Applies an acknowledgment of all frames below `number` and says how many frames it newly
confirms. One that confirms frames which were never sent is not applied. -/
def acknowledge (w : SendWindow) (number : Nat) : Option (Nat × SendWindow) :=
  let oldest := Sequence.distance w.unacked w.nextNumber
  let acked := Sequence.distance oldest number
  if w.unacked < acked then none
  else some (acked, { w with sent := w.sent.extract acked w.sent.size })

/-- When the oldest frame must have been acknowledged. -/
def deadline (w : SendWindow) (t1 : Nat) : Option Nat := w.sent[0]?.map (· + t1)

def reset (w : SendWindow) : SendWindow := { w with nextNumber := 0, sent := #[] }

end SendWindow

/-- The next number expected, and how many received frames are not acknowledged. That this count
could exceed 16 bits is left out; a connection acknowledges after `w` frames. -/
structure ReceiveWindow where
  w : Nat
  nextNumber : Nat := 0
  unacked : Nat := 0
deriving DecidableEq, Repr

namespace ReceiveWindow

/-- Accepts the frame with the expected number, and says whether an acknowledgment is due. -/
def accept (r : ReceiveWindow) (number : Nat) : Except Fault (Bool × ReceiveWindow) :=
  if number ≠ r.nextNumber then .error (.protocol (.sendSequence number r.nextNumber))
  else
    let r := { r with nextNumber := Sequence.next r.nextNumber, unacked := r.unacked + 1 }
    .ok (r.w ≤ r.unacked, r)

/-- All frames received so far count as acknowledged; the number to report is `nextNumber`. -/
def acknowledgeAll (r : ReceiveWindow) : ReceiveWindow := { r with unacked := 0 }

def reset (r : ReceiveWindow) : ReceiveWindow := { r with nextNumber := 0, unacked := 0 }

end ReceiveWindow

end Telecontrol
