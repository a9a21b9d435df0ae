import Telecontrol.Asdu.Basic

/-!
# Events

What a station reports to its application. The report that the station has ended comes last.
-/

namespace Telecontrol

inductive Event
  | ready
  | asduReceived (asdu : Asdu)
  | transferStopped
  | linkStateChanged (address : Nat) (state : LinkState)
  | lost (reason : CloseReason)
deriving DecidableEq, Repr

namespace Event

/-- Hands out events up to the one that reports the end. The result is what was handed out, the
reason of the end if it was among it, and the events that remain. -/
def untilLost : List Event → List Event × Option CloseReason × List Event
  | [] => ([], none, [])
  | lost reason :: rest => ([lost reason], some reason, rest)
  | event :: rest =>
    let (seen, reason, left) := untilLost rest
    (event :: seen, reason, left)

end Event

end Telecontrol
