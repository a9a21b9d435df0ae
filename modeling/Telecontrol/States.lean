/-!
# Station states

The states that a station shows to its application: how far data transfer over a network connection
has come, and what the primary station of a serial line knows about a secondary.
-/

namespace Telecontrol

/-- State of a network connection. `disconnected` is final. -/
inductive TransferState
  | disconnected | connected | startPending | active | stopping
deriving DecidableEq, Repr

def TransferState.name : TransferState → String
  | disconnected => "Disconnected"
  | connected => "Connected"
  | startPending => "StartPending"
  | active => "Active"
  | stopping => "Stopping"

/-- Which end of a network connection a station is: the controlling station starts and stops data
transfer, the controlled station confirms. -/
inductive Role
  | controlling | controlled
deriving DecidableEq, Repr

/-- What the primary station knows about a secondary: nothing, that it answers, or that its link is
reset and data can be exchanged. -/
inductive LinkState
  | disconnected | statusKnown | active
deriving DecidableEq, Repr

def LinkState.text : LinkState → String
  | disconnected => "disconnected"
  | statusKnown => "link status known"
  | active => "link active"

end Telecontrol
