import Telecontrol.Apci.Apdu
import Telecontrol.Apci.Window
import Telecontrol.Turn

/-!
# State of a network connection

One end of a connection: how far data transfer has come, both windows, a handshake that waits for
its confirmation, and the times at which something has to be done if nothing happens before.
-/

namespace Telecontrol

/-- An activation that waits for its confirmation, on behalf of a request. -/
structure Connection.Handshake where
  awaiting : UFunction
  deadline : Nat
  request : Nat
deriving DecidableEq, Repr

structure Connection where
  role : Role
  widths : FieldWidths
  apci : ApciParameters
  state : TransferState
  send : SendWindow
  receive : ReceiveWindow
  handshake : Option Connection.Handshake
  /-- When received frames have to be acknowledged. -/
  receiptDue : Option Nat
  /-- When silence calls for a test frame. -/
  testDue : Option Nat
  /-- When the answer to a test frame is overdue. -/
  testDeadline : Option Nat
deriving DecidableEq, Repr

namespace Connection

/-- A fresh connection over an established stream. -/
def start (role : Role) (apci : ApciParameters) (widths : FieldWidths) (now : Nat) :
    Except Fault Connection := do
  apci.validate
  return { role, widths, apci, state := .connected, send := { k := apci.k },
           receive := { w := apci.w }, handshake := none, receiptDue := none,
           testDue := some (now + apci.t3), testDeadline := none }

/-- What an application asks of a connection. -/
inductive Command
  | startTransfer (request : Nat)
  | stopTransfer (request : Nat)
  | send (asdu : Asdu) (request : Nat)
  | close
deriving DecidableEq, Repr

/-- The request that a command is to answer. -/
def Command.request? : Command → Option Nat
  | startTransfer request | stopTransfer request | send _ request => some request
  | close => none

/-- The times that a connection watches. -/
inductive Timer
  | acknowledgment | confirmation | test | receipt | silence
deriving DecidableEq, Repr

def Timer.all : List Timer := [acknowledgment, confirmation, test, receipt, silence]

/-- When a timer expires, if it runs. -/
def deadline (c : Connection) : Timer → Option Nat
  | .acknowledgment => c.send.deadline c.apci.t1
  | .confirmation => c.handshake.map Handshake.deadline
  | .test => c.testDeadline
  | .receipt => c.receiptDue
  | .silence => c.testDue

end Connection

end Telecontrol
