/-!
# Control information of an APDU

An APDU is an I-frame, which carries user data and both sequence numbers, an S-frame, which carries
an acknowledgment only, or a U-frame, which carries one of six functions.
-/

namespace Telecontrol

/-- Functions of U-frames. -/
inductive UFunction
  | startDtAct | startDtCon | stopDtAct | stopDtCon | testFrAct | testFrCon
deriving DecidableEq, Repr

namespace UFunction

def all : List UFunction := [startDtAct, startDtCon, stopDtAct, stopDtCon, testFrAct, testFrCon]

/-- The first octet of the control field. -/
def controlByte : UFunction → UInt8
  | startDtAct => 0x07
  | startDtCon => 0x0B
  | stopDtAct => 0x13
  | stopDtCon => 0x23
  | testFrAct => 0x43
  | testFrCon => 0x83

def ofControlByte? (byte : UInt8) : Option UFunction := all.find? fun f => f.controlByte == byte

theorem ofControlByte?_controlByte (f : UFunction) : ofControlByte? f.controlByte = some f := by
  cases f <;> rfl

theorem controlByte_of_ofControlByte? {byte : UInt8} {f : UFunction}
    (h : ofControlByte? byte = some f) : f.controlByte = byte := by
  simpa using List.find?_some h

/-- The confirmation that answers an activation. -/
def confirmation? : UFunction → Option UFunction
  | startDtAct => some startDtCon
  | stopDtAct => some stopDtCon
  | testFrAct => some testFrCon
  | _ => none

def text : UFunction → String
  | startDtAct => "STARTDT act"
  | startDtCon => "STARTDT con"
  | stopDtAct => "STOPDT act"
  | stopDtCon => "STOPDT con"
  | testFrAct => "TESTFR act"
  | testFrCon => "TESTFR con"

end UFunction

/-- Control information. Sequence numbers have 15 bits on the wire. -/
inductive Apci
  | iFrame (send receive : Nat)
  | sFrame (receive : Nat)
  | uFrame (function : UFunction)
deriving DecidableEq, Repr

namespace Apci

def isIFrame : Apci → Bool
  | iFrame .. => true
  | _ => false

/-- The acknowledgment that I- and S-frames carry. -/
def receive? : Apci → Option Nat
  | iFrame _ receive | sFrame receive => some receive
  | uFrame _ => none

def text : Apci → String
  | iFrame send receive => s!"I(S={send}, R={receive})"
  | sFrame receive => s!"S(R={receive})"
  | uFrame function => s!"U({function.text})"

end Apci

end Telecontrol
