import Telecontrol.Octets

/-!
# Link frames of format class FT 1.2

The link layer of a serial line knows frames of fixed length, frames of variable length that carry
an ASDU, and two single characters. The control field says whether a frame comes from the primary
station, and then numbers it with the frame count bit, or from a secondary station, and then tells
whether class 1 data is waiting.
-/

namespace Telecontrol

/-- Functions of frames sent by the primary station. -/
inductive PrimaryFunction
  | resetRemoteLink | resetUserProcess | testFunctionLink | userDataConfirmed | userDataNoReply
  | requestAccessDemand | requestLinkStatus | requestClass1 | requestClass2
deriving DecidableEq, Repr

namespace PrimaryFunction

def all : List PrimaryFunction :=
  [resetRemoteLink, resetUserProcess, testFunctionLink, userDataConfirmed, userDataNoReply,
    requestAccessDemand, requestLinkStatus, requestClass1, requestClass2]

def code : PrimaryFunction → UInt8
  | resetRemoteLink => 0
  | resetUserProcess => 1
  | testFunctionLink => 2
  | userDataConfirmed => 3
  | userDataNoReply => 4
  | requestAccessDemand => 8
  | requestLinkStatus => 9
  | requestClass1 => 10
  | requestClass2 => 11

def ofCode? (code : UInt8) : Option PrimaryFunction := all.find? fun f => f.code == code

theorem ofCode?_code (f : PrimaryFunction) : ofCode? f.code = some f := by cases f <;> rfl

/-- Whether frames with this function are numbered by the frame count bit. -/
def isCounted : PrimaryFunction → Bool
  | testFunctionLink | userDataConfirmed | requestClass1 | requestClass2 => true
  | _ => false

def name : PrimaryFunction → String
  | resetRemoteLink => "ResetRemoteLink"
  | resetUserProcess => "ResetUserProcess"
  | testFunctionLink => "TestFunctionLink"
  | userDataConfirmed => "UserDataConfirmed"
  | userDataNoReply => "UserDataNoReply"
  | requestAccessDemand => "RequestAccessDemand"
  | requestLinkStatus => "RequestLinkStatus"
  | requestClass1 => "RequestClass1"
  | requestClass2 => "RequestClass2"

end PrimaryFunction

/-- Functions of frames sent by a secondary station. -/
inductive SecondaryFunction
  | ack | nack | respUserData | respNackNoData | statusOfLink | linkNotFunctioning
  | linkNotImplemented
deriving DecidableEq, Repr

namespace SecondaryFunction

def all : List SecondaryFunction :=
  [ack, nack, respUserData, respNackNoData, statusOfLink, linkNotFunctioning, linkNotImplemented]

def code : SecondaryFunction → UInt8
  | ack => 0
  | nack => 1
  | respUserData => 8
  | respNackNoData => 9
  | statusOfLink => 11
  | linkNotFunctioning => 14
  | linkNotImplemented => 15

def ofCode? (code : UInt8) : Option SecondaryFunction := all.find? fun f => f.code == code

theorem ofCode?_code (f : SecondaryFunction) : ofCode? f.code = some f := by cases f <;> rfl

def name : SecondaryFunction → String
  | ack => "Ack"
  | nack => "Nack"
  | respUserData => "RespUserData"
  | respNackNoData => "RespNackNoData"
  | statusOfLink => "StatusOfLink"
  | linkNotFunctioning => "LinkNotFunctioning"
  | linkNotImplemented => "LinkNotImplemented"

end SecondaryFunction

/-- Link control field: from the primary station with the frame count bit and its validity, or from
a secondary station with access demand and data flow control. -/
inductive ControlField
  | primary (function : PrimaryFunction) (fcb fcv : Bool)
  | secondary (function : SecondaryFunction) (acd dfc : Bool)
deriving DecidableEq, Repr

namespace ControlField

/-- The control field of a request. The frame count bit is sent only with functions that use it. -/
def request (function : PrimaryFunction) (fcb : Bool) : ControlField :=
  primary function (fcb && function.isCounted) function.isCounted

/-- The control field of a response. Data flow control is never asked for. -/
def response (function : SecondaryFunction) (acd : Bool) : ControlField :=
  secondary function acd false

def isPrimary : ControlField → Bool
  | primary .. => true
  | secondary .. => false

/-- Whether a secondary station has class 1 data waiting. -/
def accessDemand : ControlField → Bool
  | primary .. => false
  | secondary _ acd _ => acd

def toByte : ControlField → UInt8
  | primary function fcb fcv =>
    0x40 ||| (if fcb then 0x20 else 0) ||| (if fcv then 0x10 else 0) ||| function.code
  | secondary function acd dfc =>
    (if acd then 0x20 else 0) ||| (if dfc then 0x10 else 0) ||| function.code

def text : ControlField → String
  | primary function fcb fcv =>
    "PRM " ++ function.name ++ (if fcv then (if fcb then " FCB=1" else " FCB=0") else "")
  | secondary function acd dfc =>
    "SEC " ++ function.name ++ (if acd then " ACD" else "") ++ (if dfc then " DFC" else "")

end ControlField

/-- A frame on the serial line. -/
inductive LinkFrame
  | fixed (control : ControlField) (address : Nat)
  | userData (control : ControlField) (address : Nat) (asdu : Octets)
  | singleAck
  | singleNack
deriving DecidableEq, Repr

namespace LinkFrame

def control? : LinkFrame → Option ControlField
  | fixed control _ | userData control _ _ => some control
  | singleAck | singleNack => none

def address? : LinkFrame → Option Nat
  | fixed _ address | userData _ address _ => some address
  | singleAck | singleNack => none

/-- A request without user data. -/
def request (function : PrimaryFunction) (fcb : Bool) (address : Nat) : LinkFrame :=
  fixed (ControlField.request function fcb) address

/-- A response without user data. -/
def response (function : SecondaryFunction) (acd : Bool) (address : Nat) : LinkFrame :=
  fixed (ControlField.response function acd) address

/-- Positive acknowledgment, as a single character or as a fixed frame. -/
def isAck : LinkFrame → Bool
  | singleAck | fixed (.secondary .ack _ _) _ => true
  | _ => false

/-- Negative acknowledgment, as a single character or as a fixed frame. -/
def isNack : LinkFrame → Bool
  | singleNack | fixed (.secondary .nack _ _) _ => true
  | _ => false

def text : LinkFrame → String
  | fixed control address => s!"FIXED [{control.text}] A={address}"
  | userData control address asdu => s!"VAR [{control.text}] A={address} len={asdu.length}"
  | singleAck => "ACK(E5)"
  | singleNack => "NACK(A2)"

end LinkFrame

end Telecontrol
