/-!
# Cause of transmission

The cause occupies six bits of its octet; the two upper bits are flags of the ASDU header. Answers
to interrogations and counter requests name the group that was asked for.
-/

namespace Telecontrol

/-- Cause of transmission. Groups count from 0, so `interrogatedByGroup 0` answers group 1. -/
inductive Cause
  | periodic | background | spontaneous | initialized | request
  | activation | activationConfirm | deactivation | deactivationConfirm | activationTermination
  | returnRemoteCommand | returnLocalCommand | fileTransfer
  | interrogatedByStation
  | interrogatedByGroup (group : Fin 16)
  | requestedByGeneralCounter
  | requestedByGroupCounter (group : Fin 4)
  | unknownTypeId | unknownCause | unknownCommonAddress | unknownIoa
deriving DecidableEq, Repr

namespace Cause

def codeNat : Cause → Nat
  | periodic => 1
  | background => 2
  | spontaneous => 3
  | initialized => 4
  | request => 5
  | activation => 6
  | activationConfirm => 7
  | deactivation => 8
  | deactivationConfirm => 9
  | activationTermination => 10
  | returnRemoteCommand => 11
  | returnLocalCommand => 12
  | fileTransfer => 13
  | interrogatedByStation => 20
  | interrogatedByGroup group => 21 + group.val
  | requestedByGeneralCounter => 37
  | requestedByGroupCounter group => 38 + group.val
  | unknownTypeId => 44
  | unknownCause => 45
  | unknownCommonAddress => 46
  | unknownIoa => 47

/-- The six-bit code. -/
def code (c : Cause) : UInt8 := UInt8.ofNat c.codeNat

def all : List Cause :=
  [periodic, background, spontaneous, initialized, request, activation, activationConfirm,
    deactivation, deactivationConfirm, activationTermination, returnRemoteCommand,
    returnLocalCommand, fileTransfer, interrogatedByStation]
    ++ (List.finRange 16).map interrogatedByGroup
    ++ requestedByGeneralCounter :: (List.finRange 4).map requestedByGroupCounter
    ++ [unknownTypeId, unknownCause, unknownCommonAddress, unknownIoa]

/-- The cause with a code of six bits. -/
def ofCode? (code : UInt8) : Option Cause := all.find? fun c => c.code == code

theorem code_of_ofCode? {code : UInt8} {c : Cause} (h : ofCode? code = some c) :
    c.code = code := by
  simpa using List.find?_some h

theorem ofCode?_code (c : Cause) : ofCode? c.code = some c := by
  cases c with
  | interrogatedByGroup group => revert group; decide
  | requestedByGroupCounter group => revert group; decide
  | _ => decide

def isPositive : Cause → Bool
  | activationConfirm | deactivationConfirm | activationTermination => true
  | _ => false

/-- Answers to requests that were not recognised. -/
def isUnknownReply : Cause → Bool
  | unknownTypeId | unknownCause | unknownCommonAddress | unknownIoa => true
  | _ => false

def isInterrogationResponse : Cause → Bool
  | interrogatedByStation | interrogatedByGroup _ => true
  | _ => false

def isCounterResponse : Cause → Bool
  | requestedByGeneralCounter | requestedByGroupCounter _ => true
  | _ => false

/-- Cyclic data, which has low priority on an unbalanced line. -/
def isCyclic : Cause → Bool
  | periodic | background => true
  | _ => false

def text : Cause → String
  | periodic => "PERIODIC"
  | background => "BACKGROUND_SCAN"
  | spontaneous => "SPONTANEOUS"
  | initialized => "INITIALIZED"
  | request => "REQUEST"
  | activation => "ACTIVATION"
  | activationConfirm => "ACTIVATION_CON"
  | deactivation => "DEACTIVATION"
  | deactivationConfirm => "DEACTIVATION_CON"
  | activationTermination => "ACTIVATION_TERMINATION"
  | returnRemoteCommand => "RETURN_INFO_REMOTE"
  | returnLocalCommand => "RETURN_INFO_LOCAL"
  | fileTransfer => "FILE_TRANSFER"
  | interrogatedByStation => "INTERROGATED_BY_STATION"
  | interrogatedByGroup group => s!"INTERROGATED_BY_GROUP_{group.val + 1}"
  | requestedByGeneralCounter => "REQUESTED_BY_GENERAL_COUNTER"
  | requestedByGroupCounter group => s!"REQUESTED_BY_GROUP_{group.val + 1}_COUNTER"
  | unknownTypeId => "UNKNOWN_TYPE_ID"
  | unknownCause => "UNKNOWN_CAUSE_OF_TRANSMISSION"
  | unknownCommonAddress => "UNKNOWN_COMMON_ADDRESS"
  | unknownIoa => "UNKNOWN_INFORMATION_OBJECT_ADDRESS"

end Cause

end Telecontrol
