import Telecontrol.Element.Kind

/-!
# Type identification

The type identification of an ASDU fixes the row layout: the kinds of the elements that follow every
information object address. `TypeId.profile` is the one table of codes, standard names and layouts;
everything else about a type is read off it. File transfer has no entry.
-/

namespace Telecontrol

/-- Type identification of an ASDU. -/
inductive TypeId
  | singlePoint | singlePointTime24 | doublePoint | doublePointTime24
  | stepPosition | stepPositionTime24 | bitstring32 | bitstring32Time24
  | measuredNormalized | measuredNormalizedTime24 | measuredScaled | measuredScaledTime24
  | measuredFloat | measuredFloatTime24 | integratedTotals | integratedTotalsTime24
  | protectionEventTime24 | protectionStartTime24 | protectionOutputTime24
  | packedSinglePoint | measuredNormalizedNoQuality
  | singlePointTime56 | doublePointTime56 | stepPositionTime56 | bitstring32Time56
  | measuredNormalizedTime56 | measuredScaledTime56 | measuredFloatTime56
  | integratedTotalsTime56
  | protectionEventTime56 | protectionStartTime56 | protectionOutputTime56
  | singleCommand | doubleCommand | regulatingStep
  | setpointNormalized | setpointScaled | setpointFloat | bitstring32Command
  | singleCommandTime56 | doubleCommandTime56 | regulatingStepTime56
  | setpointNormalizedTime56 | setpointScaledTime56 | setpointFloatTime56
  | bitstring32CommandTime56
  | endOfInit
  | interrogationCommand | counterInterrogation | readCommand | clockSync | testCommand
  | resetProcess | delayAcquisition | testCommandTime56
  | parameterNormalized | parameterScaled | parameterFloat | parameterActivation
deriving DecidableEq, Repr

namespace TypeId

/-- What the standard lays down for a type. -/
structure Profile where
  code : UInt8
  standardName : String
  layout : List ElementKind

open ElementKind in
def profile : TypeId → Profile
  | singlePoint => ⟨1, "M_SP_NA_1", [siq]⟩
  | singlePointTime24 => ⟨2, "M_SP_TA_1", [siq, cp24]⟩
  | doublePoint => ⟨3, "M_DP_NA_1", [diq]⟩
  | doublePointTime24 => ⟨4, "M_DP_TA_1", [diq, cp24]⟩
  | stepPosition => ⟨5, "M_ST_NA_1", [vti, qds]⟩
  | stepPositionTime24 => ⟨6, "M_ST_TA_1", [vti, qds, cp24]⟩
  | bitstring32 => ⟨7, "M_BO_NA_1", [bsi, qds]⟩
  | bitstring32Time24 => ⟨8, "M_BO_TA_1", [bsi, qds, cp24]⟩
  | measuredNormalized => ⟨9, "M_ME_NA_1", [nva, qds]⟩
  | measuredNormalizedTime24 => ⟨10, "M_ME_TA_1", [nva, qds, cp24]⟩
  | measuredScaled => ⟨11, "M_ME_NB_1", [sva, qds]⟩
  | measuredScaledTime24 => ⟨12, "M_ME_TB_1", [sva, qds, cp24]⟩
  | measuredFloat => ⟨13, "M_ME_NC_1", [r32, qds]⟩
  | measuredFloatTime24 => ⟨14, "M_ME_TC_1", [r32, qds, cp24]⟩
  | integratedTotals => ⟨15, "M_IT_NA_1", [bcr]⟩
  | integratedTotalsTime24 => ⟨16, "M_IT_TA_1", [bcr, cp24]⟩
  | protectionEventTime24 => ⟨17, "M_EP_TA_1", [sep, cp16, cp24]⟩
  | protectionStartTime24 => ⟨18, "M_EP_TB_1", [spe, qdp, cp16, cp24]⟩
  | protectionOutputTime24 => ⟨19, "M_EP_TC_1", [oci, qdp, cp16, cp24]⟩
  | packedSinglePoint => ⟨20, "M_PS_NA_1", [scd, qds]⟩
  | measuredNormalizedNoQuality => ⟨21, "M_ME_ND_1", [nva]⟩
  | singlePointTime56 => ⟨30, "M_SP_TB_1", [siq, cp56]⟩
  | doublePointTime56 => ⟨31, "M_DP_TB_1", [diq, cp56]⟩
  | stepPositionTime56 => ⟨32, "M_ST_TB_1", [vti, qds, cp56]⟩
  | bitstring32Time56 => ⟨33, "M_BO_TB_1", [bsi, qds, cp56]⟩
  | measuredNormalizedTime56 => ⟨34, "M_ME_TD_1", [nva, qds, cp56]⟩
  | measuredScaledTime56 => ⟨35, "M_ME_TE_1", [sva, qds, cp56]⟩
  | measuredFloatTime56 => ⟨36, "M_ME_TF_1", [r32, qds, cp56]⟩
  | integratedTotalsTime56 => ⟨37, "M_IT_TB_1", [bcr, cp56]⟩
  | protectionEventTime56 => ⟨38, "M_EP_TD_1", [sep, cp16, cp56]⟩
  | protectionStartTime56 => ⟨39, "M_EP_TE_1", [spe, qdp, cp16, cp56]⟩
  | protectionOutputTime56 => ⟨40, "M_EP_TF_1", [oci, qdp, cp16, cp56]⟩
  | singleCommand => ⟨45, "C_SC_NA_1", [sco]⟩
  | doubleCommand => ⟨46, "C_DC_NA_1", [dco]⟩
  | regulatingStep => ⟨47, "C_RC_NA_1", [rco]⟩
  | setpointNormalized => ⟨48, "C_SE_NA_1", [nva, qos]⟩
  | setpointScaled => ⟨49, "C_SE_NB_1", [sva, qos]⟩
  | setpointFloat => ⟨50, "C_SE_NC_1", [r32, qos]⟩
  | bitstring32Command => ⟨51, "C_BO_NA_1", [bsi]⟩
  | singleCommandTime56 => ⟨58, "C_SC_TA_1", [sco, cp56]⟩
  | doubleCommandTime56 => ⟨59, "C_DC_TA_1", [dco, cp56]⟩
  | regulatingStepTime56 => ⟨60, "C_RC_TA_1", [rco, cp56]⟩
  | setpointNormalizedTime56 => ⟨61, "C_SE_TA_1", [nva, qos, cp56]⟩
  | setpointScaledTime56 => ⟨62, "C_SE_TB_1", [sva, qos, cp56]⟩
  | setpointFloatTime56 => ⟨63, "C_SE_TC_1", [r32, qos, cp56]⟩
  | bitstring32CommandTime56 => ⟨64, "C_BO_TA_1", [bsi, cp56]⟩
  | endOfInit => ⟨70, "M_EI_NA_1", [coi]⟩
  | interrogationCommand => ⟨100, "C_IC_NA_1", [qoi]⟩
  | counterInterrogation => ⟨101, "C_CI_NA_1", [qcc]⟩
  | readCommand => ⟨102, "C_RD_NA_1", []⟩
  | clockSync => ⟨103, "C_CS_NA_1", [cp56]⟩
  | testCommand => ⟨104, "C_TS_NA_1", [fbp]⟩
  | resetProcess => ⟨105, "C_RP_NA_1", [qrp]⟩
  | delayAcquisition => ⟨106, "C_CD_NA_1", [cp16]⟩
  | testCommandTime56 => ⟨107, "C_TS_TA_1", [tsc, cp56]⟩
  | parameterNormalized => ⟨110, "P_ME_NA_1", [nva, qpm]⟩
  | parameterScaled => ⟨111, "P_ME_NB_1", [sva, qpm]⟩
  | parameterFloat => ⟨112, "P_ME_NC_1", [r32, qpm]⟩
  | parameterActivation => ⟨113, "P_AC_NA_1", [qpa]⟩

def all : List TypeId :=
  [singlePoint, singlePointTime24, doublePoint, doublePointTime24, stepPosition,
    stepPositionTime24, bitstring32, bitstring32Time24, measuredNormalized,
    measuredNormalizedTime24, measuredScaled, measuredScaledTime24, measuredFloat,
    measuredFloatTime24, integratedTotals, integratedTotalsTime24, protectionEventTime24,
    protectionStartTime24, protectionOutputTime24, packedSinglePoint, measuredNormalizedNoQuality,
    singlePointTime56, doublePointTime56, stepPositionTime56, bitstring32Time56,
    measuredNormalizedTime56, measuredScaledTime56, measuredFloatTime56, integratedTotalsTime56,
    protectionEventTime56, protectionStartTime56, protectionOutputTime56, singleCommand,
    doubleCommand, regulatingStep, setpointNormalized, setpointScaled, setpointFloat,
    bitstring32Command, singleCommandTime56, doubleCommandTime56, regulatingStepTime56,
    setpointNormalizedTime56, setpointScaledTime56, setpointFloatTime56, bitstring32CommandTime56,
    endOfInit, interrogationCommand, counterInterrogation, readCommand, clockSync, testCommand,
    resetProcess, delayAcquisition, testCommandTime56, parameterNormalized, parameterScaled,
    parameterFloat, parameterActivation]

def code (t : TypeId) : UInt8 := t.profile.code

def standardName (t : TypeId) : String := t.profile.standardName

/-- The element kinds of one row, in wire order. -/
def layout (t : TypeId) : List ElementKind := t.profile.layout

def rowWidth (t : TypeId) : Nat := ElementKind.rowWidth t.layout

def ofCode? (code : UInt8) : Option TypeId := all.find? fun t => t.code == code

theorem mem_all (t : TypeId) : t ∈ all := by cases t <;> decide

theorem ofCode?_code (t : TypeId) : ofCode? t.code = some t := by cases t <;> rfl

theorem code_of_ofCode? {code : UInt8} {t : TypeId} (h : ofCode? code = some t) :
    t.code = code := by
  simpa using List.find?_some h

/-- From the controlled station to the controlling one. -/
def isMonitoring (t : TypeId) : Bool :=
  (1 ≤ t.code && t.code ≤ 40) || t.code = 70

/-- From the controlling station to the controlled one. -/
def isControl (t : TypeId) : Bool :=
  (45 ≤ t.code && t.code ≤ 64) || (100 ≤ t.code && t.code ≤ 107)

def isParameter (t : TypeId) : Bool := 110 ≤ t.code && t.code ≤ 113

/-- Whether rows end in a time of day. An elapsed time alone does not count. -/
def hasTimeTag (t : TypeId) : Bool :=
  t.layout.any fun kind => kind = .cp24 || kind = .cp56

end TypeId

end Telecontrol
