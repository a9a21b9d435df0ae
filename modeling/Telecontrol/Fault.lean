import Telecontrol.Apci.Basic
import Telecontrol.Binary32.Shortest
import Telecontrol.Element.Kind
import Telecontrol.Ft12.Frame
import Telecontrol.States
import Telecontrol.TypeId

/-!
# Faults

A fault names what went wrong: each category has an inductive type of causes, and a cause carries
the values that its message shows. `other` is for faults that an application words itself.
`Fault.message` is the only place where wording is decided. A station that ends says why with a
`CloseReason`.
-/

namespace Telecontrol

/-- A named quantity with a range. -/
inductive Quantity
  | stepPosition | counterSequence | commandQualifier | setpointQualifier | interrogationGroup
  | parameterKind | initializationCause
  | year | month | day | hour | minute | millisecond | dayOfWeek | elapsedMilliseconds
deriving DecidableEq, Repr

def Quantity.name : Quantity → String
  | stepPosition => "step position"
  | counterSequence => "counter sequence number"
  | commandQualifier => "command qualifier"
  | setpointQualifier => "set-point QL"
  | interrogationGroup => "interrogation group"
  | parameterKind => "parameter kind"
  | initializationCause => "initialization cause"
  | year => "year"
  | month => "month"
  | day => "day"
  | hour => "hour"
  | minute => "minute"
  | millisecond => "millisecond"
  | dayOfWeek => "day of week"
  | elapsedMilliseconds => "elapsed milliseconds"

/-- A value that does not fit an information element, an ASDU or an address field. -/
inductive DomainCause
  | outside (what : Quantity) (value low high : Int)
  | qualityFlags (bits : UInt8) (kind : ElementKind)
  | doubleCommandState (value : UInt8)
  | counterQualifier (request freeze : UInt8)
  | startEventFlags (flags : UInt8)
  | outputCircuitFlags (flags : UInt8)
  | normalizedRange (value : Binary32)
  | rowShape (index address : Nat) (shape expected : List ElementKind)
  | secondObjectInSequence
  | rowsPerObject (count : Nat)
  | tooManyRows (limit : Nat)
  | originatorWithoutField (originator : UInt8)
  | commonAddressZero
  | commonAddressWidth (address width : Nat)
  | objectAddressWidth (address width : Nat)
  | linkAddressWidth (address width : Nat)
  | linkAddressUnfit (address width : Nat)
  | noSecondary (address : Nat)
  | other (text : String)
deriving DecidableEq, Repr

def DomainCause.message : DomainCause → String
  | outside what value low high => s!"{what.name} {value} outside {low}..={high}"
  | qualityFlags bits kind =>
    s!"quality bits 0x{Octets.hexText bits} not valid for {kind.name.map Char.toUpper}"
  | doubleCommandState value => s!"double command state {value.toNat} not permitted"
  | counterQualifier request freeze =>
    s!"counter qualifier RQT={request.toNat} FRZ={freeze.toNat} out of range"
  | startEventFlags flags => s!"start event flags 0x{Octets.hexText flags} use reserved bits"
  | outputCircuitFlags flags =>
    s!"output circuit flags 0x{Octets.hexText flags} use reserved bits"
  | normalizedRange value => s!"normalized value {value.text} outside [-1.0, 1.0)"
  | rowShape index address shape expected =>
    s!"row {index} at IOA {address} has shape {ElementKind.layoutText shape}, " ++
      s!"expected {ElementKind.layoutText expected}"
  | secondObjectInSequence => "sequence ASDU holds a single information object"
  | rowsPerObject count =>
    s!"non-sequence information object must have one row, got {count}"
  | tooManyRows limit => s!"ASDU exceeds {limit} information elements"
  | originatorWithoutField originator =>
    s!"originator address {originator.toNat} needs a 2-byte COT field"
  | commonAddressZero => "common address 0 is not used"
  | commonAddressWidth address width =>
    s!"common address {address} exceeds {width}-byte field"
  | objectAddressWidth address width => s!"IOA {address} exceeds {width}-byte field"
  | linkAddressWidth address width => s!"link address {address} exceeds {width}-byte field"
  | linkAddressUnfit address width =>
    s!"link address {address} does not fit {width} byte(s)"
  | noSecondary address => s!"no secondary at link address {address}"
  | other text => text

/-- Parameters that contradict each other or the standard. -/
inductive ConfigCause
  | causeWidth (width : Nat)
  | commonAddressWidth (width : Nat)
  | objectAddressWidth (width : Nat)
  | sendLimit (k : Nat)
  | receiveLimit (w : Nat)
  | supervisionTimeZero
  | acknowledgmentTooLate
  | linkAddressLength (length : Nat)
  | linkTimeZero
  | initTimeTooShort
  | queueSizeZero
  | broadcastSecondary
  | noSecondaries
  | secondariesWithoutAddress
  | broadcastPolled
  | duplicateAddress (address : Nat)
  | connectionLimitZero
  | other (text : String)
deriving DecidableEq, Repr

def ConfigCause.message : ConfigCause → String
  | causeWidth width => s!"cause of transmission size must be 1 or 2, got {width}"
  | commonAddressWidth width => s!"common address size must be 1 or 2, got {width}"
  | objectAddressWidth width =>
    s!"information object address size must be 1..=3, got {width}"
  | sendLimit k => s!"k must be 1..=32767, got {k}"
  | receiveLimit w => s!"w must be 1..=32767, got {w}"
  | supervisionTimeZero => "t1 and t3 must be non-zero"
  | acknowledgmentTooLate => "t2 must be shorter than t1"
  | linkAddressLength length => s!"link address length must be 0..=2, got {length}"
  | linkTimeZero => "timeout_for_ack and poll_interval must be non-zero"
  | initTimeTooShort => "init_timeout must cover at least one ack timeout"
  | queueSizeZero => "queue_size must be non-zero"
  | broadcastSecondary => "the broadcast address cannot be a slave address"
  | noSecondaries => "at least one secondary address is required"
  | secondariesWithoutAddress => "a link without address field serves a single secondary"
  | broadcastPolled => "the broadcast address cannot be polled"
  | duplicateAddress address => s!"duplicate link address {address}"
  | connectionLimitZero => "max_connections must be at least 1"
  | other text => text

/-- A connection that cannot be used. -/
inductive ConnectionCause
  | alreadyConnected
  | writeFailed (report : String)
  | other (text : String)
deriving DecidableEq, Repr

def ConnectionCause.message : ConnectionCause → String
  | alreadyConnected => "already connected"
  | writeFailed report => report
  | other text => text

/-- A frame or a request that the protocol does not allow at this point. -/
inductive ProtocolCause
  | dataOutsideTransfer (state : TransferState)
  | sendSequence (received expected : Nat)
  | startByControlled
  | stopByControlled
  | cannotStart (state : TransferState)
  | cannotStop (state : TransferState)
  | payloadMismatch (apci : Apci)
  | unexpectedResponse (frame : LinkFrame)
  | other (text : String)
deriving DecidableEq, Repr

def ProtocolCause.message : ProtocolCause → String
  | dataOutsideTransfer state => s!"I-frame received in state {state.name}"
  | sendSequence received expected =>
    s!"unexpected send sequence {received} (expected {expected})"
  | startByControlled => "STARTDT is initiated by the client"
  | stopByControlled => "STOPDT is initiated by the client"
  | cannotStart state => s!"cannot start data transfer in state {state.name}"
  | cannotStop state => s!"cannot stop data transfer in state {state.name}"
  | payloadMismatch apci => s!"{apci.text} does not match its payload"
  | unexpectedResponse frame => s!"unexpected response to user data: {frame.text}"
  | other text => text

/-- Octets that are no frame. -/
inductive FramingCause
  | unknownUFunction (byte : UInt8)
  | controlFieldTooShort
  | controlField (first second third fourth : UInt8)
  | startByte (byte : UInt8)
  | apduLength (length : Nat)
  | missingAsdu
  | unexpectedPayload (apci : Apci) (count : Nat)
  | primaryFunction (code : UInt8)
  | secondaryFunction (code : UInt8)
  | fixedEnd (byte : UInt8)
  | fixedChecksum
  | variableHeader
  | variableLength (length : Nat)
  | variableEnd (byte : UInt8)
  | variableChecksum
  | other (text : String)
deriving DecidableEq, Repr

def FramingCause.message : FramingCause → String
  | unknownUFunction byte => s!"unknown U-frame function 0x{Octets.hexText byte}"
  | controlFieldTooShort => "control field too short"
  | controlField first second third fourth =>
    "invalid control field " ++
      " ".intercalate ([first, second, third, fourth].map Octets.hexText)
  | startByte byte => s!"invalid start byte 0x{Octets.hexText byte}"
  | apduLength length => s!"invalid APDU length {length}"
  | missingAsdu => "I-frame without ASDU"
  | unexpectedPayload apci count => s!"{apci.text} carries {count} unexpected bytes"
  | primaryFunction code => s!"unknown primary function {code.toNat}"
  | secondaryFunction code => s!"unknown secondary function {code.toNat}"
  | fixedEnd byte => s!"fixed frame end byte 0x{Octets.hexText byte}"
  | fixedChecksum => "fixed frame checksum mismatch"
  | variableHeader => "variable frame header mismatch"
  | variableLength length => s!"variable frame length {length} too short"
  | variableEnd byte => s!"variable frame end byte 0x{Octets.hexText byte}"
  | variableChecksum => "variable frame checksum mismatch"
  | other text => text

/-- Octets that are no ASDU, and ASDUs that fit no frame. -/
inductive AsduCause
  | headerTooShort (available needed : Nat)
  | addressTooShort
  | truncatedElement (kind : ElementKind) (available : Nat)
  | trailing (count rows : Nat) (type : TypeId)
  | tooLong (length limit : Nat)
  | other (text : String)
deriving DecidableEq, Repr

def AsduCause.message : AsduCause → String
  | headerTooShort available needed => s!"ASDU header too short: {available} < {needed}"
  | addressTooShort => "IOA too short"
  | truncatedElement kind available =>
    s!"truncated {kind.name} element: need {kind.width} bytes, have {available}"
  | trailing count rows type =>
    s!"{count} trailing bytes after {rows} rows of {type.standardName}"
  | tooLong length limit => s!"ASDU of {length} bytes exceeds {limit}"
  | other text => text

/-- A secondary station that does not answer. -/
inductive LinkTimeoutCause
  | initialization (address : Nat)
  | other (text : String)
deriving DecidableEq, Repr

def LinkTimeoutCause.message : LinkTimeoutCause → String
  | initialization address => s!"secondary {address} did not complete link initialization"
  | other text => text

inductive Fault
  | domain (cause : DomainCause)
  | config (cause : ConfigCause)
  | connection (cause : ConnectionCause)
  | notConnected
  | notActive
  | connectionTimeout
  | io (text : String)
  | protocol (cause : ProtocolCause)
  | framing (cause : FramingCause)
  | invalidAsdu (cause : AsduCause)
  | unknownTypeId (code : UInt8)
  | unknownCause (code : UInt8)
  | t1Timeout
  | linkTimeout (cause : LinkTimeoutCause)
  | retriesExhausted (address : Nat)
  | tooManyUnconfirmed (k : Nat)
  | queueFull
  | channelClosed
deriving DecidableEq, Repr

namespace Fault

def message : Fault → String
  | domain cause => "Domain error: " ++ cause.message
  | config cause => "Configuration error: " ++ cause.message
  | connection cause => "Connection error: " ++ cause.message
  | notConnected => "Not connected"
  | notActive => "Data transfer not active"
  | connectionTimeout => "Connection timeout"
  | io text => "I/O error: " ++ text
  | protocol cause => "Protocol error: " ++ cause.message
  | framing cause => "Invalid frame: " ++ cause.message
  | invalidAsdu cause => "Invalid ASDU: " ++ cause.message
  | unknownTypeId code => s!"Unknown type ID: {code.toNat}"
  | unknownCause code => s!"Unknown COT: {code.toNat}"
  | t1Timeout => "T1 timeout: no confirmation received"
  | linkTimeout cause => "Link timeout: " ++ cause.message
  | retriesExhausted address => s!"Retries exhausted for link address {address}"
  | tooManyUnconfirmed k => s!"Too many unconfirmed frames (K={k})"
  | queueFull => "Queue full"
  | channelClosed => "Channel closed"

/-- Raised while decoding received octets. -/
def isFraming : Fault → Bool
  | framing _ | invalidAsdu _ | unknownTypeId _ | unknownCause _ => true
  | _ => false

/-- Shows a problem of the connection rather than of a request. -/
def isConnection : Fault → Bool
  | connection _ | notConnected | connectionTimeout | io _ | t1Timeout | channelClosed => true
  | _ => false

/-- A later attempt on the same connection may succeed. -/
def isRetryable : Fault → Bool
  | tooManyUnconfirmed _ | queueFull | retriesExhausted _ => true
  | _ => false

end Fault

/-- Why a station ended. -/
inductive CloseReason
  | localClose
  | remoteClosed
  | t1Timeout
  | testFrameTimeout
  | handshakeTimeout
  | framing (fault : Fault)
  | protocol (fault : Fault)
  | io (text : String)
deriving DecidableEq, Repr

namespace CloseReason

/-- The reason for which a fault on the line ends a station. -/
def ofFault (fault : Fault) : CloseReason :=
  match fault with
  | .io text => io text
  | .t1Timeout => t1Timeout
  | .notConnected => remoteClosed
  | .linkTimeout _ => handshakeTimeout
  | _ => if fault.isFraming then framing fault else protocol fault

def text : CloseReason → String
  | localClose => "closed locally"
  | remoteClosed => "closed by peer"
  | t1Timeout => "T1 timeout"
  | testFrameTimeout => "test frame timeout"
  | handshakeTimeout => "handshake timeout"
  | framing fault => "framing error: " ++ fault.message
  | protocol fault => "protocol error: " ++ fault.message
  | io text => "I/O error: " ++ text

end CloseReason

end Telecontrol
