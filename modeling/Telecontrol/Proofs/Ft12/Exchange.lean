import Telecontrol.Primary.Step
import Telecontrol.Proofs.Ft12.RoundTrip
import Telecontrol.Proofs.Output

/-!
# What passes between primary and secondary

The numbered requests of the primary station, the responses that it takes, and what a turn of either
station comes to: the state that it leaves, and what it writes, hands out and answers.
-/

namespace Telecontrol

namespace Output

variable {φ : Type}

def answer? : Output φ → Option (Nat × Answer)
  | answered request answer => some (request, answer)
  | _ => none

end Output

namespace Turn

variable {σ τ : Type} {addressLength : Nat} {m : Moment}

def answers (t : Turn σ LinkFrame) : List (Nat × Answer) := t.output.filterMap Output.answer?

/-- The turn goes on in the given state. It has written the given frames, each in one piece, handed
out the ASDUs and answered the requests. -/
structure Yields (addressLength : Nat) (t : Turn σ LinkFrame) (s : σ) (frames : List LinkFrame)
    (asdus : List Asdu) (answers : List (Nat × Answer)) : Prop where
  state : t.state = s
  ending : t.ending = none
  written : t.frames = frames
  spells : (LinkFrame.reader addressLength).Spells frames t.octets
  handed : t.asdus = asdus
  answered : t.answers = answers

variable {t : Turn σ LinkFrame} {s s' : σ} {frames frames' : List LinkFrame}
  {asdus asdus' : List Asdu} {answers answers' : List (Nat × Answer)}

lemma yields_done (s : σ) : (done s : Turn σ LinkFrame).Yields addressLength s [] [] [] :=
  ⟨rfl, rfl, rfl, .nil, rfl, rfl⟩

lemma yields_reports (events : List Event) (s : σ) :
    (⟨s, events.map .reported, none⟩ : Turn σ LinkFrame).Yields addressLength s []
      ((events.map Output.reported : List (Output LinkFrame)).filterMap Output.asdu?) [] := by
  refine ⟨rfl, rfl, ?_, ?_, rfl, ?_⟩
  · simp [Turn.frames, Output.frame?, List.filterMap_map, Function.comp_def]
  · have hnone : Turn.octets (⟨s, events.map .reported, none⟩ : Turn σ LinkFrame) = [] := by
      simp [Turn.octets, Output.octets, List.flatMap_map, List.flatMap_eq_nil_iff]
    rw [hnone]
    exact .nil
  · simp [Turn.answers, Output.answer?, List.filterMap_map, Function.comp_def]

lemma yields_report {event : Event} (s : σ) :
    (report event s : Turn σ LinkFrame).Yields addressLength s []
      ((Output.reported event : Output LinkFrame).asdu?.toList) [] := by
  cases hevent : (Output.reported event : Output LinkFrame).asdu? with
  | none => simpa [hevent, report] using yields_reports [event] s
  | some asdu => simpa [hevent, report] using yields_reports [event] s

lemma yields_answer (request : Nat) (a : Answer) (s : σ) :
    (answer request a s : Turn σ LinkFrame).Yields addressLength s [] [] [(request, a)] :=
  ⟨rfl, rfl, rfl, .nil, rfl, rfl⟩

lemma yields_wrote {frame : LinkFrame} {octets : Octets}
    (h : frame.encode addressLength = .ok octets) (s : σ) :
    (⟨s, [.wrote frame octets], none⟩ : Turn σ LinkFrame).Yields addressLength s [frame] [] [] := by
  refine ⟨rfl, rfl, rfl, ?_, rfl, rfl⟩
  have hspells := FrameReader.Spells.single (LinkFrame.reads_of_encode h)
  simpa [Turn.octets, Output.octets] using hspells

lemma yields_write {frame : LinkFrame} (hm : m.writeFault = none)
    (h : ∃ octets, frame.encode addressLength = .ok octets) (s : σ) :
    (write m frame (frame.encode addressLength) s).Yields addressLength s [frame] [] [] := by
  obtain ⟨octets, hencode⟩ := h
  rw [hencode, write_sound s hm]
  exact yields_wrote hencode s

lemma Yields.andThen {next : σ → Turn σ LinkFrame} (h : t.Yields addressLength s frames asdus answers)
    (h' : (next s).Yields addressLength s' frames' asdus' answers') :
    (t.andThen next).Yields addressLength s' (frames ++ frames') (asdus ++ asdus')
      (answers ++ answers') := by
  obtain ⟨rfl, hending, rfl, hspells, rfl, rfl⟩ := h
  have heq : t.andThen next =
      ⟨(next t.state).state, t.output ++ (next t.state).output, (next t.state).ending⟩ := by
    simp only [Turn.andThen, hending]
  rw [heq]
  refine ⟨h'.state, h'.ending, ?_, ?_, ?_, ?_⟩
  · rw [Turn.frames, List.filterMap_append, ← h'.written]
    rfl
  · rw [Turn.octets, List.flatMap_append]
    exact hspells.append h'.spells
  · rw [Turn.asdus, List.filterMap_append, ← h'.handed]
    rfl
  · rw [Turn.answers, List.filterMap_append, ← h'.answered]
    rfl

end Turn

namespace LinkFrame

/-- The ASDU that a frame carries, if it can be read. -/
def asdus (widths : FieldWidths) : LinkFrame → List Asdu
  | userData _ _ payload => (Asdu.decode widths payload).toOption.toList
  | _ => []

/-- A frame with so many octets of user data can be written. -/
def Holds (addressLength : Nat) (payload : Octets) : Prop :=
  1 + addressLength + payload.length ≤ maxLength

/-- A response that can be written and that the primary station takes for one of the secondary with
an address. It does not refuse the request. -/
structure Answers (addressLength address : Nat) (frame : LinkFrame) : Prop where
  written : ∃ octets, frame.encode addressLength = .ok octets
  heeded : Primary.isResponseOf address frame = true
  accepting : frame.isNack = false

variable {addressLength address : Nat} {payload : Octets}

lemma answers_singleAck : Answers addressLength address singleAck :=
  ⟨⟨_, rfl⟩, rfl, rfl⟩

lemma answers_response {function : SecondaryFunction} (acd : Bool)
    (haddress : address ≤ maxLinkAddress addressLength) (hfunction : function ≠ .nack) :
    Answers addressLength address (response function acd address) where
  written := encode_fixed _ haddress
  heeded := by simp [Primary.isResponseOf, response, ControlField.response, control?, address?,
    ControlField.isPrimary]
  accepting := by cases function <;> first | rfl | exact absurd rfl hfunction

lemma answers_userData (acd : Bool) (haddress : address ≤ maxLinkAddress addressLength)
    (hpayload : Holds addressLength payload) :
    Answers addressLength address (userData (.response .respUserData acd) address payload) where
  written := encode_userData _ haddress hpayload
  heeded := by simp [Primary.isResponseOf, ControlField.response, control?, address?,
    ControlField.isPrimary]
  accepting := rfl

end LinkFrame

lemma Asdu.holds_of_payload {widths : FieldWidths} {addressLength : Nat} {asdu : Asdu}
    {octets : Octets} (haddress : addressLength ≤ 2)
    (h : asdu.payload widths addressLength = .ok octets) :
    LinkFrame.Holds addressLength octets := by
  obtain ⟨encoded, -, hlimit⟩ := bind_eq_ok h
  by_cases hlong : LinkFrame.maxAsduLength addressLength < encoded.length
  · simp [hlong] at hlimit
  · obtain rfl : encoded = octets := by simpa [hlong] using hlimit
    simp only [LinkFrame.maxAsduLength, LinkFrame.maxLength] at hlong
    simp only [LinkFrame.Holds, LinkFrame.maxLength]
    omega

/-- What the primary station wants of a secondary in an exchange: to take over an ASDU that is sent
on behalf of a request, or to give data of a class. -/
inductive Demand
  | deliver (request : Nat) (asdu : Asdu) (payload : Octets)
  | fetch (dataClass : DataClass)

namespace Demand

/-- The frame that demands it, with a frame count bit. -/
def frame (address : Nat) (fcb : Bool) : Demand → LinkFrame
  | deliver _ _ payload => .userData (.request .userDataConfirmed fcb) address payload
  | fetch dataClass => .fixed (.request (Primary.requestFunction dataClass) fcb) address

def function : Demand → PrimaryFunction
  | deliver .. => .userDataConfirmed
  | fetch dataClass => Primary.requestFunction dataClass

def payload? : Demand → Option Octets
  | deliver _ _ payload => some payload
  | fetch _ => none

/-- The ASDUs that the secondary hands out when it serves the demand. -/
def delivery : Demand → List Asdu
  | deliver _ asdu _ => [asdu]
  | fetch _ => []

/-- The ASDUs of a response that the primary station hands out. -/
def reported (widths : FieldWidths) (response : LinkFrame) : Demand → List Asdu
  | deliver .. => []
  | fetch _ => response.asdus widths

/-- What the primary station answers when it has got a response. -/
def concluded (response : LinkFrame) : Demand → List (Nat × Answer)
  | deliver request _ _ =>
    [(request,
      if response.isAck then .done else .refused (.protocol (.unexpectedResponse response)))]
  | fetch _ => []

/-- What the primary station answers when it has not got any response. -/
def abandoned (address : Nat) : Demand → List (Nat × Answer)
  | deliver request _ _ => [(request, .refused (.retriesExhausted address))]
  | fetch _ => []

/-- User data is what its ASDU is written as, and fits a frame. -/
def Proper (addressLength : Nat) (widths : FieldWidths) : Demand → Prop
  | deliver _ asdu payload =>
    Asdu.decode widths payload = .ok asdu ∧ LinkFrame.Holds addressLength payload
  | fetch _ => True

variable {addressLength address : Nat} {widths : FieldWidths} {d d' : Demand} {fcb : Bool}

lemma written (h : d.Proper addressLength widths) (haddress : address ≤ maxLinkAddress addressLength)
    (fcb : Bool) : ∃ octets, (d.frame address fcb).encode addressLength = .ok octets := by
  cases d with
  | deliver request asdu payload => exact LinkFrame.encode_userData _ haddress h.2
  | fetch dataClass => exact LinkFrame.encode_fixed _ haddress

lemma frame_ne : d.frame address fcb ≠ d'.frame address (!fcb) := by
  cases d with
  | deliver request asdu payload =>
    cases d' with
    | deliver request' asdu' payload' =>
      cases fcb <;> simp [frame, ControlField.request, PrimaryFunction.isCounted]
    | fetch dataClass => simp [frame]
  | fetch dataClass =>
    cases d' with
    | deliver request asdu payload => simp [frame]
    | fetch dataClass' =>
      cases fcb <;> cases dataClass <;> cases dataClass' <;>
        simp [frame, ControlField.request, PrimaryFunction.isCounted, Primary.requestFunction]

end Demand

end Telecontrol
