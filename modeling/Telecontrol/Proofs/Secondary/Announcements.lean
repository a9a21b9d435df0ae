import Telecontrol.Proofs.Secondary.Endurance
import Telecontrol.Proofs.Secondary.Memory

/-!
# What a secondary station says about its data

A primary station polls again as long as it is told that class 1 data is waiting, and otherwise
lets it wait. Each answer that is made up afresh says what holds once its request has been served,
after the data that it carries has been taken out or a reset has thrown data away; the single
character, which cannot say anything, is left for an empty queue. A repetition says what held when
the answer was made up.
-/

namespace Telecontrol.Secondary

open Running (instruct receive)

/-- What an answer says about class 1 data, and whose data it says it is, is true of the station. -/
inductive Truthful (s : Secondary) : LinkFrame → Prop
  | single : s.link.singleCharAck = true → s.class1 = [] → Truthful s .singleAck
  | framed {a : LinkFrame} {acd : Bool} (function : SecondaryFunction) :
      a.control? = some (.secondary function acd false) → (acd = true ↔ s.class1 ≠ []) →
      a.address? = some s.address → Truthful s a

/-- The request has the number of the last one, and an answer to that one has been kept. -/
def Repeats (s : Secondary) (q : Request) : Prop :=
  q.fcv = true ∧ s.lastFcb = some q.fcb ∧ s.lastResponse ≠ none

instance (s : Secondary) (q : Request) : Decidable (s.Repeats q) :=
  inferInstanceAs (Decidable (_ ∧ _ ∧ _))

/-- The data that a request polls for: the oldest of its class. -/
def polled? (s : Secondary) : PrimaryFunction → Option Octets
  | .requestClass1 => s.class1.head?
  | .requestClass2 => s.class2.head?
  | _ => none

variable {s : Secondary} {q : Request} {service : Service} {frame a : LinkFrame} {m : Moment}
  {octets data : Octets} {dataClass : DataClass} {function : PrimaryFunction}
  {payload : Option Octets}

lemma kept?_eq_none_iff : s.kept? q.fcb q.fcv = none ↔ ¬s.Repeats q := by
  rw [Option.eq_none_iff_forall_ne_some]
  constructor
  · rintro hnone ⟨hfcv, hfcb, hkept⟩
    obtain ⟨r, hr⟩ := Option.ne_none_iff_exists'.1 hkept
    exact hnone r (kept?_eq_some_iff.2 ⟨hfcv, hfcb, hr⟩)
  · intro hfresh r hkept
    obtain ⟨hfcv, hfcb, hr⟩ := kept?_eq_some_iff.1 hkept
    exact hfresh ⟨hfcv, hfcb, hr ▸ Option.some_ne_none r⟩

lemma polled?_eq_some_iff : s.polled? function = some data ↔
    ∃ dataClass rest, function = Primary.requestFunction dataClass ∧
      s.queue dataClass = data :: rest := by
  constructor
  · intro h
    cases function with
    | requestClass1 =>
      obtain ⟨rest, hqueue⟩ := List.head?_eq_some_iff.1 h
      exact ⟨.class1, rest, rfl, hqueue⟩
    | requestClass2 =>
      obtain ⟨rest, hqueue⟩ := List.head?_eq_some_iff.1 h
      exact ⟨.class2, rest, rfl, hqueue⟩
    | _ => exact nomatch h
  · rintro ⟨dataClass, rest, rfl, hqueue⟩
    cases dataClass with
    | class1 => exact List.head?_eq_some_iff.2 ⟨rest, hqueue⟩
    | class2 => exact List.head?_eq_some_iff.2 ⟨rest, hqueue⟩

lemma accessDemand_iff (s : Secondary) : s.accessDemand = true ↔ s.class1 ≠ [] := by
  simp [accessDemand]

lemma truthful_respond (s : Secondary) (function : SecondaryFunction) :
    Truthful s (s.respond function) :=
  .framed function rfl (accessDemand_iff s) rfl

lemma truthful_singleAck (h : s.usesSingleChar = true) : Truthful s .singleAck := by
  obtain ⟨hsingle, hempty⟩ : s.link.singleCharAck = true ∧ s.class1 = [] := by
    simpa [usesSingleChar, accessDemand] using h
  exact .single hsingle hempty

lemma truthful_acknowledgment (s : Secondary) : Truthful s s.acknowledgment := by
  unfold acknowledgment
  split
  · next h => exact truthful_singleAck h
  · exact truthful_respond s .ack

lemma serveData_truthful (h : (serveData dataClass s).response = some a) :
    Truthful (serveData dataClass s).state a := by
  unfold serveData at h ⊢
  cases hqueue : s.queue dataClass with
  | nil =>
    rw [hqueue] at h
    obtain rfl := Option.some.inj h
    dsimp only
    split
    · next h => exact truthful_singleAck h
    · exact truthful_respond s .respNackNoData
  | cons payload rest =>
    rw [hqueue] at h
    obtain rfl := Option.some.inj h
    exact .framed .respUserData rfl (accessDemand_iff _) rfl

/-- A request is answered with an acknowledgment, the status of the link, or what the queue of a
class has to offer. The first two are made up after the queues have been changed. -/
lemma serve_cases (h : s.serve function payload = some service) (ha : service.response = some a) :
    a = service.state.acknowledgment ∨ a = service.state.respond .statusOfLink ∨
      ∃ dataClass, function = Primary.requestFunction dataClass ∧
        service = serveData dataClass s := by
  cases function with
  | userDataConfirmed =>
    obtain ⟨asdu, -, rfl⟩ := Option.map_eq_some_iff.1 h
    exact .inl (Option.some.inj ha).symm
  | userDataNoReply =>
    obtain rfl := Option.some.inj h
    cases ha
  | resetRemoteLink | resetUserProcess | testFunctionLink =>
    obtain rfl := Option.some.inj h
    exact .inl (Option.some.inj ha).symm
  | requestLinkStatus | requestAccessDemand =>
    obtain rfl := Option.some.inj h
    exact .inr (.inl (Option.some.inj ha).symm)
  | requestClass1 => exact .inr (.inr ⟨.class1, rfl, (Option.some.inj h).symm⟩)
  | requestClass2 => exact .inr (.inr ⟨.class2, rfl, (Option.some.inj h).symm⟩)

lemma serve_truthful (h : s.serve function payload = some service)
    (ha : service.response = some a) : Truthful service.state a := by
  rcases serve_cases h ha with rfl | rfl | ⟨dataClass, -, rfl⟩
  · exact truthful_acknowledgment _
  · exact truthful_respond _ .statusOfLink
  · exact serveData_truthful ha

lemma Truthful.after (h : Truthful service.state a) : Truthful (after q service) a := by
  unfold Secondary.after remember
  split
  · cases h with
    | single hsingle hempty => exact .single hsingle hempty
    | framed function hcontrol hdemand haddress => exact .framed function hcontrol hdemand haddress
  · exact h

lemma serve_poll {rest : List Octets} (hqueue : s.queue dataClass = data :: rest) :
    s.serve (Primary.requestFunction dataClass) payload = some
      ⟨s.setQueue dataClass rest, [], some (.userData
        (.response .respUserData (s.setQueue dataClass rest).accessDemand) s.address data)⟩ := by
  have haddress := (setQueue_same (s := s) dataClass rest).address
  cases dataClass <;> simp only [Primary.requestFunction, serve, serveData, hqueue, haddress]

lemma respond_noData {function : SecondaryFunction} (s : Secondary)
    (hfunction : function ≠ .respUserData) (acd dfc : Bool) :
    (s.respond function).control? ≠ some (.secondary .respUserData acd dfc) := by
  simp [respond, LinkFrame.response, ControlField.response, LinkFrame.control?, hfunction]

lemma serveData_carries {acd dfc : Bool} (ha : (serveData dataClass s).response = some a)
    (hdata : a.control? = some (.secondary .respUserData acd dfc)) :
    ∃ data rest, s.queue dataClass = data :: rest ∧ a.carried? = some data := by
  unfold serveData at ha
  cases hqueue : s.queue dataClass with
  | nil =>
    rw [hqueue] at ha
    obtain rfl := Option.some.inj ha
    split at hdata
    · cases hdata
    · exact absurd hdata (respond_noData s (by decide) acd dfc)
  | cons data rest =>
    rw [hqueue] at ha
    obtain rfl := Option.some.inj ha
    exact ⟨data, rest, rfl, rfl⟩

lemma serve_data {acd dfc : Bool} (h : s.serve function payload = some service)
    (ha : service.response = some a)
    (hdata : a.control? = some (.secondary .respUserData acd dfc)) :
    ∃ data, s.polled? function = some data ∧ a.carried? = some data := by
  rcases serve_cases h ha with rfl | rfl | ⟨dataClass, hpoll, rfl⟩
  · unfold acknowledgment at hdata
    split at hdata
    · cases hdata
    · exact absurd hdata (respond_noData _ (by decide) acd dfc)
  · exact absurd hdata (respond_noData _ (by decide) acd dfc)
  · obtain ⟨data, rest, hqueue, hcarried⟩ := serveData_carries ha hdata
    exact ⟨data, polled?_eq_some_iff.2 ⟨dataClass, rest, hpoll, hqueue⟩, hcarried⟩

/-! ### Turns -/

lemma control_of_request {address : Nat} (h : frame.request? address = some q) :
    frame.control? = some (.primary q.function q.fcb q.fcv) ∧ frame.address? = some address := by
  unfold LinkFrame.request? at h
  split at h
  · obtain ⟨rfl, rfl⟩ := by simpa using h
    exact ⟨rfl, rfl⟩
  · obtain ⟨rfl, rfl⟩ := by simpa using h
    exact ⟨rfl, rfl⟩
  · exact nomatch h

lemma request_of_wrote (hwrote : .wrote a octets ∈ (s.step m (.frame frame)).output) :
    ∃ q, frame.request? s.address = some q := by
  cases hq : frame.request? s.address with
  | some q => exact ⟨q, rfl⟩
  | none =>
    obtain ⟨asdus, hstep⟩ := step_other (m := m) hq
    rw [hstep] at hwrote
    simp at hwrote

section

variable (hsingle : s.link.isBroadcast s.address = false)
  (hwrote : .wrote a octets ∈ (s.step m (.frame frame)).output)

include hsingle hwrote

lemma kept_of_noReply (hq : frame.request? s.address = some q)
    (hfunction : q.function = .userDataNoReply) : s.kept? q.fcb q.fcv = some a := by
  cases hkept : s.kept? q.fcb q.fcv with
  | some r =>
    rw [step_kept hsingle hq hkept] at hwrote
    exact congrArg some (wrote_of_mem_write hwrote).1
  | none =>
    rw [step_afresh hsingle hq hkept, afresh, hfunction] at hwrote
    simp [serve, reply, Turn.andThen_of_none, Turn.done] at hwrote

lemma truthful_of_wrote (hq : frame.request? s.address = some q) (hfresh : ¬s.Repeats q)
    (ha : a ≠ .singleNack) :
    Truthful (s.step m (.frame frame)).state a ∧
      ∀ acd dfc, a.control? = some (.secondary .respUserData acd dfc) →
        ∃ data, s.polled? q.function = some data ∧ a.carried? = some data := by
  obtain ⟨service, hserved, hresponse, -⟩ :=
    response_of_wrote hsingle hq (kept?_eq_none_iff.2 hfresh) hwrote ha
  have hserve := (serve_of_served hserved).2
  rw [step_served hsingle hq hserved]
  exact ⟨(serve_truthful hserve hresponse).after, fun acd dfc => serve_data hserve hresponse⟩

end

lemma frames_of_poll (hs : s.Fit) (hm : m.writeFault = none)
    (hq : frame.request? s.address = some q) (hfresh : ¬s.Repeats q)
    (hpoll : s.polled? q.function = some data) :
    (s.step m (.frame frame)).frames = [.userData (.secondary .respUserData
      (!(s.step m (.frame frame)).state.class1.isEmpty) false) s.address data] := by
  obtain ⟨dataClass, rest, hfunction, hqueue⟩ := polled?_eq_some_iff.1 hpoll
  let service : Service := ⟨s.setQueue dataClass rest, [], some (.userData
    (.response .respUserData (s.setQueue dataClass rest).accessDemand) s.address data)⟩
  have hkept := kept?_eq_none_iff.2 hfresh
  have hserve : s.serve q.function q.payload = some service := by
    rw [hfunction]
    exact serve_poll hqueue
  have hserved : s.served? q = some service := by simp only [served?, hkept, hserve]
  have hclass1 : (after q service).class1 = (s.setQueue dataClass rest).class1 := by
    unfold after remember
    split <;> rfl
  rw [((step_takes hs.single m (.frame frame)).sound hs hm).1, step_served hs.single hq hserved,
    hclass1]
  simp only [handed, hq, hkept, hserve, service, Option.toList]
  rfl

/-- What a secondary station that has been running answers to a frame. Only a request to its own
address, which is no broadcast address, is answered at all, and user data without reply only by
repeating the answer that was kept. What is made up afresh and is no refusal is true of the queues
that it leaves behind, and it is data exactly if there was data in the queue that was polled: the
oldest. -/
theorem answers_truthfully {address : Nat} {link : LinkParameters} {widths : FieldWidths}
    {actions : List Action} {run : Run} (hstart : start address link widths = .ok s)
    (hasked : ∀ command, Running.Action.ask command ∈ actions → command.Issued link widths)
    (hrun : (launch s).run conduct actions = some run) (m : Moment) (frame : LinkFrame) :
    let t := run.station.step m (.frame frame)
    (t.state.address = address ∧ t.state.link = link) ∧
    (∀ a octets, .wrote a octets ∈ t.output → link.isBroadcast address = false ∧
      ∃ q, frame.request? address = some q ∧ frame.address? = some address ∧
        frame.control? = some (.primary q.function q.fcb q.fcv) ∧
        (q.function = .userDataNoReply → q.fcv = true ∧ run.station.lastFcb = some q.fcb ∧
          run.station.lastResponse = some a) ∧
        (¬run.station.Repeats q → a ≠ .singleNack → Truthful t.state a ∧
          ∀ acd dfc, a.control? = some (.secondary .respUserData acd dfc) →
            ∃ data, run.station.polled? q.function = some data ∧ a.carried? = some data)) ∧
    (m.writeFault = none → ∀ q data, frame.request? address = some q →
      ¬run.station.Repeats q → run.station.polled? q.function = some data →
      t.frames = [.userData (.secondary .respUserData (!t.state.class1.isEmpty) false)
        address data]) := by
  obtain ⟨hsound, ⟨rfl, rfl, -⟩, -⟩ := start_sound hstart
  have hfit : run.station.Fit := (fitWithIssuedMail_of_run hstart hasked hrun).fit
  have hsame := (path_same hsound.single (path_of_run hrun)).1
  have hkeeps := (step_leaves hfit.single m (.frame frame)).same_parameters
  refine ⟨⟨hkeeps.address.trans hsame.address, hkeeps.link.trans hsame.link⟩, ?_, ?_⟩
  · intro a octets hwrote
    obtain ⟨q, hq⟩ := request_of_wrote hwrote
    have htrue := truthful_of_wrote hfit.single hwrote hq
    have hkept := kept_of_noReply hfit.single hwrote hq
    rw [hsame.address] at hq
    obtain ⟨hcontrol, haddress⟩ := control_of_request hq
    refine ⟨hsound.single, q, hq, haddress, hcontrol, fun hfunction => ?_, htrue⟩
    exact kept?_eq_some_iff.1 (hkept hfunction)
  · intro hm q data hq hfresh hpoll
    rw [← hsame.address] at hq ⊢
    exact frames_of_poll hfit hm hq hfresh hpoll

/-- Two ASDUs of class 1 are queued, and the link is reset. -/
def twoWaiting : List Action :=
  [instruct (.enqueue .class1 [102, 0, 5, 1] 0), instruct (.enqueue .class1 [102, 0, 5, 2] 1),
    receive 1 (.request .resetRemoteLink false 3)].flatten

/-- The first of the two is fetched. -/
def oneWaiting : List Action := twoWaiting ++ receive 1 (.request .requestClass1 true 3)

def afterTwoWaiting : Run := ((launch usual).run conduct twoWaiting).getD (launch usual)

def afterOneWaiting : Run := ((launch usual).run conduct oneWaiting).getD (launch usual)

/-- What becomes of the first poll. -/
def firstPoll : Turn :=
  afterTwoWaiting.station.step ⟨0, none⟩ (.frame (.request .requestClass1 true 3))

/-- What becomes of the second poll, which leaves no data. -/
def secondPoll : Turn :=
  afterOneWaiting.station.step ⟨0, none⟩ (.frame (.request .requestClass1 false 3))

/-- The first answer announces more data, the second one does not. -/
theorem answers_truthfully_twoWaiting :
    start 3 {} .serial = .ok usual ∧
      (launch usual).run conduct twoWaiting = some afterTwoWaiting ∧
      firstPoll.state.class1 = [[102, 0, 5, 2]] ∧
      firstPoll.frames = [.userData (.secondary .respUserData true false) 3 [102, 0, 5, 1]] ∧
      Truthful firstPoll.state (.userData (.secondary .respUserData true false) 3 [102, 0, 5, 1]) ∧
      (launch usual).run conduct oneWaiting = some afterOneWaiting ∧
      secondPoll.state.class1 = [] ∧
      secondPoll.frames = [.userData (.secondary .respUserData false false) 3 [102, 0, 5, 2]] ∧
      Truthful secondPoll.state
        (.userData (.secondary .respUserData false false) 3 [102, 0, 5, 2]) := by
  have hstart : start 3 {} .serial = .ok usual := rfl
  have hrun : (launch usual).run conduct twoWaiting = some afterTwoWaiting := by decide +kernel
  have hrun' : (launch usual).run conduct oneWaiting = some afterOneWaiting := by decide +kernel
  have hasked : ∀ command, Running.Action.ask command ∈ oneWaiting →
      command.Issued {} .serial := by
    intro command hmem
    obtain rfl | rfl : command = .enqueue .class1 [102, 0, 5, 1] 0 ∨
        command = .enqueue .class1 [102, 0, 5, 2] 1 := by
      simpa [oneWaiting, twoWaiting, instruct, receive, Running.Action.read] using hmem
    · exact .inr ⟨.empty .readCommand .request 1, 0, rfl⟩
    · exact .inr ⟨.empty .readCommand .request 2, 1, rfl⟩
  have hmore : firstPoll.state.class1 = [[102, 0, 5, 2]] := by decide +kernel
  have hnone : secondPoll.state.class1 = [] := by decide +kernel
  have hfresh : ¬afterTwoWaiting.station.Repeats ⟨.requestClass1, true, true, none⟩ := by
    decide +kernel
  have hfresh' : ¬afterOneWaiting.station.Repeats ⟨.requestClass1, false, true, none⟩ := by
    decide +kernel
  have hearlier : ∀ command, Running.Action.ask command ∈ twoWaiting →
      command.Issued {} .serial :=
    fun command hmem => hasked command (List.mem_append_left _ hmem)
  obtain ⟨-, hanswers, hpoll⟩ :=
    answers_truthfully hstart hearlier hrun ⟨0, none⟩ (.request .requestClass1 true 3)
  obtain ⟨-, hanswers', hpoll'⟩ :=
    answers_truthfully hstart hasked hrun' ⟨0, none⟩ (.request .requestClass1 false 3)
  have hframes := hpoll rfl _ [102, 0, 5, 1] rfl hfresh (by decide +kernel)
  have hframes' := hpoll' rfl _ [102, 0, 5, 2] rfl hfresh' (by decide +kernel)
  obtain ⟨-, q, hq, -, -, -, htrue⟩ := hanswers
    (.userData (.secondary .respUserData true false) 3 [102, 0, 5, 1])
    [0x68, 6, 6, 0x68, 0x28, 3, 102, 0, 5, 1, 0x97, 0x16] (by decide +kernel)
  obtain ⟨-, q', hq', -, -, -, htrue'⟩ := hanswers'
    (.userData (.secondary .respUserData false false) 3 [102, 0, 5, 2])
    [0x68, 6, 6, 0x68, 0x08, 3, 102, 0, 5, 2, 0x78, 0x16] (by decide +kernel)
  obtain rfl := Option.some.inj hq
  obtain rfl := Option.some.inj hq'
  change firstPoll.frames = [.userData (.secondary _ (!firstPoll.state.class1.isEmpty) _) _ _]
    at hframes
  change secondPoll.frames = [.userData (.secondary _ (!secondPoll.state.class1.isEmpty) _) _ _]
    at hframes'
  rw [hmore] at hframes
  rw [hnone] at hframes'
  exact ⟨hstart, hrun, hmore, hframes, (htrue hfresh (by simp)).1, hrun', hnone, hframes',
    (htrue' hfresh' (by simp)).1⟩

end Telecontrol.Secondary
