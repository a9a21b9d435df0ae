import Telecontrol.Proofs.Running
import Telecontrol.Secondary.Step

/-!
# Requests to a secondary station

A request is answered as a repetition, served afresh or not accepted. `Takes` lists the turns that a
secondary station can take, each with what it is about, and `step_takes` says that there are no
others, whatever arrives and whether the line works or not.
-/

namespace Telecontrol

namespace Secondary

/-- What a frame asks of the station that it is addressed to. -/
structure Request where
  function : PrimaryFunction
  fcb : Bool
  fcv : Bool
  payload : Option Octets
deriving DecidableEq, Repr

end Secondary

/-- The request that a frame makes of the station with an address. -/
def LinkFrame.request? (address : Nat) : LinkFrame → Option Secondary.Request
  | fixed (.primary function fcb fcv) a =>
    if a = address then some ⟨function, fcb, fcv, none⟩ else none
  | userData (.primary function fcb fcv) a payload =>
    if a = address then some ⟨function, fcb, fcv, some payload⟩ else none
  | _ => none

namespace Secondary

open Telecontrol.Turn (done fail answer)

/-- The request that an input makes of the station with an address. -/
def Input.request? (address : Nat) : Input → Option Request
  | .frame f => f.request? address
  | _ => none

/-- The service of a request that is neither a repetition nor refused. -/
def served? (q : Request) (s : Secondary) : Option Service :=
  match s.kept? q.fcb q.fcv with
  | some _ => none
  | none => s.serve q.function q.payload

/-- The station after a request has been served. -/
def after (q : Request) (service : Service) : Secondary :=
  service.state.remember q.fcb q.fcv service.response

def reply (m : Moment) (response : Option LinkFrame) (s : Secondary) : Turn :=
  match response with
  | some r => write m r s
  | none => done s

/-- What a request comes to when nothing is kept of the one before. -/
def afresh (m : Moment) (q : Request) (s : Secondary) : Turn :=
  match s.serve q.function q.payload with
  | none => write m .singleNack s
  | some service =>
    Turn.andThen ⟨after q service, service.events.map .reported, none⟩ (reply m service.response)

/-- A turn: what it is about and what it comes to. -/
inductive Takes (m : Moment) (s : Secondary) : Input → Turn → Prop
  | repeats {frame : LinkFrame} {q : Request} {r : LinkFrame} :
      frame.request? s.address = some q → s.kept? q.fcb q.fcv = some r →
      Takes m s (.frame frame) (write m r s)
  | rejects {frame : LinkFrame} {q : Request} :
      frame.request? s.address = some q → s.kept? q.fcb q.fcv = none →
      s.serve q.function q.payload = none → Takes m s (.frame frame) (write m .singleNack s)
  | serves {frame : LinkFrame} {q : Request} {service : Service} :
      frame.request? s.address = some q → s.kept? q.fcb q.fcv = none →
      s.serve q.function q.payload = some service →
      Takes m s (.frame frame) (Turn.andThen
        ⟨after q service, service.events.map .reported, none⟩ (reply m service.response))
  /-- The frame is not meant for this station alone. -/
  | overhears {frame : LinkFrame} (asdus : List Asdu) : frame.request? s.address = none →
      Takes m s (.frame frame) ⟨s, asdus.map fun asdu => .reported (.asduReceived asdu), none⟩
  | protests (fault : Fault) : Takes m s (.malformed fault) (write m .singleNack s)
  | queues {dataClass : DataClass} {payload : Octets} {request : Nat} :
      (s.queue dataClass).length < s.link.queueSize →
      Takes m s (.command (.enqueue dataClass payload request))
        (answer request .done (s.setQueue dataClass (s.queue dataClass ++ [payload])))
  | overflows {dataClass : DataClass} {payload : Octets} {request : Nat} :
      s.link.queueSize ≤ (s.queue dataClass).length →
      Takes m s (.command (.enqueue dataClass payload request))
        (answer request (.refused .queueFull) s)
  | closes : Takes m s (.command .close) (fail .localClose s)
  | abandons : Takes m s .abandoned (fail .localClose s)
  | breaks (fault : Fault) : Takes m s (.streamEnd (.fault fault)) (fail (.ofFault fault) s)
  | hangsUp {arrival : Arrival LinkFrame} : (∀ fault, arrival ≠ .fault fault) →
      Takes m s (.streamEnd arrival) (fail .remoteClosed s)

variable {m : Moment} {s : Secondary} {q : Request} {frame : LinkFrame} {r : LinkFrame}
  {input : Input} {service : Service}

lemma kept?_eq_some_iff {fcb fcv : Bool} : s.kept? fcb fcv = some r ↔
    fcv = true ∧ s.lastFcb = some fcb ∧ s.lastResponse = some r := by
  unfold kept?
  split
  · next h => simp [h]
  · next h => exact ⟨nofun, fun hrepeats => absurd ⟨hrepeats.1, hrepeats.2.1⟩ h⟩

lemma step_request (hsingle : s.link.isBroadcast s.address = false)
    (hq : frame.request? s.address = some q) :
    s.step m (.frame frame) = s.onRequest m q.function q.fcb q.fcv q.payload := by
  unfold LinkFrame.request? at hq
  split at hq
  · split at hq
    · next haddress =>
      obtain rfl := Option.some.inj hq
      simp [step, onFrame, haddress, hsingle]
    · exact nomatch hq
  · split at hq
    · next haddress =>
      obtain rfl := Option.some.inj hq
      simp [step, onFrame, haddress, hsingle]
    · exact nomatch hq
  · exact nomatch hq

lemma step_other (hq : frame.request? s.address = none) : ∃ asdus : List Asdu,
    s.step m (.frame frame) = ⟨s, asdus.map fun asdu => .reported (.asduReceived asdu), none⟩ := by
  have hbroadcast : ∀ function payload, ∃ asdus : List Asdu, s.onBroadcast function payload =
      ⟨s, asdus.map fun asdu => .reported (.asduReceived asdu), none⟩ := by
    intro function payload
    by_cases hdata : function = .userDataNoReply
    · exact ⟨(s.received payload).toList, if_pos hdata⟩
    · exact ⟨[], if_neg hdata⟩
  cases frame with
  | singleAck => exact ⟨[], rfl⟩
  | singleNack => exact ⟨[], rfl⟩
  | fixed control address =>
    cases control with
    | secondary function acd dfc => exact ⟨[], rfl⟩
    | primary function fcb fcv =>
      have hother : address ≠ s.address := by simpa [LinkFrame.request?] using hq
      by_cases hall : s.link.isBroadcast address = true
      · simpa [step, onFrame, hall] using hbroadcast function none
      · exact ⟨[], by simp [step, onFrame, hall, hother, done]⟩
  | userData control address payload =>
    cases control with
    | secondary function acd dfc => exact ⟨[], rfl⟩
    | primary function fcb fcv =>
      have hother : address ≠ s.address := by simpa [LinkFrame.request?] using hq
      by_cases hall : s.link.isBroadcast address = true
      · simpa [step, onFrame, hall] using hbroadcast function (some payload)
      · exact ⟨[], by simp [step, onFrame, hall, hother, done]⟩

lemma step_kept (hsingle : s.link.isBroadcast s.address = false)
    (hq : frame.request? s.address = some q) (hkept : s.kept? q.fcb q.fcv = some r) :
    s.step m (.frame frame) = write m r s := by
  simp only [step_request hsingle hq, onRequest, hkept]

lemma step_afresh (hsingle : s.link.isBroadcast s.address = false)
    (hq : frame.request? s.address = some q) (hkept : s.kept? q.fcb q.fcv = none) :
    s.step m (.frame frame) = s.afresh m q := by
  simp only [step_request hsingle hq, onRequest, hkept]
  rfl

theorem step_takes (hsingle : s.link.isBroadcast s.address = false) (m : Moment) (input : Input) :
    s.Takes m input (s.step m input) := by
  cases input with
  | frame frame =>
    cases hq : frame.request? s.address with
    | none =>
      obtain ⟨asdus, hstep⟩ := step_other (m := m) hq
      rw [hstep]
      exact .overhears asdus hq
    | some q =>
      cases hkept : s.kept? q.fcb q.fcv with
      | some r =>
        rw [step_kept hsingle hq hkept]
        exact .repeats hq hkept
      | none =>
        rw [step_afresh hsingle hq hkept, afresh]
        cases hserve : s.serve q.function q.payload with
        | none => exact .rejects hq hkept hserve
        | some service => exact .serves hq hkept hserve
  | malformed fault => exact .protests fault
  | streamEnd arrival =>
    cases arrival with
    | fault fault => exact .breaks fault
    | frame frame => exact .hangsUp nofun
    | ended => exact .hangsUp nofun
  | command command =>
    cases command with
    | close => exact .closes
    | enqueue dataClass payload request =>
      by_cases hfull : s.link.queueSize ≤ (s.queue dataClass).length
      · have hstep : s.step m (.command (.enqueue dataClass payload request)) =
            answer request (.refused .queueFull) s := by
          simp only [step, onCommand, enqueue, if_pos hfull]
        rw [hstep]
        exact .overflows hfull
      · have hstep : s.step m (.command (.enqueue dataClass payload request)) =
            answer request .done (s.setQueue dataClass (s.queue dataClass ++ [payload])) := by
          simp only [step, onCommand, enqueue, if_neg hfull]
        rw [hstep]
        exact .queues (Nat.lt_of_not_le hfull)
  | abandoned => exact .abandons

/-- What a turn makes of the station. -/
inductive Leaves (s : Secondary) : Input → Secondary → Prop
  | same {input : Input} : (input.request? s.address).bind s.served? = none → Leaves s input s
  | served {input : Input} {q : Request} {service : Service} :
      input.request? s.address = some q → s.served? q = some service →
      Leaves s input (after q service)
  | queued {dataClass : DataClass} {payload : Octets} {request : Nat} :
      (s.queue dataClass).length < s.link.queueSize →
      Leaves s (.command (.enqueue dataClass payload request))
        (s.setQueue dataClass (s.queue dataClass ++ [payload]))

@[simp] lemma write_state (m : Moment) (r : LinkFrame) (s : Secondary) :
    (write m r s).state = s := by
  unfold write Turn.write
  split <;> rfl

lemma wrote_of_mem_write {octets : Octets} {r' : LinkFrame}
    (h : .wrote r octets ∈ (write m r' s).output) :
    r' = r ∧ r.encode s.link.addressLength = .ok octets := by
  obtain ⟨octets', hencode, -, hwrite⟩ | ⟨fault, hwrite⟩ :=
    Turn.write_cases m r' (r'.encode s.link.addressLength) s
  · rw [write, hwrite] at h
    obtain ⟨rfl, rfl⟩ : r = r' ∧ octets = octets' := by simpa using h
    exact ⟨rfl, hencode⟩
  · rw [write, hwrite] at h
    exact nomatch h

@[simp] lemma reply_state (m : Moment) (response : Option LinkFrame) (s : Secondary) :
    (reply m response s).state = s := by
  cases response with
  | none => rfl
  | some r => exact write_state m r s

lemma serve_of_served (h : s.served? q = some service) :
    s.kept? q.fcb q.fcv = none ∧ s.serve q.function q.payload = some service := by
  unfold served? at h
  split at h
  · exact nomatch h
  · next hkept => exact ⟨hkept, h⟩

lemma step_served (hsingle : s.link.isBroadcast s.address = false)
    (hq : frame.request? s.address = some q) (hserved : s.served? q = some service) :
    (s.step m (.frame frame)).state = after q service := by
  obtain ⟨hkept, hserve⟩ := serve_of_served hserved
  simp only [step_afresh hsingle hq hkept, afresh, hserve, Turn.andThen_of_none]
  exact reply_state ..

lemma Takes.leaves {t : Turn} (h : s.Takes m input t) : s.Leaves input t.state := by
  cases h with
  | repeats hq hkept =>
    rw [write_state]
    exact .same (by simp [Input.request?, hq, served?, hkept])
  | rejects hq hkept hserve =>
    rw [write_state]
    exact .same (by simp [Input.request?, hq, served?, hkept, hserve])
  | serves hq hkept hserve =>
    rw [Turn.andThen_of_none rfl]
    dsimp only
    rw [reply_state]
    exact .served hq (by simp only [served?, hkept, hserve])
  | overhears asdus hq => exact .same (by simp [Input.request?, hq])
  | protests fault =>
    rw [write_state]
    exact .same rfl
  | queues hroom => exact .queued hroom
  | overflows | closes | abandons | breaks | hangsUp => exact .same rfl

theorem step_leaves (hsingle : s.link.isBroadcast s.address = false) (m : Moment) (input : Input) :
    s.Leaves input (s.step m input).state :=
  (step_takes hsingle m input).leaves

end Secondary

end Telecontrol
