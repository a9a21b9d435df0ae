import Telecontrol.Proofs.Secondary.Ledger

/-!
# Responses of a secondary station

Every response that a secondary station can come to fits a frame: those that it makes up, the one
that it keeps, and the data that its application has handed over.
-/

namespace Telecontrol

namespace Secondary

/-- The frames that a turn hands to the encoder. -/
def handed (input : Input) (s : Secondary) : List LinkFrame :=
  match input with
  | .frame frame =>
    match frame.request? s.address with
    | none => []
    | some q =>
      match s.kept? q.fcb q.fcv with
      | some r => [r]
      | none =>
        match s.serve q.function q.payload with
        | none => [.singleNack]
        | some service => service.response.toList
  | .malformed _ => [.singleNack]
  | _ => []

/-- The reason with which a station ends if the line works. -/
def Input.ending? : Input → Option CloseReason
  | .command .close | .abandoned => some .localClose
  | .streamEnd (.fault f) => some (.ofFault f)
  | .streamEnd _ => some .remoteClosed
  | _ => none

/-- Whatever the station may have to write fits a frame. -/
structure Fit (s : Secondary) : Prop where
  fits : s.address ≤ maxLinkAddress s.link.addressLength
  single : s.link.isBroadcast s.address = false
  kept : ∀ r, s.lastResponse = some r → ∃ octets, r.encode s.link.addressLength = .ok octets
  queued : ∀ dataClass, ∀ payload ∈ s.queue dataClass,
    LinkFrame.Holds s.link.addressLength payload

variable {s s' : Secondary} {t : Turn} {m : Moment} {input : Input} {q : Request}
  {service : Service} {r : LinkFrame}

lemma encode_respond (h : s.address ≤ maxLinkAddress s.link.addressLength)
    (function : SecondaryFunction) :
    ∃ octets, (s.respond function).encode s.link.addressLength = .ok octets :=
  LinkFrame.encode_fixed _ h

lemma encode_acknowledgment (h : s.address ≤ maxLinkAddress s.link.addressLength) :
    ∃ octets, s.acknowledgment.encode s.link.addressLength = .ok octets := by
  unfold acknowledgment
  split
  · exact ⟨_, rfl⟩
  · exact encode_respond h .ack

lemma Fit.encode_data (hs : s.Fit) (dataClass : DataClass)
    (hr : (serveData dataClass s).response = some r) :
    ∃ octets, r.encode s.link.addressLength = .ok octets := by
  unfold serveData at hr
  cases hqueue : s.queue dataClass with
  | nil =>
    simp only [hqueue] at hr
    obtain rfl := Option.some.inj hr
    split
    · exact ⟨_, rfl⟩
    · exact encode_respond hs.fits .respNackNoData
  | cons payload rest =>
    simp only [hqueue] at hr
    obtain rfl := Option.some.inj hr
    have hholds := hs.queued dataClass payload (by rw [hqueue]; exact List.mem_cons_self)
    rw [(setQueue_same dataClass rest).address]
    exact LinkFrame.encode_userData _ hs.fits hholds

lemma Fit.encode_response {function : PrimaryFunction} {payload : Option Octets} (hs : s.Fit)
    (h : s.serve function payload = some service) (hr : service.response = some r) :
    ∃ octets, r.encode s.link.addressLength = .ok octets := by
  cases function with
  | resetRemoteLink | resetUserProcess | testFunctionLink =>
    obtain rfl := Option.some.inj h
    obtain rfl := Option.some.inj hr
    exact encode_acknowledgment hs.fits
  | userDataConfirmed =>
    obtain ⟨asdu, -, rfl⟩ := Option.map_eq_some_iff.1 h
    obtain rfl := Option.some.inj hr
    exact encode_acknowledgment hs.fits
  | userDataNoReply =>
    obtain rfl := Option.some.inj h
    exact nomatch hr
  | requestLinkStatus | requestAccessDemand =>
    obtain rfl := Option.some.inj h
    obtain rfl := Option.some.inj hr
    exact encode_respond hs.fits .statusOfLink
  | requestClass1 | requestClass2 =>
    obtain rfl := Option.some.inj h
    exact hs.encode_data _ hr

lemma Fit.encode_handed (hs : s.Fit) (h : r ∈ s.handed input) :
    ∃ octets, r.encode s.link.addressLength = .ok octets := by
  cases input with
  | frame frame =>
    simp only [handed] at h
    split at h
    · exact nomatch h
    split at h
    · next r' hkept =>
      obtain rfl := List.mem_singleton.1 h
      exact hs.kept r (kept?_eq_some_iff.1 hkept).2.2
    split at h
    · obtain rfl := List.mem_singleton.1 h
      exact ⟨_, rfl⟩
    · next service hserve =>
      exact hs.encode_response hserve (Option.mem_toList.1 h)
  | malformed fault =>
    obtain rfl := List.mem_singleton.1 h
    exact ⟨_, rfl⟩
  | _ => exact nomatch h

lemma write_sound (hm : m.writeFault = none)
    (hr : ∃ octets, r.encode s.link.addressLength = .ok octets) :
    (write m r s).frames = [r] ∧ (write m r s).ending = none := by
  obtain ⟨octets, hencode⟩ := hr
  rw [write, hencode, Turn.write_sound s hm]
  exact ⟨rfl, rfl⟩

lemma reply_sound {response : Option LinkFrame} (hm : m.writeFault = none)
    (hr : ∀ r, response = some r → ∃ octets, r.encode s.link.addressLength = .ok octets) :
    (reply m response s).frames = response.toList ∧ (reply m response s).ending = none := by
  cases response with
  | none => exact ⟨rfl, rfl⟩
  | some r => exact write_sound hm (hr r rfl)

/-- If the line works, a turn writes exactly what it hands to the encoder, and the station ends only
if that is what the turn is about. -/
lemma Takes.sound (h : s.Takes m input t) (hs : s.Fit) (hm : m.writeFault = none) :
    t.frames = s.handed input ∧ t.ending = input.ending? := by
  cases h with
  | repeats hq hkept =>
    simp only [handed, hq, hkept]
    exact write_sound hm (hs.kept _ (kept?_eq_some_iff.1 hkept).2.2)
  | rejects hq hkept hserve =>
    simp only [handed, hq, hkept, hserve]
    exact write_sound hm ⟨_, rfl⟩
  | @serves _ q service hq hkept hserve =>
    have hsame : s.Same (after q service) := (serve_same hserve).trans (remember_same ..)
    have hreply : (reply m service.response (after q service)).frames = service.response.toList ∧
        (reply m service.response (after q service)).ending = none := by
      apply reply_sound hm
      rw [hsame.link]
      exact fun r hr => hs.encode_response hserve hr
    simp only [handed, hq, hkept, hserve, Turn.andThen_of_none]
    refine ⟨?_, hreply.2⟩
    rw [← hreply.1]
    simp [Turn.frames, Output.frame?]
  | overhears asdus hq =>
    simp only [handed, hq]
    refine ⟨?_, rfl⟩
    simp [Turn.frames, Output.frame?]
  | protests fault => exact write_sound hm ⟨_, rfl⟩
  | @hangsUp arrival harrival =>
    refine ⟨rfl, ?_⟩
    cases arrival with
    | fault fault => exact absurd rfl (harrival fault)
    | frame | ended => rfl
  | queues | overflows | closes | abandons | breaks => exact ⟨rfl, rfl⟩

lemma Fit.encode_after (hs : s.Fit) (h : s.served? q = some service)
    (hr : (after q service).lastResponse = some r) :
    ∃ octets, r.encode s.link.addressLength = .ok octets := by
  have hserve := (serve_of_served h).2
  unfold after remember at hr
  split at hr
  · exact hs.encode_response hserve hr
  · by_cases hfunction : q.function = .resetRemoteLink
    · rw [hfunction] at hserve
      rw [(serve_forgets hserve).2] at hr
      exact nomatch hr
    · rw [(serve_keeps hserve hfunction).2] at hr
      exact hs.kept r hr

lemma Leaves.fit (h : s.Leaves input s') (hs : s.Fit)
    (hinput : ∀ dataClass payload request, input = .command (.enqueue dataClass payload request) →
      LinkFrame.Holds s.link.addressLength payload) : s'.Fit := by
  have hsame := h.same_parameters
  constructor
  · rw [hsame.address, hsame.link]
    exact hs.fits
  · exact hsame.single hs.single
  · rw [hsame.link]
    cases h with
    | same => exact hs.kept
    | served _ hserved => exact fun r hr => hs.encode_after hserved hr
    | queued => cases ‹DataClass› <;> exact hs.kept
  · rw [hsame.link]
    cases h with
    | same => exact hs.queued
    | served _ hserved =>
      intro dataClass payload hmem
      apply hs.queued dataClass
      rw [serve_queue dataClass (serve_of_served hserved).2]
      rw [after, queue_remember] at hmem
      exact List.mem_append_right _ hmem
    | @queued changed added request _ =>
      intro dataClass payload hmem
      rw [queue_setQueue] at hmem
      split at hmem
      · rcases List.mem_append.1 hmem with hold | hnew
        · exact hs.queued changed payload hold
        · obtain rfl := List.mem_singleton.1 hnew
          exact hinput changed payload request rfl
      · exact hs.queued dataClass payload hmem

end Secondary

end Telecontrol
