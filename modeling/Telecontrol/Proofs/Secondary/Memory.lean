import Telecontrol.Proofs.Secondary.Course

/-!
# What a secondary station remembers

The frame count bit of the last numbered request and its response are kept until a numbered request
with the other bit is accepted or the link is reset, whatever else happens in between. So long a
numbered request with the same bit is answered with the same octets, and nothing else comes of it.
After a reset nothing is kept, and the next numbered request is served.
-/

namespace Telecontrol.Secondary

open Running (instruct receive)

/-- The response to the last numbered request, which had the bit. -/
structure Remembers (fcb : Bool) (r : LinkFrame) (s : Secondary) : Prop where
  numbered : s.lastFcb = some fcb
  kept : s.lastResponse = some r

variable {s s' t : Secondary} {q : Request} {service : Service} {r : LinkFrame} {fcb : Bool}
  {octets : Octets} {input : Input} {m : Moment}

lemma after_eq (hfcv : q.fcv = false) (service : Service) : after q service = service.state := by
  simp [after, remember, hfcv]

lemma after_remembers (hfcv : q.fcv = true) (hresponse : service.response = some r) :
    Remembers q.fcb r (after q service) := by
  simp [after, remember, hfcv, hresponse]
  exact ⟨rfl, rfl⟩

lemma kept_of_remembers (hs : Remembers fcb r s) : s.kept? fcb true = some r :=
  kept?_eq_some_iff.2 ⟨rfl, hs.numbered, hs.kept⟩

lemma kept_of_forgotten (hs : s.lastFcb = none) (fcb fcv : Bool) : s.kept? fcb fcv = none := by
  simp [kept?, hs]

lemma Leaves.remembers (h : s.Leaves input t) (hs : Remembers fcb r s)
    (hallowed : ∀ q, input.request? s.address = some q → (s.served? q).isSome →
      q.function ≠ .resetRemoteLink ∧ (q.fcv = true → q.fcb = fcb)) : Remembers fcb r t := by
  cases h with
  | same => exact hs
  | queued => cases ‹DataClass› <;> exact ⟨hs.numbered, hs.kept⟩
  | @served _ q service hq hserved =>
    obtain ⟨hkept, hserve⟩ := serve_of_served hserved
    obtain ⟨hfunction, hsame⟩ := hallowed q hq (by rw [hserved]; rfl)
    -- With the bit that is remembered, the request would have been answered as a repetition.
    have hfcv : q.fcv = false := by
      apply Bool.eq_false_iff.2
      intro hfcv
      rw [hfcv, hsame hfcv, kept_of_remembers hs] at hkept
      exact nomatch hkept
    rw [after_eq hfcv]
    obtain ⟨hnumbered, hresponse⟩ := serve_keeps hserve hfunction
    exact ⟨hnumbered.trans hs.numbered, hresponse.trans hs.kept⟩

lemma Leaves.forgotten (h : s.Leaves input t) (hs : s.lastFcb = none)
    (hallowed : ∀ q, input.request? s.address = some q → (s.served? q).isSome → q.fcv = false) :
    t.lastFcb = none := by
  cases h with
  | same => exact hs
  | queued => cases ‹DataClass› <;> exact hs
  | @served _ q service hq hserved =>
    obtain ⟨-, hserve⟩ := serve_of_served hserved
    rw [after_eq (hallowed q hq (by rw [hserved]; rfl))]
    by_cases hfunction : q.function = .resetRemoteLink
    · rw [hfunction] at hserve
      exact (serve_forgets hserve).1
    · exact (serve_keeps hserve hfunction).1.trans hs

lemma path_remembers {ending ending' : Option CloseReason} {later : List Record}
    (h : Running.Path conduct s ending later s' ending')
    (hsingle : s.link.isBroadcast s.address = false) (hs : Remembers fcb r s)
    (hallowed : ∀ e ∈ later, ∀ q ∈ accepted? e,
      q.function ≠ .resetRemoteLink ∧ (q.fcv = true → q.fcb = fcb)) : Remembers fcb r s' := by
  induction h with
  | nil => exact hs
  | @cons s _ _ _ m input mail _ _ ih =>
    have hleaves := step_leaves hsingle m input
    rw [left_eq] at ih
    obtain ⟨hfirst, hlater⟩ := List.forall_mem_cons.1 hallowed
    apply ih (hleaves.same_parameters.single hsingle) _ hlater
    apply hleaves.remembers hs
    intro q hq hserved
    exact hfirst q (mem_accepted.2 ⟨hq, hserved⟩)

lemma path_forgotten {ending ending' : Option CloseReason} {later : List Record}
    (h : Running.Path conduct s ending later s' ending')
    (hsingle : s.link.isBroadcast s.address = false) (hs : s.lastFcb = none)
    (hallowed : ∀ e ∈ later, ∀ q ∈ accepted? e, q.fcv = false) : s'.lastFcb = none := by
  induction h with
  | nil => exact hs
  | @cons s _ _ _ m input mail _ _ ih =>
    have hleaves := step_leaves hsingle m input
    rw [left_eq] at ih
    obtain ⟨hfirst, hlater⟩ := List.forall_mem_cons.1 hallowed
    apply ih (hleaves.same_parameters.single hsingle) _ hlater
    apply hleaves.forgotten hs
    intro q hq hserved
    exact hfirst q (mem_accepted.2 ⟨hq, hserved⟩)

lemma response_of_wrote {frame : LinkFrame} (hsingle : s.link.isBroadcast s.address = false)
    (hq : frame.request? s.address = some q) (hkept : s.kept? q.fcb q.fcv = none)
    (hwrote : .wrote r octets ∈ (s.step m (.frame frame)).output) (hr : r ≠ .singleNack) :
    ∃ service, s.served? q = some service ∧ service.response = some r ∧
      r.encode s.link.addressLength = .ok octets := by
  rw [step_afresh hsingle hq hkept, afresh] at hwrote
  cases hserve : s.serve q.function q.payload with
  | none =>
    rw [hserve] at hwrote
    exact absurd (wrote_of_mem_write hwrote).1.symm hr
  | some service =>
    simp only [hserve, Turn.andThen_of_none] at hwrote
    have hreply : .wrote r octets ∈ (reply m service.response (after q service)).output := by
      simpa using hwrote
    cases hresponse : service.response with
    | none =>
      rw [hresponse] at hreply
      cases hreply
    | some r' =>
      rw [hresponse] at hreply
      obtain ⟨rfl, hencode⟩ := wrote_of_mem_write hreply
      have hsame : s.Same (after q service) := (serve_same hserve).trans (remember_same ..)
      rw [hsame.link] at hencode
      exact ⟨service, by simp only [served?, hkept, hserve], hresponse, hencode⟩

section

variable {ending ending' : Option CloseReason} {earlier later : List Record} {e : Record}
  (hsingle : s.link.isBroadcast s.address = false)
  (hpath : Running.Path conduct s ending (earlier ++ e :: later) s' ending')

include hsingle hpath

lemma repeats_of_path (hq : asked? e = some q) (hfcv : q.fcv = true)
    (hkept : e.station.kept? q.fcb q.fcv = none) (hwrote : .wrote r octets ∈ e.output)
    (hr : r ≠ .singleNack)
    (hallowed : ∀ e' ∈ later, ∀ q' ∈ accepted? e',
      q'.function ≠ .resetRemoteLink ∧ (q'.fcv = true → q'.fcb = q.fcb)) :
    Remembers q.fcb r s' ∧ r.encode s'.link.addressLength = .ok octets := by
  obtain ⟨m, mail, hstation, houtput, hsame, hlater⟩ := path_through hsingle hpath
  have hstation_single := hstation.single hsingle
  obtain ⟨frame, hinput, hq⟩ := frame_of_asked hq
  rw [hinput] at houtput hlater
  rw [houtput, wrote_mem_issued] at hwrote
  obtain ⟨service, hserved, hresponse, hencode⟩ :=
    response_of_wrote hstation_single hq hkept hwrote hr
  rw [step_served hstation_single hq hserved] at hlater
  have hafter := (after_same hserved).single hstation_single
  constructor
  · exact path_remembers hlater hafter (after_remembers hfcv hresponse) hallowed
  · rwa [hsame.link, ← hstation.link]

lemma forgets_of_path (hq : asked? e = some q) (hfunction : q.function = .resetRemoteLink)
    (hfcv : q.fcv = false) (hallowed : ∀ e' ∈ later, ∀ q' ∈ accepted? e', q'.fcv = false) :
    s'.lastFcb = none := by
  obtain ⟨m, mail, hstation, houtput, hsame, hlater⟩ := path_through hsingle hpath
  have hstation_single := hstation.single hsingle
  obtain ⟨frame, hinput, hq⟩ := frame_of_asked hq
  rw [hinput] at hlater
  cases hserve : e.station.serve q.function q.payload with
  | none =>
    rw [hfunction] at hserve
    exact nomatch hserve
  | some service =>
    have hserved : e.station.served? q = some service := by simp [served?, kept?, hfcv, hserve]
    rw [step_served hstation_single hq hserved] at hlater
    have hafter := (after_same hserved).single hstation_single
    rw [hfunction] at hserve
    apply path_forgotten hlater hafter _ hallowed
    rw [after_eq hfcv]
    exact (serve_forgets hserve).1

end

/-- The answer to a numbered request is given again, octet by octet, to every numbered request with
the same bit, and nothing else comes of these, until the link is reset or a numbered request with
the other bit is accepted. After a reset that is not numbered the next numbered request is
served. -/
theorem numbered_request_remembered {address : Nat} {link : LinkParameters} {widths : FieldWidths}
    {actions : List Action} {run : Run} {before later : List Record} {e : Record}
    (hstart : start address link widths = .ok s)
    (hrun : (launch s).run conduct actions = some run) (hpast : run.past = before ++ e :: later)
    (hq : asked? e = some q) :
    (q.fcv = true → e.station.kept? q.fcb q.fcv = none →
      ∀ r octets, .wrote r octets ∈ e.output → r ≠ .singleNack →
      (∀ e' ∈ later, ∀ q' ∈ accepted? e',
        q'.function ≠ .resetRemoteLink ∧ (q'.fcv = true → q'.fcb = q.fcb)) →
      ∀ m frame q', frame.request? address = some q' → q'.fcv = true → q'.fcb = q.fcb →
        run.station.step m (.frame frame) = Turn.write m r (.ok octets) run.station) ∧
    (q.function = .resetRemoteLink → q.fcv = false →
      (∀ e' ∈ later, ∀ q' ∈ accepted? e', q'.fcv = false) →
      ∀ m frame q', frame.request? address = some q' → q'.fcv = true →
        run.station.step m (.frame frame) = run.station.afresh m q') := by
  obtain ⟨hsound, ⟨haddress, -, -⟩, -⟩ := start_sound hstart
  have hpath := path_of_run hrun
  have hend := (path_same hsound.single hpath).1
  have hsingle := hend.single hsound.single
  rw [hpast] at hpath
  have hasks : ∀ (frame : LinkFrame) q', frame.request? address = some q' →
      frame.request? run.station.address = some q' := by
    intro frame q' hq'
    rwa [hend.address, haddress]
  constructor
  · intro hfcv hkept r octets hwrote hr hallowed m frame q' hq' hfcv' hfcb
    obtain ⟨hremembers, hencode⟩ :=
      repeats_of_path hsound.single hpath hq hfcv hkept hwrote hr hallowed
    have hkept' : run.station.kept? q'.fcb q'.fcv = some r := by
      rw [hfcv', hfcb]
      exact kept_of_remembers hremembers
    rw [step_kept hsingle (hasks frame q' hq') hkept', write, hencode]
  · intro hfunction hfcv hallowed m frame q' hq' _
    have hforgotten := forgets_of_path hsound.single hpath hq hfunction hfcv hallowed
    exact step_afresh hsingle (hasks frame q' hq') (kept_of_forgotten hforgotten ..)

/-- Data of both classes is queued, the link is reset, and class 2 data is asked for. The status is
asked for then, user data is sent to all stations and to another one, octets are lost, user data
with the other bit cannot be read, and more data is queued. -/
def pollThenNoise : List Action :=
  [instruct (.enqueue .class1 [1] 0), instruct (.enqueue .class2 [2] 1),
    receive 1 (.request .resetRemoteLink false 3), receive 1 (.request .requestClass2 true 3),
    receive 1 (.request .requestLinkStatus false 3),
    receive 1 (.userData (.request .userDataNoReply false) 255 [7]),
    receive 1 (.userData (.request .userDataConfirmed false) 4 [7]), [.arrive [0], .read],
    receive 1 (.userData (.request .userDataConfirmed false) 3 [7]),
    instruct (.enqueue .class2 [4] 2)].flatten

/-- The link is reset and the status is asked for. -/
def resetThenStatus : List Action :=
  [receive 1 (.request .resetRemoteLink false 3),
    receive 1 (.request .requestLinkStatus false 3)].flatten

def afterNoise : Run := ((launch usual).run conduct pollThenNoise).getD (launch usual)

def afterReset : Run :=
  ((launch usual).run conduct (pollThenNoise ++ resetThenStatus)).getD (launch usual)

/-- The poll is answered once more after the noise, although other data waits now. After the reset
the same bit asks for the next data. -/
theorem poll_remembered_until_reset :
    start 3 {} .serial = .ok usual ∧
      (launch usual).run conduct pollThenNoise = some afterNoise ∧
      (∀ m, afterNoise.station.step m (.frame (.request .requestClass2 true 3)) =
        Turn.write m (.userData (.response .respUserData true) 3 [2])
          (.ok [0x68, 3, 3, 0x68, 0x28, 3, 2, 0x2D, 0x16]) afterNoise.station) ∧
      (launch usual).run conduct (pollThenNoise ++ resetThenStatus) = some afterReset ∧
      (∀ m, afterReset.station.step m (.frame (.request .requestClass2 true 3)) =
        afterReset.station.afresh m ⟨.requestClass2, true, true, none⟩) ∧
      afterReset.station.queue .class2 = [[4]] := by
  have hstart : start 3 {} .serial = .ok usual := rfl
  have hnoise : (launch usual).run conduct pollThenNoise = some afterNoise := by decide +kernel
  have hreset : (launch usual).run conduct (pollThenNoise ++ resetThenStatus) =
      some afterReset := by
    decide +kernel
  have hpoll : afterNoise.past = afterNoise.past.take 3 ++
      afterNoise.past.get ⟨3, by decide +kernel⟩ :: afterNoise.past.drop 4 := rfl
  have hpast : afterReset.past = afterReset.past.take 10 ++
      afterReset.past.get ⟨10, by decide +kernel⟩ :: afterReset.past.drop 11 := rfl
  have hrepeats := (numbered_request_remembered (q := ⟨.requestClass2, true, true, none⟩)
    hstart hnoise hpoll (by decide +kernel)).1 rfl (by decide +kernel)
    (.userData (.response .respUserData true) 3 [2]) [0x68, 3, 3, 0x68, 0x28, 3, 2, 0x2D, 0x16]
    (by decide +kernel) (by decide) (by decide +kernel)
  have hserves := (numbered_request_remembered (q := ⟨.resetRemoteLink, false, false, none⟩)
    hstart hreset hpast (by decide +kernel)).2 rfl rfl (by decide +kernel)
  exact ⟨hstart, hnoise, fun m => hrepeats m _ _ rfl rfl rfl, hreset,
    fun m => hserves m _ _ rfl rfl, by decide +kernel⟩

end Telecontrol.Secondary
