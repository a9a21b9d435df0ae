import Telecontrol.Proofs.Ft12.Exchange
import Telecontrol.Secondary.Step

/-!
# Turns of a secondary station

What a secondary station does with a numbered request depends on the frame count bit alone: with the
bit of the last request it repeats its response and leaves everything as it is, with the other bit,
or after a reset, it serves the request. Nothing that it is asked by the primary station ends it or
makes it refuse.
-/

namespace Telecontrol.Secondary

open Telecontrol.Turn (Yields)

/-- The ASDUs that wait in the queue of a class. -/
def waiting (s : Secondary) (dataClass : DataClass) : List Asdu :=
  (s.queue dataClass).filterMap fun payload => (Asdu.decode s.widths payload).toOption

/-- The ASDUs that have been taken from the front of the queues since an earlier state. -/
def taken (s later : Secondary) : List Asdu :=
  (s.class1.take (s.class1.length - later.class1.length) ++
    s.class2.take (s.class2.length - later.class2.length)).filterMap
      fun payload => (Asdu.decode s.widths payload).toOption

/-- The octets can be sent and are an ASDU of the class. -/
def Carries (s : Secondary) (dataClass : DataClass) (payload : Octets) : Prop :=
  LinkFrame.Holds s.link.addressLength payload ∧
    ∃ asdu, Asdu.decode s.widths payload = .ok asdu ∧ asdu.dataClass = dataClass

/-- The address is one of a single station, the response that was kept is one to the primary
station, and what waits can be sent. -/
structure Sound (s : Secondary) : Prop where
  fits : s.address ≤ maxLinkAddress s.link.addressLength
  single : s.link.isBroadcast s.address = false
  kept : ∀ fcb, s.lastFcb = some fcb →
    ∃ r, s.lastResponse = some r ∧ r.Answers s.link.addressLength s.address
  queued : ∀ dataClass, ∀ payload ∈ s.queue dataClass, s.Carries dataClass payload

/-- The station is the same, with the same parameters. -/
structure Same (s s' : Secondary) : Prop where
  address : s'.address = s.address
  link : s'.link = s.link
  widths : s'.widths = s.widths

/-- A demand is served afresh: the response is kept, and carries what is taken from the queues. -/
structure Serves (d : Demand) (fcb : Bool) (r : LinkFrame) (s s' : Secondary) : Prop where
  same : s.Same s'
  sound : s'.Sound
  numbered : s'.lastFcb = some fcb
  kept : s'.lastResponse = some r
  taken : s.taken s' = r.asdus s.widths
  waiting : ∀ dataClass, s.waiting dataClass =
    (r.asdus s.widths).filter (·.dataClass = dataClass) ++ s'.waiting dataClass
  acknowledges : ∀ request asdu payload, d = .deliver request asdu payload → r.isAck

variable {s : Secondary} {m : Moment} {d : Demand} {fcb fcv : Bool} {r : LinkFrame}
  {function : PrimaryFunction} {payload : Option Octets}

lemma Same.refl (s : Secondary) : s.Same s := ⟨rfl, rfl, rfl⟩

lemma taken_eq_nil {s' : Secondary} (h : ∀ dataClass, s'.queue dataClass = s.queue dataClass) :
    s.taken s' = [] := by
  have h1 : s'.class1 = s.class1 := h .class1
  have h2 : s'.class2 = s.class2 := h .class2
  simp [taken, h1, h2]

lemma taken_self (s : Secondary) : s.taken s = [] := taken_eq_nil fun _ => rfl

lemma waiting_eq {s' : Secondary} (hsame : s.Same s')
    (h : ∀ dataClass, s'.queue dataClass = s.queue dataClass) (dataClass : DataClass) :
    s'.waiting dataClass = s.waiting dataClass := by
  rw [waiting, waiting, h, hsame.widths]

lemma answers_acknowledgment (hs : s.Sound) :
    s.acknowledgment.Answers s.link.addressLength s.address := by
  unfold acknowledgment
  split
  · exact LinkFrame.answers_singleAck
  · exact LinkFrame.answers_response _ hs.fits nofun

lemma isAck_acknowledgment (s : Secondary) : s.acknowledgment.isAck = true := by
  unfold acknowledgment
  split <;> rfl

lemma asdus_acknowledgment (s : Secondary) (widths : FieldWidths) :
    s.acknowledgment.asdus widths = [] := by
  unfold acknowledgment
  split <;> rfl

lemma onRequest_serve {t : Secondary} {events : List Event} (hm : m.writeFault = none)
    (hkept : s.kept? fcb fcv = none) (hserve : s.serve function payload = some ⟨t, events, some r⟩)
    (hsame : t.link = s.link) (hr : ∃ octets, r.encode s.link.addressLength = .ok octets) :
    (s.onRequest m function fcb fcv payload).Yields s.link.addressLength
      (t.remember fcb fcv (some r)) [r]
      ((events.map Output.reported : List (Output LinkFrame)).filterMap Output.asdu?) [] := by
  have hlink : (t.remember fcb fcv (some r)).link = s.link := by
    unfold remember
    split <;> exact hsame
  have hwrite : (write m r (t.remember fcb fcv (some r))).Yields s.link.addressLength
      (t.remember fcb fcv (some r)) [r] [] [] := by
    rw [write, hlink]
    exact Turn.yields_write hm hr _
  have hboth : (Turn.andThen ⟨t.remember fcb fcv (some r), events.map .reported, none⟩
      (write m r)).Yields s.link.addressLength _ _ _ _ :=
    (Turn.yields_reports events _).andThen hwrite
  rw [List.append_nil] at hboth
  simp only [onRequest, hkept, hserve]
  exact hboth

lemma step_fixed (hs : s.Sound) :
    s.step m (.frame (.fixed (.primary function fcb fcv) s.address)) =
      s.onRequest m function fcb fcv none := by
  simp [step, onFrame, hs.single]

lemma step_userData (hs : s.Sound) (octets : Octets) :
    s.step m (.frame (.userData (.primary function fcb fcv) s.address octets)) =
      s.onRequest m function fcb fcv (some octets) := by
  simp [step, onFrame, hs.single]

lemma step_demand (hs : s.Sound) (m : Moment) (d : Demand) (fcb : Bool) :
    s.step m (.frame (d.frame s.address fcb)) =
      match d with
      | .deliver _ _ payload => s.onRequest m .userDataConfirmed fcb true (some payload)
      | .fetch dataClass =>
        s.onRequest m (Primary.requestFunction dataClass) fcb true none := by
  cases d with
  | deliver request asdu payload =>
    simp only [Demand.frame, ControlField.request, PrimaryFunction.isCounted, Bool.and_true]
    exact step_userData hs payload
  | fetch dataClass =>
    cases dataClass <;>
      simp only [Demand.frame, ControlField.request, Primary.requestFunction,
        PrimaryFunction.isCounted, Bool.and_true] <;>
      exact step_fixed hs

lemma step_again (hs : s.Sound) (hm : m.writeFault = none) (d : Demand)
    (hlast : s.lastFcb = some fcb) (hr : s.lastResponse = some r) :
    (s.step m (.frame (d.frame s.address fcb))).Yields s.link.addressLength s [r] [] [] := by
  obtain ⟨r', hr', hanswers⟩ := hs.kept fcb hlast
  obtain rfl : r = r' := by simpa [hr] using hr'
  have hkept : s.kept? fcb true = some r := by simp [kept?, hlast, hr]
  have hwrite : (write m r s).Yields s.link.addressLength s [r] [] [] :=
    Turn.yields_write hm hanswers.written s
  rw [step_demand hs]
  cases d <;> simpa only [onRequest, hkept] using hwrite

lemma Sound.transfer {t : Secondary} (hs : s.Sound) (hsame : s.Same t)
    (hkept : ∀ fcb, t.lastFcb = some fcb →
      ∃ r, t.lastResponse = some r ∧ r.Answers s.link.addressLength s.address)
    (hqueued : ∀ dataClass, ∀ octets ∈ t.queue dataClass, s.Carries dataClass octets) :
    t.Sound := by
  obtain ⟨haddress, hlink, hwidths⟩ := hsame
  refine ⟨?_, ?_, ?_, ?_⟩
  · rw [haddress, hlink]
    exact hs.fits
  · rw [haddress, hlink]
    exact hs.single
  · rw [haddress, hlink]
    exact hkept
  · intro dataClass octets hmem
    rw [Carries, hlink, hwidths]
    exact hqueued dataClass octets hmem

lemma Sound.remember {t : Secondary} (hs : s.Sound) (hsame : s.Same t)
    (hr : r.Answers s.link.addressLength s.address)
    (hqueued : ∀ dataClass, ∀ octets ∈ t.queue dataClass, octets ∈ s.queue dataClass) :
    (t.remember fcb true (some r)).Sound := by
  refine hs.transfer ⟨hsame.address, hsame.link, hsame.widths⟩ (fun _ _ => ⟨r, rfl, hr⟩) ?_
  intro dataClass octets hmem
  exact hs.queued dataClass octets (hqueued dataClass octets (by cases dataClass <;> exact hmem))

lemma serves_deliver {request : Nat} {asdu : Asdu} {octets : Octets} (hs : s.Sound) :
    Serves (.deliver request asdu octets) fcb s.acknowledgment s
      (s.remember fcb true (some s.acknowledgment)) where
  same := ⟨rfl, rfl, rfl⟩
  sound := hs.remember (.refl s) (answers_acknowledgment hs) fun _ _ hmem => hmem
  numbered := rfl
  kept := rfl
  taken := by
    rw [asdus_acknowledgment]
    exact taken_self s
  waiting dataClass := by
    rw [asdus_acknowledgment]
    cases dataClass <;> rfl
  acknowledges _ _ _ _ := isAck_acknowledgment s

lemma serves_next {dataClass : DataClass} {octets : Octets} {others : List Octets} (fcb : Bool)
    (hs : s.Sound) (hqueue : s.queue dataClass = octets :: others) :
    let t := s.setQueue dataClass others
    let r := LinkFrame.userData (.response .respUserData t.accessDemand) t.address octets
    Serves (.fetch dataClass) fcb r s (t.remember fcb true (some r)) := by
  obtain ⟨hholds, asdu, hdecode, hclass⟩ :=
    hs.queued dataClass octets (by rw [hqueue]; exact List.mem_cons_self)
  have hasdus : (LinkFrame.userData (.response .respUserData
      (s.setQueue dataClass others).accessDemand) (s.setQueue dataClass others).address
        octets).asdus s.widths = [asdu] := by
    simp [LinkFrame.asdus, hdecode, Except.toOption]
  have hsame : s.Same (s.setQueue dataClass others) := by cases dataClass <;> exact ⟨rfl, rfl, rfl⟩
  refine ⟨?_, hs.remember hsame ?_ ?_, rfl, rfl, ?_, ?_, by simp⟩
  · cases dataClass <;> exact ⟨rfl, rfl, rfl⟩
  · rw [hsame.address]
    exact LinkFrame.answers_userData _ hs.fits hholds
  · intro other o hmem
    cases dataClass <;> cases other <;>
      simp only [setQueue, queue] at hmem hqueue ⊢ <;> simp_all
  · rw [hasdus]
    cases dataClass <;> simp only [queue] at hqueue <;>
      simp [taken, remember, setQueue, hqueue, hdecode, Except.toOption]
  · intro other
    rw [hasdus]
    cases dataClass <;> cases other <;> simp only [queue] at hqueue <;>
      simp [waiting, queue, remember, setQueue, hqueue, hdecode, hclass, Except.toOption]

lemma serves_none {dataClass : DataClass} (hs : s.Sound)
    (hr : r.Answers s.link.addressLength s.address) (hasdus : r.asdus s.widths = []) :
    Serves (.fetch dataClass) fcb r s (s.remember fcb true (some r)) where
  same := ⟨rfl, rfl, rfl⟩
  sound := hs.remember (.refl s) hr fun _ _ hmem => hmem
  numbered := rfl
  kept := rfl
  taken := by
    rw [hasdus]
    exact taken_self s
  waiting other := by
    rw [hasdus]
    cases other <;> rfl
  acknowledges := by simp

lemma step_fresh (hs : s.Sound) (hm : m.writeFault = none)
    (hproper : d.Proper s.link.addressLength s.widths) (hlast : s.lastFcb ≠ some fcb) :
    ∃ r s', Serves d fcb r s s' ∧
      (s.step m (.frame (d.frame s.address fcb))).Yields s.link.addressLength s' [r] d.delivery
        [] := by
  have hkept : s.kept? fcb true = none := by simp [kept?, hlast]
  rw [step_demand hs]
  cases d with
  | deliver request asdu octets =>
    have hserve : s.serve .userDataConfirmed (some octets) =
        some ⟨s, [.asduReceived asdu], some s.acknowledgment⟩ := by
      simp [serve, received, hproper.1, Except.toOption]
    exact ⟨_, _, serves_deliver hs,
      onRequest_serve hm hkept hserve rfl (answers_acknowledgment hs).written⟩
  | fetch dataClass =>
    have hserve : s.serve (Primary.requestFunction dataClass) none =
        some (serveData dataClass s) := by
      cases dataClass <;> rfl
    cases hqueue : s.queue dataClass with
    | nil =>
      by_cases hsingle : s.usesSingleChar = true
      · have hservice : serveData dataClass s = ⟨s, [], some .singleAck⟩ := by
          simp [serveData, hqueue, hsingle]
        rw [hservice] at hserve
        have hr : LinkFrame.singleAck.Answers s.link.addressLength s.address :=
          LinkFrame.answers_singleAck
        exact ⟨_, _, serves_none hs hr rfl, onRequest_serve hm hkept hserve rfl hr.written⟩
      · have hservice : serveData dataClass s = ⟨s, [], some (s.respond .respNackNoData)⟩ := by
          simp [serveData, hqueue, hsingle]
        rw [hservice] at hserve
        have hr : (s.respond .respNackNoData).Answers s.link.addressLength s.address :=
          LinkFrame.answers_response _ hs.fits nofun
        exact ⟨_, _, serves_none hs hr rfl, onRequest_serve hm hkept hserve rfl hr.written⟩
    | cons octets others =>
      have hservice : serveData dataClass s =
          ⟨s.setQueue dataClass others, [], some (.userData (.response .respUserData
            (s.setQueue dataClass others).accessDemand) (s.setQueue dataClass others).address
              octets)⟩ := by
        simp [serveData, hqueue]
      rw [hservice] at hserve
      have hlink : (s.setQueue dataClass others).link = s.link := by cases dataClass <;> rfl
      have hserves := serves_next fcb hs hqueue
      obtain ⟨r, hr, hanswers⟩ := hserves.sound.kept fcb rfl
      obtain rfl : _ = r := Option.some.inj hr
      refine ⟨_, _, hserves, onRequest_serve hm hkept hserve hlink ?_⟩
      have hwritten := hanswers.written
      rwa [hserves.same.link] at hwritten

lemma step_status (hs : s.Sound) (hm : m.writeFault = none) :
    ∃ r, r.Answers s.link.addressLength s.address ∧
      (s.step m (.frame (.request .requestLinkStatus false s.address))).Yields
        s.link.addressLength s [r] [] [] := by
  have hr : (s.respond .statusOfLink).Answers s.link.addressLength s.address :=
    LinkFrame.answers_response _ hs.fits nofun
  have hstep : s.step m (.frame (.request .requestLinkStatus false s.address)) =
      s.onRequest m .requestLinkStatus false false none := step_fixed hs
  have hkept : s.kept? false false = none := by simp [kept?]
  have hserve : s.serve .requestLinkStatus none =
      some ⟨s, [], some (s.respond .statusOfLink)⟩ := rfl
  have hyields := onRequest_serve hm hkept hserve rfl hr.written
  rw [hstep]
  exact ⟨_, hr, hyields⟩

lemma step_reset (hs : s.Sound) (hm : m.writeFault = none) :
    ∃ r s', r.Answers s.link.addressLength s.address ∧ s.Same s' ∧ s'.Sound ∧
      s'.lastFcb = none ∧ (∀ dataClass, s'.queue dataClass = s.queue dataClass) ∧
      (s.step m (.frame (.request .resetRemoteLink false s.address))).Yields
        s.link.addressLength s' [r] [] [] := by
  let t : Secondary := { s with lastFcb := none, lastResponse := none, everReset := true }
  have hsound : t.Sound := ⟨hs.fits, hs.single, nofun, hs.queued⟩
  have hr : t.acknowledgment.Answers s.link.addressLength s.address :=
    answers_acknowledgment (s := t) hsound
  have hstep : s.step m (.frame (.request .resetRemoteLink false s.address)) =
      s.onRequest m .resetRemoteLink false false none := step_fixed hs
  have hkept : s.kept? false false = none := by simp [kept?]
  have hserve : s.serve .resetRemoteLink none =
      some ⟨t, if s.everReset then [] else [.ready], some t.acknowledgment⟩ := rfl
  have hyields := onRequest_serve hm hkept hserve rfl hr.written
  have hnone : ((if s.everReset then [] else [Event.ready]).map Output.reported :
      List (Output LinkFrame)).filterMap Output.asdu? = [] := by
    cases s.everReset <;> rfl
  rw [hnone] at hyields
  refine ⟨_, t, hr, ⟨rfl, rfl, rfl⟩, hsound, rfl, fun dataClass => by cases dataClass <;> rfl, ?_⟩
  rw [hstep]
  exact hyields

lemma step_enqueue {dataClass : DataClass} {octets : Octets} {asdu : Asdu} {request : Nat}
    (hs : s.Sound) (hholds : LinkFrame.Holds s.link.addressLength octets)
    (hdecode : Asdu.decode s.widths octets = .ok asdu) (hclass : asdu.dataClass = dataClass) :
    let t := s.step m (.command (.enqueue dataClass octets request))
    s.Same t.state ∧ t.state.Sound ∧ t.state.lastFcb = s.lastFcb ∧
      t.state.lastResponse = s.lastResponse ∧ t.ending = none ∧
      (t.answers = [(request, .done)] ∧ (∀ other, t.state.waiting other =
          s.waiting other ++ [asdu].filter (·.dataClass = other)) ∨
        (∃ fault, t.answers = [(request, .refused fault)]) ∧ t.state = s) := by
  dsimp only [step, onCommand, enqueue]
  by_cases hfull : s.link.queueSize ≤ (s.queue dataClass).length
  · rw [if_pos hfull]
    exact ⟨.refl s, hs, rfl, rfl, rfl, .inr ⟨⟨_, rfl⟩, rfl⟩⟩
  · rw [if_neg hfull]
    have hqueue : ∀ other, (s.setQueue dataClass (s.queue dataClass ++ [octets])).queue other =
        s.queue other ++ if dataClass = other then [octets] else [] := by
      intro other
      cases dataClass <;> cases other <;> simp [queue, setQueue]
    obtain ⟨haddress, hlink, hwidths⟩ :
        s.Same (s.setQueue dataClass (s.queue dataClass ++ [octets])) := by
      cases dataClass <;> exact ⟨rfl, rfl, rfl⟩
    have hlast : (s.setQueue dataClass (s.queue dataClass ++ [octets])).lastFcb = s.lastFcb ∧
        (s.setQueue dataClass (s.queue dataClass ++ [octets])).lastResponse = s.lastResponse := by
      cases dataClass <;> exact ⟨rfl, rfl⟩
    change s.Same (s.setQueue dataClass (s.queue dataClass ++ [octets])) ∧ _
    generalize s.setQueue dataClass (s.queue dataClass ++ [octets]) = t at *
    have hsound : t.Sound := by
      refine hs.transfer ⟨haddress, hlink, hwidths⟩ ?_ ?_
      · rw [hlast.1, hlast.2]
        exact hs.kept
      · intro other o hmem
        rw [hqueue, List.mem_append] at hmem
        obtain hmem | hmem := hmem
        · exact hs.queued other o hmem
        · split at hmem
          · next heq =>
            obtain rfl := List.mem_singleton.1 hmem
            exact ⟨hholds, asdu, hdecode, hclass.trans heq⟩
          · cases hmem
    have hwaiting : ∀ other, t.waiting other =
        s.waiting other ++ [asdu].filter (·.dataClass = other) := by
      intro other
      rw [waiting, waiting, hqueue, hwidths, List.filterMap_append]
      congr 1
      subst hclass
      by_cases heq : asdu.dataClass = other
      · simp [heq, hdecode, Except.toOption]
      · simp [heq]
    exact ⟨⟨haddress, hlink, hwidths⟩, hsound, hlast.1, hlast.2, rfl, .inl ⟨rfl, hwaiting⟩⟩

lemma start_sound {address : Nat} {link : LinkParameters} {widths : FieldWidths}
    (h : start address link widths = .ok s) :
    s.Sound ∧ (s.address = address ∧ s.link = link ∧ s.widths = widths) ∧
      ∀ dataClass, s.queue dataClass = [] := by
  obtain ⟨_, -, h⟩ := bind_eq_ok h
  obtain ⟨_, hfits, h⟩ := bind_eq_ok h
  cases hbroadcast : link.isBroadcast address with
  | true => simp [hbroadcast] at h
  | false =>
    obtain rfl : ({ address, link, widths, class1 := [], class2 := [], lastFcb := none,
                    lastResponse := none, everReset := false } : Secondary) = s := by
      simpa [hbroadcast] using h
    have hqueue : ∀ dataClass, queue
        { address, link, widths, class1 := [], class2 := [], lastFcb := none,
          lastResponse := none, everReset := false } dataClass = [] := by
      intro dataClass
      cases dataClass <;> rfl
    refine ⟨⟨?_, hbroadcast, by simp, ?_⟩, ⟨rfl, rfl, rfl⟩, hqueue⟩
    · by_cases hlarge : maxLinkAddress link.addressLength < address
      · simp [LinkParameters.checkAddress, hlarge] at hfits
      · exact Nat.le_of_not_lt hlarge
    · intro dataClass octets hmem
      rw [hqueue] at hmem
      cases hmem

end Telecontrol.Secondary
