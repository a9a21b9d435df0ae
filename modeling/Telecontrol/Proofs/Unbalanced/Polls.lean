import Telecontrol.Proofs.Primary.Calls
import Telecontrol.Proofs.Secondary.Announcements
import Telecontrol.Proofs.Unbalanced.Basic

/-!
# A poll empties the first class

The primary polls one class at a time and fetches data of the first class as long as a response
announces more, up to a bound. If nothing is lost or late and nothing is queued meanwhile, what it
hands out is settled when the poll begins, however the octets are cut and whenever the stations
read.

A poll is a sequence of exchanges. `Asked` says how things stand when the request of one is on the
line, `Answered` when it has been served, and both say what the poll comes to in the end; the
exchanges that are still to follow make up the difference.
-/

namespace Telecontrol

open Primary (otherClass maxDrain announcesData)

/-- The ASDUs that can be read of payloads. -/
def readable (widths : FieldWidths) (payloads : List Octets) : List Asdu :=
  payloads.filterMap fun payload => (Asdu.decode widths payload).toOption

lemma readable_take_succ (widths : FieldWidths) (payloads : List Octets) (count : Nat) :
    readable widths (payloads.take (count + 1)) =
      readable widths (payloads.take 1) ++ readable widths (payloads.tail.take count) := by
  have hfirst : payloads.take (count + 1) = payloads.take 1 ++ payloads.tail.take count := by
    cases payloads <;> simp
  rw [hfirst]
  exact List.filterMap_append

lemma readable_take {widths : FieldWidths} {payloads : List Octets} {asdus : List Asdu}
    (h : payloads.map (Asdu.decode widths) = asdus.map .ok) (count : Nat) :
    readable widths (payloads.take count) = asdus.take count := by
  have htake : (payloads.take count).map (Asdu.decode widths) = (asdus.take count).map .ok := by
    rw [List.map_take, h, List.map_take]
  generalize payloads.take count = payloads at htake
  generalize asdus.take count = asdus at htake
  have hread : readable widths payloads =
      (payloads.map (Asdu.decode widths)).filterMap Except.toOption := by
    rw [List.filterMap_map]
    rfl
  rw [hread, htake, List.filterMap_map]
  exact List.filterMap_some

/-! ### Turns -/

namespace Secondary

variable {s : Secondary} {m : Moment} {fcb : Bool}

lemma setQueue_self (s : Secondary) (dataClass : DataClass) :
    s.setQueue dataClass (s.queue dataClass) = s := by
  cases dataClass <;> rfl

lemma serve_fetch (s : Secondary) (dataClass : DataClass) :
    ∃ r, s.serve (Primary.requestFunction dataClass) none =
        some ⟨s.setQueue dataClass (s.queue dataClass).tail, [], some r⟩ ∧
      (s.address ≤ maxLinkAddress s.link.addressLength →
        (∀ payload ∈ s.queue dataClass, LinkFrame.Holds s.link.addressLength payload) →
        r.Answers s.link.addressLength s.address) ∧
      announcesData r = (s.setQueue dataClass (s.queue dataClass).tail).accessDemand ∧
      ∀ widths, r.asdus widths = readable widths ((s.queue dataClass).take 1) := by
  cases hqueue : s.queue dataClass with
  | cons data rest =>
    refine ⟨_, serve_poll hqueue, ?_, rfl, ?_⟩
    · intro hfits hholds
      exact LinkFrame.answers_userData _ hfits (hholds data (List.mem_cons_self ..))
    · intro widths
      cases hdecode : Asdu.decode widths data <;>
        simp [LinkFrame.asdus, readable, hdecode, Except.toOption]
  | nil =>
    have hself : s.setQueue dataClass [] = s := by rw [← hqueue, setQueue_self]
    refine ⟨if s.usesSingleChar then .singleAck else s.respond .respNackNoData, ?_, ?_, ?_, ?_⟩
    · rw [List.tail_nil, hself]
      cases dataClass <;> simp only [Primary.requestFunction, serve, serveData, hqueue]
    · intro hfits _
      split
      · exact LinkFrame.answers_singleAck
      · exact LinkFrame.answers_response _ hfits (by simp)
    · rw [List.tail_nil, hself]
      split
      · next h =>
        have hnone : s.accessDemand = false := by simpa using (Bool.and_eq_true_iff.1 h).2
        rw [hnone]
        rfl
      · rfl
    · intro widths
      split <;> rfl

lemma step_fetch (hs : s.Fit) (hm : m.writeFault = none) (dataClass : DataClass)
    (hfresh : s.lastFcb ≠ some fcb) :
    ∃ r, (s.step m (.frame ((Demand.fetch dataClass).frame s.address fcb))).Yields
        s.link.addressLength ((s.setQueue dataClass (s.queue dataClass).tail).remember fcb true
          (some r)) [r] [] [] ∧
      r.Answers s.link.addressLength s.address ∧
      announcesData r = (s.setQueue dataClass (s.queue dataClass).tail).accessDemand ∧
      ∀ widths, r.asdus widths = readable widths ((s.queue dataClass).take 1) := by
  obtain ⟨r, hserve, hanswers, hannounces, hcarries⟩ := s.serve_fetch dataClass
  have hr := hanswers hs.fits (hs.queued dataClass)
  have hrequest : ((Demand.fetch dataClass).frame s.address fcb).request? s.address =
      some ⟨Primary.requestFunction dataClass, fcb, true, none⟩ := by
    cases dataClass <;> simp [Demand.frame, LinkFrame.request?, ControlField.request,
      Primary.requestFunction, PrimaryFunction.isCounted]
  have hkept : s.kept? fcb true = none := by simp [kept?, hfresh]
  have hlink := (setQueue_same (s := s) dataClass (s.queue dataClass).tail).link
  refine ⟨r, ?_, hr, hannounces, hcarries⟩
  rw [step_request hs.single hrequest]
  exact onRequest_serve hm hkept hserve hlink hr.written

lemma take_spelled {frames : List LinkFrame} {c : Channel} {input : Input} {inbox : Inbox}
    (h : (LinkFrame.reader s.link.addressLength).Spells frames c.contents)
    (hlasting : c.inbox.ending = none) (htake : s.take c.inbox = some (input, inbox)) :
    ∃ frame others, frames = frame :: others ∧ input = .frame frame ∧ inbox.ending = none ∧
      (LinkFrame.reader s.link.addressLength).Spells others { c with inbox }.contents := by
  have hend : c.inbox.takeEnd (α := LinkFrame) = none := by simp [Inbox.takeEnd, hlasting]
  unfold take at htake
  cases hframe : c.inbox.takeFrame (LinkFrame.reader s.link.addressLength) with
  | none => simp [hframe, hend] at htake
  | some found =>
    obtain ⟨result, rest⟩ := found
    obtain ⟨frame, others, rfl, rfl, hothers⟩ := h.takeFrame (LinkFrame.reader_stable _) hframe
    rw [hframe] at htake
    obtain ⟨rfl, rfl⟩ : Input.frame frame = input ∧ rest = inbox := by simpa using htake
    exact ⟨frame, others, rfl, rfl, (Inbox.ending_of_takeFrame hframe).trans hlasting, hothers⟩

end Secondary

namespace Primary

/-- An exchange after which so many requests can follow. -/
inductive Forces : Purpose → Nat → Prop
  | poll : Forces .poll maxDrain
  | drain (more : Nat) : Forces (.drain more .inCycle) more

variable {p : Primary} {m : Moment} {x : Exchange} {purpose : Purpose} {more index address : Nat}
  {r : LinkFrame} {peer : Peer}

/-- How the station goes on after a response of a poll. -/
def goOn (m : Moment) (index more : Nat) (r : LinkFrame) (p : Primary) : Turn :=
  if announcesData r then drain m index more .inCycle p else resume m index .inCycle p

lemma step_polled {addressLength : Nat} (hactivity : p.activity = .exchange x purpose)
    (hforces : Forces purpose more) (haddress : x.frame.address? = some address)
    (hr : r.Answers addressLength address) :
    p.step m (.frame r) =
      (reportData r { p with activity := .idle }).andThen (goOn m x.index more r) := by
  simp only [step, onFrame, hactivity, haddress, Option.getD_some, hr.heeded, hr.accepting,
    Bool.not_true, Bool.false_eq_true, if_false]
  cases hforces <;> rfl

/-- A station that has just asked for data of a class. -/
def fetching (m : Moment) (index : Nat) (peer : Peer) (dataClass : DataClass) (purpose : Purpose)
    (p : Primary) : Primary :=
  { p.setPeer index ({ · with fcb := !peer.fcb }) with
    activity := .exchange
      { index, frame := (Demand.fetch dataClass).frame peer.address (!peer.fcb),
        repeats := p.link.retries, deadline := m.now + p.link.ackTimeout } purpose }

section

variable (hm : m.writeFault = none) (hfits : peer.address ≤ maxLinkAddress p.link.addressLength)

include hm hfits

lemma yields_fetch (index : Nat) (dataClass : DataClass) (purpose : Purpose) :
    (beginExchange m index peer (requestFunction dataClass) none purpose p).Yields
      p.link.addressLength (p.fetching m index peer dataClass purpose)
      [(Demand.fetch dataClass).frame peer.address (!peer.fcb)] [] [] := by
  have hwritten : ∃ octets, ((Demand.fetch dataClass).frame peer.address (!peer.fcb)).encode
      (p.fetching m index peer dataClass purpose).link.addressLength = .ok octets :=
    LinkFrame.encode_fixed _ hfits
  exact yields_transmit hm hwritten

lemma yields_drain (hpeer : p.peers[index]? = some peer) (more : Nat) :
    (drain m index (more + 1) .inCycle p).Yields p.link.addressLength
      (p.fetching m index peer .class1 (.drain more .inCycle))
      [(Demand.fetch .class1).frame peer.address (!peer.fcb)] [] [] := by
  simp only [drain, hpeer]
  exact yields_fetch hm hfits index .class1 _

lemma yields_poll (hpeer : p.peers[index]? = some peer) (hactive : peer.state = .active) :
    (cycleFrom m index p).Yields p.link.addressLength
      ((p.setPeer index ({ · with nextPoll := otherClass peer.nextPoll })).fetching m index peer
        peer.nextPoll .poll)
      [(Demand.fetch peer.nextPoll).frame peer.address (!peer.fcb)] [] [] := by
  simp only [cycleFrom, hpeer, if_pos hactive]
  let next : Primary := p.setPeer index ({ · with nextPoll := otherClass peer.nextPoll })
  exact yields_fetch (p := next) hm hfits index peer.nextPoll .poll

end

lemma transmit_asdus (m : Moment) (frame : LinkFrame) (p : Primary) :
    (transmit m frame p).asdus = [] := by
  unfold transmit
  split
  · rfl
  · unfold breakOff Turn.asdus
    split <;> rfl

lemma cycleFrom_asdus (m : Moment) (index : Nat) (p : Primary) :
    (cycleFrom m index p).asdus = [] := by
  unfold cycleFrom
  split
  · rfl
  · split <;> exact transmit_asdus ..

end Primary

namespace Unbalanced

/-- Nothing is lost by the action or comes too late, and nothing is queued. -/
def Action.isSmooth : Action → Bool
  | carryRequests _ | carryResponses _ | hear false | serve false | elapse _ => true
  | _ => false

/-- The secondary has taken a turn after a piece from its inbox. -/
structure Replies (u : Unbalanced) (inbox : Inbox) (t : Secondary.Turn) (u' : Unbalanced) :
    Prop where
  primary : u'.primary = u.primary
  primaryEnd : u'.primaryEnd = u.primaryEnd
  reported : u'.reported = u.reported
  secondary : u'.secondary = t.state
  secondaryEnd : u'.secondaryEnd = t.ending
  requests : u'.requests.channel = { u.requests.channel with inbox }
  responses : u'.responses.channel = u.responses.channel.put t.octets

/-- The primary has taken a turn after a piece from its inbox. -/
structure Hears (u : Unbalanced) (inbox : Inbox) (t : Primary.Turn) (u' : Unbalanced) : Prop where
  secondary : u'.secondary = u.secondary
  secondaryEnd : u'.secondaryEnd = u.secondaryEnd
  reported : u'.reported = u.reported ++ t.asdus
  primary : u'.primary = t.state
  primaryEnd : u'.primaryEnd = t.ending
  requests : u'.requests.channel = u.requests.channel.put t.octets
  responses : u'.responses.channel = { u.responses.channel with inbox }

/-- Octets have arrived, or time has passed. -/
structure Waits (u u' : Unbalanced) : Prop where
  primary : u'.primary = u.primary
  primaryEnd : u'.primaryEnd = u.primaryEnd
  secondary : u'.secondary = u.secondary
  secondaryEnd : u'.secondaryEnd = u.secondaryEnd
  reported : u'.reported = u.reported
  requests : u'.requests.channel.contents = u.requests.channel.contents
  responses : u'.responses.channel.contents = u.responses.channel.contents
  requestsEnd : u'.requests.channel.inbox.ending = u.requests.channel.inbox.ending
  responsesEnd : u'.responses.channel.inbox.ending = u.responses.channel.inbox.ending

lemma smooth_cases {u u' : Unbalanced} {action : Action} (hsmooth : action.isSmooth = true)
    (hact : u.act action = some u') :
    action = .hear false ∨ action = .serve false ∨ u.Waits u' := by
  cases action with
  | send | queue | expire => cases hsmooth
  | hear lost =>
    cases lost
    · exact .inl rfl
    · cases hsmooth
  | serve lost =>
    cases lost
    · exact .inr (.inl rfl)
    · cases hsmooth
  | carryRequests count =>
    obtain rfl := Option.some.inj hact
    exact .inr (.inr ⟨rfl, rfl, rfl, rfl, rfl, Channel.contents_carry .., rfl, rfl, rfl⟩)
  | carryResponses count =>
    obtain rfl := Option.some.inj hact
    exact .inr (.inr ⟨rfl, rfl, rfl, rfl, rfl, rfl, Channel.contents_carry .., rfl, rfl⟩)
  | elapse duration =>
    obtain rfl := Option.some.inj hact
    exact .inr (.inr ⟨rfl, rfl, rfl, rfl, rfl, rfl, rfl, rfl, rfl⟩)

lemma replies_of_act {u u' : Unbalanced} (hact : u.act (.serve false) = some u') :
    ∃ input inbox, u.secondary.take u.requests.channel.inbox = some (input, inbox) ∧
      u.Replies inbox (u.secondary.step ⟨u.now, none⟩ input) u' := by
  simp only [act] at hact
  split at hact
  · obtain ⟨⟨input, inbox⟩, htake, rfl⟩ := Option.map_eq_some_iff.1 hact
    exact ⟨input, inbox, htake, rfl, rfl, rfl, rfl, rfl, rfl, rfl⟩
  · cases hact

lemma hears_of_act {u u' : Unbalanced} (hact : u.act (.hear false) = some u') :
    ∃ input inbox, u.primary.take u.responses.channel.inbox = some (input, inbox) ∧
      u.Hears inbox (u.primary.step ⟨u.now, none⟩ input) u' := by
  simp only [act] at hact
  split at hact
  · obtain ⟨⟨input, inbox⟩, htake, rfl⟩ := Option.map_eq_some_iff.1 hact
    exact ⟨input, inbox, htake, rfl, rfl, rfl, rfl, rfl, rfl, rfl⟩
  · cases hact

lemma run_append (actions later : List Action) (u : Unbalanced) :
    u.run (actions ++ later) = (u.run actions).bind (run later) := by
  induction actions generalizing u with
  | nil => rfl
  | cons action actions ih =>
    simp only [List.cons_append, run]
    rw [Option.bind_assoc]
    exact congrArg _ (funext ih)

/-- A smooth run leads to the other. -/
def Reaches (u v : Unbalanced) : Prop :=
  ∃ actions, (∀ action ∈ actions, action.isSmooth = true) ∧ u.run actions = some v

lemma Reaches.of_act {u v : Unbalanced} {action : Action} (hsmooth : action.isSmooth = true)
    (hact : u.act action = some v) : u.Reaches v :=
  ⟨[action], List.forall_mem_singleton.2 hsmooth, congrArg (Option.bind · (run [])) hact⟩

lemma Reaches.trans {u v w : Unbalanced} (h : u.Reaches v) (h' : v.Reaches w) : u.Reaches w := by
  obtain ⟨actions, hsmooth, hrun⟩ := h
  obtain ⟨later, hsmooth', hrun'⟩ := h'
  refine ⟨actions ++ later, List.forall_mem_append.2 ⟨hsmooth, hsmooth'⟩, ?_⟩
  rw [run_append, hrun]
  exact hrun'

/-- What a poll comes to: the secondary as the primary knows it, but for the frame count bit, all
ASDUs that have been handed out, and the data that still waits. -/
structure Poll where
  index : Nat
  peer : Peer
  reported : List Asdu
  class1 : List Octets
  class2 : List Octets

namespace Poll

/-- The poll comes to this if so much of the first class is still fetched. -/
structure Comes (g : Poll) (widths : FieldWidths) (more : Nat) (reported : List Asdu)
    (s : Secondary) : Prop where
  reported : g.reported = reported ++ readable widths (s.class1.take more)
  class1 : g.class1 = s.class1.drop more
  class2 : g.class2 = s.class2

/-- An exchange of the poll is under way, and so many requests can follow. -/
structure Exchanges (g : Poll) (more : Nat) (dataClass : DataClass) (fcb : Bool)
    (u : Unbalanced) : Prop where
  primaryOpen : u.primaryEnd = none
  secondaryOpen : u.secondaryEnd = none
  peer : u.primary.peers[g.index]? = some { g.peer with fcb }
  address : g.peer.address = u.secondary.address
  width : u.secondary.link.addressLength = u.primary.link.addressLength
  fit : u.secondary.Fit
  requestsLast : u.requests.channel.inbox.ending = none
  responsesLast : u.responses.channel.inbox.ending = none
  exchange : ∃ x purpose, u.primary.activity = .exchange x purpose ∧ x.index = g.index ∧
    x.frame = (Demand.fetch dataClass).frame g.peer.address fcb ∧ Primary.Forces purpose more

/-- The request of an exchange is on the line. -/
structure Asked (g : Poll) (more : Nat) (dataClass : DataClass) (fcb : Bool) (u : Unbalanced) :
    Prop extends g.Exchanges more dataClass fcb u where
  requests : (LinkFrame.reader u.primary.link.addressLength).Spells
    [(Demand.fetch dataClass).frame g.peer.address fcb] u.requests.channel.contents
  responses : u.responses.channel.contents = []
  fresh : u.secondary.lastFcb ≠ some fcb
  comes : g.Comes u.primary.widths more
    (u.reported ++ readable u.primary.widths ((u.secondary.queue dataClass).take 1))
    (u.secondary.setQueue dataClass (u.secondary.queue dataClass).tail)

/-- The response of an exchange is on the line. -/
structure Answered (g : Poll) (more : Nat) (dataClass : DataClass) (fcb : Bool) (r : LinkFrame)
    (u : Unbalanced) : Prop extends g.Exchanges more dataClass fcb u where
  requests : u.requests.channel.contents = []
  responses : (LinkFrame.reader u.primary.link.addressLength).Spells [r]
    u.responses.channel.contents
  answers : r.Answers u.primary.link.addressLength g.peer.address
  announces : announcesData r = u.secondary.accessDemand
  kept : u.secondary.lastFcb = some fcb
  comes : g.Comes u.primary.widths more (u.reported ++ r.asdus u.primary.widths) u.secondary

/-- The poll is over. -/
structure Over (g : Poll) (u : Unbalanced) : Prop where
  reported : u.reported = g.reported
  class1 : u.secondary.class1 = g.class1
  class2 : u.secondary.class2 = g.class2
  inStep : ∃ fcb, u.primary.peers[g.index]? = some { g.peer with fcb } ∧
    u.secondary.lastFcb ≠ some (!fcb)
  goesOn : ∃ m p, u.primary = (Primary.cycleFrom m (g.index + 1) p).state

/-- The poll is going on. -/
inductive Going (g : Poll) (u : Unbalanced) : Prop
  | asked {more : Nat} {dataClass : DataClass} {fcb : Bool} :
      g.Asked more dataClass fcb u → Going g u
  | answered {more : Nat} {dataClass : DataClass} {fcb : Bool} {r : LinkFrame} :
      g.Answered more dataClass fcb r u → Going g u

variable {g : Poll} {more : Nat} {dataClass : DataClass} {fcb : Bool} {r : LinkFrame}
  {u u' : Unbalanced} {widths : FieldWidths} {reported : List Asdu} {s : Secondary}
  {action : Action} {actions : List Action}

lemma Comes.finished (h : g.Comes widths more reported s)
    (hnone : s.accessDemand = false ∨ more = 0) :
    reported = g.reported ∧ s.class1 = g.class1 ∧ s.class2 = g.class2 := by
  rw [h.reported, h.class1, h.class2]
  rcases hnone with hnone | rfl
  · have hempty : s.class1 = [] := by simpa [Secondary.accessDemand] using hnone
    simp [hempty, readable]
  · simp [readable]

lemma Comes.next (h : g.Comes widths (more + 1) reported s) :
    g.Comes widths more (reported ++ readable widths ((s.queue .class1).take 1))
      (s.setQueue .class1 (s.queue .class1).tail) := by
  obtain ⟨hreported, hclass1, hclass2⟩ := h
  refine ⟨?_, ?_, hclass2⟩
  · rw [hreported, readable_take_succ, List.append_assoc]
    rfl
  · rw [hclass1]
    cases hqueue : s.class1 <;> simp [Secondary.setQueue, Secondary.queue, hqueue]

/-! ### Steps -/

lemma Asked.serve (h : g.Asked more dataClass fcb u) (hact : u.act (.serve false) = some u') :
    ∃ r, g.Answered more dataClass fcb r u' := by
  obtain ⟨input, inbox, htake, hreplies⟩ := replies_of_act hact
  obtain ⟨frame, others, heq, rfl, hlasting, hothers⟩ :=
    Secondary.take_spelled (h.width ▸ h.requests) h.requestsLast htake
  obtain ⟨rfl, rfl⟩ := List.cons.inj heq
  obtain ⟨r, hyields, hanswers, hannounces, hcarries⟩ :=
    Secondary.step_fetch (m := ⟨u.now, none⟩) h.fit rfl dataClass h.fresh
  have hfit := (Secondary.step_leaves h.fit.single ⟨u.now, none⟩
    (.frame ((Demand.fetch dataClass).frame u.secondary.address fcb))).fit h.fit nofun
  rw [hyields.state] at hfit
  rw [h.address] at hreplies
  have hstate := hreplies.secondary.trans hyields.state
  have hsame : u.secondary.Same u'.secondary :=
    hstate ▸ (Secondary.setQueue_same ..).trans (Secondary.remember_same ..)
  have hspells := hyields.spells
  rw [h.width] at hspells hanswers
  refine ⟨r, ⟨hreplies.primaryEnd.trans h.primaryOpen, hreplies.secondaryEnd.trans hyields.ending,
    hreplies.primary ▸ h.peer, h.address.trans hsame.address.symm, ?_, hstate ▸ hfit, ?_, ?_,
    hreplies.primary ▸ h.exchange⟩, ?_, ?_, ?_, ?_, ?_, ?_⟩
  · rw [hsame.link, hreplies.primary, h.width]
  · rw [hreplies.requests]
    exact hlasting
  · rw [hreplies.responses]
    exact h.responsesLast
  · rw [hreplies.requests]
    exact hothers.eq_nil_iff.2 rfl
  · rw [hreplies.primary, hreplies.responses, Channel.contents_put, h.responses]
    exact hspells
  · rw [hreplies.primary, h.address]
    exact hanswers
  · rw [hannounces, hstate]
    rfl
  · rw [hstate]
    rfl
  · obtain ⟨hreported, hclass1, hclass2⟩ := h.comes
    rw [hreplies.primary, hreplies.reported, hcarries, hstate]
    exact ⟨hreported, hclass1, hclass2⟩

lemma Answered.hear_more (h : g.Answered (more + 1) dataClass fcb r u)
    (hannounced : announcesData r = true) {inbox : Inbox} {t : Primary.Turn}
    (hhears : u.Hears inbox t u') (hlasting : inbox.ending = none)
    (hothers : { u.responses.channel with inbox }.contents = [])
    (ht : t = (Primary.reportData r { u.primary with activity := .idle }).andThen
      (Primary.goOn ⟨u.now, none⟩ g.index (more + 1) r)) :
    g.Asked more .class1 (!fcb) u' := by
  let idle : Primary := { u.primary with activity := .idle }
  have hfits : ({ g.peer with fcb } : Peer).address ≤
      maxLinkAddress u.primary.link.addressLength := by
    rw [← h.width]
    exact h.address ▸ h.fit.fits
  have hgoesOn : Primary.goOn ⟨u.now, none⟩ g.index (more + 1) r idle =
      Primary.drain ⟨u.now, none⟩ g.index (more + 1) .inCycle idle := if_pos hannounced
  have hasks : (Primary.goOn ⟨u.now, none⟩ g.index (more + 1) r idle).Yields _ _ _ _ _ :=
    hgoesOn ▸ Primary.yields_drain rfl hfits h.peer more
  have hyields := (Primary.yields_reportData r idle).andThen hasks
  rw [← ht] at hyields
  have hstate := hhears.primary.trans hyields.state
  have hpeer := Primary.peers_setPeer (p := u.primary) ({ · with fcb := !fcb }) h.peer
  refine ⟨⟨hhears.primaryEnd.trans hyields.ending, hhears.secondaryEnd.trans h.secondaryOpen,
    ?_, ?_, ?_, ?_, ?_, ?_, ?_⟩, ?_, ?_, ?_, ?_⟩
  · rw [hstate]
    exact hpeer
  · rw [hhears.secondary, h.address]
  · rw [hhears.secondary, h.width, hstate]
    rfl
  · rw [hhears.secondary]
    exact h.fit
  · rw [hhears.requests]
    exact h.requestsLast
  · rw [hhears.responses]
    exact hlasting
  · rw [hstate]
    exact ⟨_, _, rfl, rfl, rfl, .drain more⟩
  · rw [hstate, hhears.requests, Channel.contents_put, h.requests]
    exact hyields.spells
  · rw [hhears.responses]
    exact hothers
  · rw [hhears.secondary, h.kept]
    cases fcb <;> decide
  · rw [hhears.reported, hyields.handed, hhears.secondary, hstate, List.append_nil]
    exact h.comes.next

lemma Answered.hear_last (h : g.Answered more dataClass fcb r u)
    (hlast : announcesData r = false ∨ more = 0) {inbox : Inbox} {t : Primary.Turn}
    (hhears : u.Hears inbox t u')
    (ht : t = (Primary.reportData r { u.primary with activity := .idle }).andThen
      (Primary.goOn ⟨u.now, none⟩ g.index more r)) :
    g.Over u' := by
  let idle : Primary := { u.primary with activity := .idle }
  have hreports := @Primary.yields_reportData 0 r idle
  have hgoesOn : Primary.goOn ⟨u.now, none⟩ g.index more r idle =
      Primary.cycleFrom ⟨u.now, none⟩ (g.index + 1) idle := by
    unfold Primary.goOn
    rcases hlast with hlast | rfl
    · exact if_neg (by simp [hlast])
    · split <;> rfl
  rw [Turn.andThen_of_none hreports.ending, hreports.state, hgoesOn] at ht
  have hnone : g.Comes u.primary.widths more (u.reported ++ r.asdus u.primary.widths) u.secondary :=
    h.comes
  rw [h.announces] at hlast
  obtain ⟨hreported, hclass1, hclass2⟩ := hnone.finished hlast
  refine ⟨?_, hhears.secondary ▸ hclass1, hhears.secondary ▸ hclass2, ⟨fcb, ?_, ?_⟩,
    ⟨u.now, none⟩, idle, by rw [hhears.primary, ht]⟩
  · rw [hhears.reported, ← hreported, ht, Turn.asdus, List.filterMap_append]
    have hhanded := hreports.handed
    have hnothing := Primary.cycleFrom_asdus ⟨u.now, none⟩ (g.index + 1) idle
    rw [Turn.asdus] at hhanded hnothing
    rw [hhanded, hnothing, List.append_nil]
  · rw [hhears.primary, ht]
    exact (Primary.cycleFrom_peers (Nat.ne_of_lt (Nat.lt_succ_self _)) ..).trans h.peer
  · rw [hhears.secondary, h.kept]
    cases fcb <;> decide

lemma Answered.hear (h : g.Answered more dataClass fcb r u) (hact : u.act (.hear false) = some u') :
    g.Over u' ∨ ∃ fewer, more = fewer + 1 ∧ g.Asked fewer .class1 (!fcb) u' := by
  obtain ⟨input, inbox, htake, hhears⟩ := hears_of_act hact
  obtain ⟨frame, others, heq, rfl, hlasting, hothers⟩ :=
    Primary.take_spelled h.responses h.responsesLast htake
  obtain ⟨rfl, rfl⟩ := List.cons.inj heq
  obtain ⟨x, purpose, hactivity, hindex, hframe, hforces⟩ := h.exchange
  have haddress : x.frame.address? = some g.peer.address := by rw [hframe]; rfl
  have hturn := Primary.step_polled (m := ⟨u.now, none⟩) hactivity hforces haddress h.answers
  rw [hindex] at hturn
  by_cases hlast : announcesData r = false ∨ more = 0
  · exact .inl (h.hear_last hlast hhears hturn)
  · obtain ⟨hannounced, hmore⟩ := not_or.1 hlast
    obtain ⟨fewer, rfl⟩ := Nat.exists_eq_succ_of_ne_zero hmore
    exact .inr ⟨fewer, rfl, h.hear_more (by simpa using hannounced) hhears hlasting
      (hothers.eq_nil_iff.2 rfl) hturn⟩

lemma Exchanges.wait (h : g.Exchanges more dataClass fcb u) (hwaits : u.Waits u') :
    g.Exchanges more dataClass fcb u' where
  primaryOpen := hwaits.primaryEnd.trans h.primaryOpen
  secondaryOpen := hwaits.secondaryEnd.trans h.secondaryOpen
  peer := hwaits.primary ▸ h.peer
  address := hwaits.secondary ▸ h.address
  width := by rw [hwaits.secondary, hwaits.primary, h.width]
  fit := hwaits.secondary ▸ h.fit
  requestsLast := hwaits.requestsEnd.trans h.requestsLast
  responsesLast := hwaits.responsesEnd.trans h.responsesLast
  exchange := hwaits.primary ▸ h.exchange

lemma Asked.wait (h : g.Asked more dataClass fcb u) (hwaits : u.Waits u') :
    g.Asked more dataClass fcb u' := by
  refine ⟨h.toExchanges.wait hwaits, ?_, ?_, ?_, ?_⟩
  · rw [hwaits.primary, hwaits.requests]
    exact h.requests
  · rw [hwaits.responses, h.responses]
  · rw [hwaits.secondary]
    exact h.fresh
  · rw [hwaits.primary, hwaits.secondary, hwaits.reported]
    exact h.comes

lemma Answered.wait (h : g.Answered more dataClass fcb r u) (hwaits : u.Waits u') :
    g.Answered more dataClass fcb r u' := by
  refine ⟨h.toExchanges.wait hwaits, ?_, ?_, ?_, ?_, ?_, ?_⟩
  · rw [hwaits.requests, h.requests]
  · rw [hwaits.primary, hwaits.responses]
    exact h.responses
  · rw [hwaits.primary]
    exact h.answers
  · rw [hwaits.secondary]
    exact h.announces
  · rw [hwaits.secondary, h.kept]
  · rw [hwaits.primary, hwaits.secondary, hwaits.reported]
    exact h.comes

lemma Asked.not_hear (h : g.Asked more dataClass fcb u) : u.act (.hear false) ≠ some u' := by
  intro hact
  obtain ⟨input, inbox, htake, -⟩ := hears_of_act hact
  have hnothing : (LinkFrame.reader u.primary.link.addressLength).Spells []
      u.responses.channel.contents := h.responses ▸ .nil
  obtain ⟨frame, others, heq, -⟩ := Primary.take_spelled hnothing h.responsesLast htake
  cases heq

lemma Answered.not_serve (h : g.Answered more dataClass fcb r u) :
    u.act (.serve false) ≠ some u' := by
  intro hact
  obtain ⟨input, inbox, htake, -⟩ := replies_of_act hact
  have hnothing : (LinkFrame.reader u.secondary.link.addressLength).Spells []
      u.requests.channel.contents := h.requests ▸ .nil
  obtain ⟨frame, others, heq, -⟩ := Secondary.take_spelled hnothing h.requestsLast htake
  cases heq

theorem Going.advance (h : g.Going u) (hsmooth : action.isSmooth = true)
    (hact : u.act action = some u') : g.Going u' ∨ action = .hear false ∧ g.Over u' := by
  rcases smooth_cases hsmooth hact with rfl | rfl | hwaits
  · cases h with
    | asked h => exact absurd hact h.not_hear
    | answered h =>
      rcases h.hear hact with hover | ⟨fewer, -, hasked⟩
      · exact .inr ⟨rfl, hover⟩
      · exact .inl (.asked hasked)
  · cases h with
    | asked h =>
      obtain ⟨r, hanswered⟩ := h.serve hact
      exact .inl (.answered hanswered)
    | answered h => exact absurd hact h.not_serve
  · cases h with
    | asked h => exact .inl (.asked (h.wait hwaits))
    | answered h => exact .inl (.answered (h.wait hwaits))

theorem Going.run (h : g.Going u) (hsmooth : ∀ action ∈ actions, action.isSmooth = true)
    (hrun : u.run actions = some u') :
    g.Going u' ∨ ∃ earlier later v, actions = earlier ++ .hear false :: later ∧
      u.run (earlier ++ [.hear false]) = some v ∧ g.Over v ∧ v.run later = some u' := by
  induction actions generalizing u with
  | nil =>
    obtain rfl := Option.some.inj hrun
    exact .inl h
  | cons action actions ih =>
    obtain ⟨u₁, hact, hlater⟩ := Option.bind_eq_some_iff.1 hrun
    obtain ⟨hfirst, hrest⟩ := List.forall_mem_cons.1 hsmooth
    rcases h.advance hfirst hact with hgoing | ⟨rfl, hover⟩
    · rcases ih hgoing hrest hlater with hgoing' | ⟨earlier, later, v, rfl, hearlier, hlater⟩
      · exact .inl hgoing'
      · refine .inr ⟨action :: earlier, later, v, rfl, ?_, hlater⟩
        rw [List.cons_append, Unbalanced.run, hact]
        exact hearlier
    · refine .inr ⟨[], actions, u₁, rfl, ?_, hover, hlater⟩
      rw [List.nil_append, Unbalanced.run, hact]
      rfl

lemma Asked.can_serve (h : g.Asked more dataClass fcb u) (hall : u.requests.channel.flight = []) :
    ∃ u', u.act (.serve false) = some u' := by
  obtain ⟨inbox, htake⟩ := h.requests.arrived hall
  rw [← h.width] at htake
  simp [act, h.secondaryOpen, Secondary.take, htake]

lemma Answered.can_hear (h : g.Answered more dataClass fcb r u)
    (hall : u.responses.channel.flight = []) : ∃ u', u.act (.hear false) = some u' := by
  obtain ⟨inbox, htake⟩ := h.responses.arrived hall
  obtain ⟨x, purpose, hactivity, -⟩ := h.exchange
  simp [act, h.primaryOpen, Primary.isListening, hactivity, Primary.take, Inbox.take, htake]

lemma Asked.served (h : g.Asked more dataClass fcb u) :
    ∃ v r, u.Reaches v ∧ g.Answered more dataClass fcb r v := by
  let arrived : Unbalanced :=
    { u with requests := u.requests.carry u.requests.channel.flight.length }
  have harrived : g.Asked more dataClass fcb arrived :=
    h.wait ⟨rfl, rfl, rfl, rfl, rfl, Channel.contents_carry .., rfl, rfl, rfl⟩
  obtain ⟨v, hserve⟩ := harrived.can_serve (List.drop_length ..)
  obtain ⟨r, hanswered⟩ := harrived.serve hserve
  have hcarry : u.act (.carryRequests u.requests.channel.flight.length) = some arrived := rfl
  exact ⟨v, r, (Reaches.of_act rfl hcarry).trans (.of_act rfl hserve), hanswered⟩

lemma Answered.heard (h : g.Answered more dataClass fcb r u) :
    ∃ v, u.Reaches v ∧
      (g.Over v ∨ ∃ fewer, more = fewer + 1 ∧ g.Asked fewer .class1 (!fcb) v) := by
  let arrived : Unbalanced :=
    { u with responses := u.responses.carry u.responses.channel.flight.length }
  have harrived : g.Answered more dataClass fcb r arrived :=
    h.wait ⟨rfl, rfl, rfl, rfl, rfl, rfl, Channel.contents_carry .., rfl, rfl⟩
  obtain ⟨v, hhear⟩ := harrived.can_hear (List.drop_length ..)
  have hcarry : u.act (.carryResponses u.responses.channel.flight.length) = some arrived := rfl
  exact ⟨v, (Reaches.of_act rfl hcarry).trans (.of_act rfl hhear), harrived.hear hhear⟩

lemma Answered.ends (h : g.Answered more dataClass fcb r u) : ∃ v, u.Reaches v ∧ g.Over v := by
  -- Each exchange but the last leaves one less that can follow.
  induction more generalizing dataClass fcb r u with
  | zero =>
    obtain ⟨v, hreaches, hover | ⟨fewer, hmore, -⟩⟩ := h.heard
    · exact ⟨v, hreaches, hover⟩
    · cases hmore
  | succ more ih =>
    obtain ⟨v, hreaches, hover | ⟨fewer, hmore, hasked⟩⟩ := h.heard
    · exact ⟨v, hreaches, hover⟩
    · obtain rfl := Nat.succ.inj hmore
      obtain ⟨w, r', hserved, hanswered⟩ := hasked.served
      obtain ⟨x, hends, hover⟩ := ih hanswered
      exact ⟨x, (hreaches.trans hserved).trans hends, hover⟩

theorem Going.ends (h : g.Going u) : ∃ v, u.Reaches v ∧ g.Over v := by
  cases h with
  | asked h =>
    obtain ⟨v, r, hserved, hanswered⟩ := h.served
    obtain ⟨w, hends, hover⟩ := hanswered.ends
    exact ⟨w, hserved.trans hends, hover⟩
  | answered h => exact h.ends

end Poll

/-- How much a poll that begins with one class takes of a class. -/
def share : (begun dataClass : DataClass) → Nat
  | .class1, .class1 => 9
  | .class1, .class2 => 0
  | .class2, .class1 => 8
  | .class2, .class2 => 1

/-- The primary has begun to poll the secondary. The link is up, the secondary awaits the frame
count bit of the request, and nothing else is on the line. -/
structure PollBegun (index : Nat) (peer : Peer) (p : Primary) (m : Moment) (u : Unbalanced) :
    Prop where
  sound : m.writeFault = none
  found : p.peers[index]? = some peer
  active : peer.state = .active
  primary : u.primary = (Primary.cycleFrom m index p).state
  requests : u.requests.channel.contents = (Primary.cycleFrom m index p).octets
  responses : u.responses.channel.contents = []
  requestsLast : u.requests.channel.inbox.ending = none
  responsesLast : u.responses.channel.inbox.ending = none
  primaryOpen : u.primaryEnd = none
  secondaryOpen : u.secondaryEnd = none
  address : peer.address = u.secondary.address
  width : u.secondary.link.addressLength = p.link.addressLength
  fit : u.secondary.Fit
  inStep : u.secondary.lastFcb ≠ some (!peer.fcb)

/-- What a poll has come to. The primary has handed out its share of both classes, second class
first, and goes on with the next secondary. The rest still waits, the link is up, the other class is
next, and the frame count bits are in step again. -/
structure PollOver (index : Nat) (peer : Peer) (data : DataClass → List Asdu)
    (u v : Unbalanced) : Prop where
  reported : v.reported = u.reported ++ ((data .class2).take (share peer.nextPoll .class2) ++
    (data .class1).take (share peer.nextPoll .class1))
  waiting : ∀ dataClass, v.secondary.queue dataClass =
    (u.secondary.queue dataClass).drop (share peer.nextPoll dataClass)
  inStep : ∃ fcb, v.primary.peers[index]? =
      some { peer with state := .active, fcb, nextPoll := otherClass peer.nextPoll } ∧
    v.secondary.lastFcb ≠ some (!fcb)
  goesOn : ∃ m p, v.primary = (Primary.cycleFrom m (index + 1) p).state

/-- What the poll will come to. -/
def PollBegun.goal (index : Nat) (peer : Peer) (widths : FieldWidths) (u : Unbalanced) : Poll :=
  let served := u.secondary.setQueue peer.nextPoll (u.secondary.queue peer.nextPoll).tail
  { index
    peer := { peer with state := .active, nextPoll := otherClass peer.nextPoll }
    reported := u.reported ++ readable widths ((u.secondary.queue peer.nextPoll).take 1) ++
      readable widths (served.class1.take maxDrain)
    class1 := served.class1.drop maxDrain
    class2 := served.class2 }

variable {index : Nat} {peer : Peer} {p : Primary} {m : Moment} {u u' v : Unbalanced}
  {data : DataClass → List Asdu} {actions : List Action}

lemma PollBegun.going (h : PollBegun index peer p m u) :
    (PollBegun.goal index peer p.widths u).Going u := by
  have hfits : peer.address ≤ maxLinkAddress p.link.addressLength := by
    rw [h.address, ← h.width]
    exact h.fit.fits
  have hyields := Primary.yields_poll h.sound hfits h.found h.active
  have hprimary := h.primary.trans hyields.state
  have hnext := Primary.peers_setPeer ({ · with nextPoll := otherClass peer.nextPoll }) h.found
  have hpeer := Primary.peers_setPeer ({ · with fcb := !peer.fcb }) hnext
  refine @Poll.Going.asked _ _ maxDrain peer.nextPoll (!peer.fcb) ⟨⟨h.primaryOpen,
    h.secondaryOpen, ?_, h.address, ?_, h.fit, h.requestsLast, h.responsesLast, ?_⟩, ?_,
    h.responses, h.inStep, ?_⟩
  · rw [hprimary]
    exact hpeer.trans (by rw [PollBegun.goal, ← h.active])
  · rw [hprimary]
    exact h.width
  · rw [hprimary]
    exact ⟨_, _, rfl, rfl, rfl, .poll⟩
  · rw [hprimary, h.requests]
    exact hyields.spells
  · rw [hprimary]
    exact ⟨rfl, rfl, rfl⟩

lemma Poll.Over.poll (h : (PollBegun.goal index peer p.widths u).Over v)
    (hdata : ∀ dataClass,
      (u.secondary.queue dataClass).map (Asdu.decode p.widths) = (data dataClass).map .ok) :
    PollOver index peer data u v := by
  obtain ⟨hreported, hclass1, hclass2, hinStep, hgoesOn⟩ := h
  dsimp only [PollBegun.goal] at hreported hclass1 hclass2
  refine ⟨?_, fun dataClass => ?_, hinStep, hgoesOn⟩
  · rw [hreported, List.append_assoc]
    apply congrArg
    cases peer.nextPoll with
    | class1 => exact (readable_take_succ ..).symm.trans (readable_take (hdata .class1) 9)
    | class2 =>
      rw [readable_take (hdata .class2)]
      exact congrArg _ (readable_take (hdata .class1) 8)
  · cases hbegun : peer.nextPoll <;> rw [hbegun] at hclass1 hclass2 <;> cases dataClass
    · exact hclass1.trans (by simp [Secondary.setQueue, Secondary.queue, share, maxDrain])
    · exact hclass2
    · exact hclass1
    · exact hclass2.trans (List.drop_one ..).symm

/-- The first of two secondaries is to be polled for data of the first class. -/
def resting : Primary where
  link := {}
  widths := .serial
  peers := [{ address := 1, state := .active }, { address := 2, state := .active }]
  activity := .idle
  pollDue := some 2000

end Unbalanced

end Telecontrol
