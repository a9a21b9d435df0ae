import Telecontrol.Proofs.Primary.Course

/-!
# The primary station counts its frames

Whatever the primary station is doing, the signs of each secondary are disciplined: the link to an
active secondary is ready for the next bit, and the one secondary with which something is under way
is as far as the station takes it to be. One lemma for each function says so of the turn that it
makes.
-/

namespace Telecontrol.Primary

open Telecontrol.Turn (done fail report answer)

open Running (instruct receive await)

/-- Something is added to the signs of one secondary. -/
def add (address : Nat) (more : List Sign) (w : Nat → List Sign) : Nat → List Sign :=
  fun a => if a = address then w a ++ more else w a

/-- The signs of what is put out are added. -/
def note (output : List (Output LinkFrame)) (w : Nat → List Sign) : Nat → List Sign :=
  fun address => w address ++ output.flatMap (outputSigns address)

/-- The links that are up are ready for the next exchange, except for the one that is busy. -/
structure Calm (retries : Nat) (busy : Option Nat) (w : Nat → List Sign) (p : Primary) :
    Prop where
  allowed : p.link.retries = retries
  distinct : ∀ (i j : Nat) (peer peer' : Peer), p.peers[i]? = some peer →
    p.peers[j]? = some peer' → peer.address = peer'.address → i = j
  disciplined : ∀ address, Disciplined retries (w address)
  linked : ∀ (i : Nat) (peer : Peer), p.peers[i]? = some peer → some i ≠ busy →
    peer.state = .active → Linked retries (!peer.fcb) (w peer.address)

/-- The signs are those that the activity of the station calls for. -/
def Agrees (retries : Nat) (w : Nat → List Sign) (p : Primary) : Prop :=
  match p.activity with
  | .idle => Calm retries none w p
  | .handshake h _ => Calm retries none w p ∧ ∀ peer, p.peers[h.index]? = some peer →
      h.step = .reset →
        peer.state ≠ .active ∧ peer.fcb = false ∧ Asked retries (w peer.address)
  | .exchange x _ => Calm retries (some x.index) w p ∧ ∃ peer repetitions,
      p.peers[x.index]? = some peer ∧ peer.state = .active ∧
        x.frame.address? = some peer.address ∧ repetitions + x.repeats = retries ∧
        Busy retries x.frame peer.fcb repetitions (w peer.address)

/-- The signs after a turn are disciplined, and agree with the activity if it goes on. -/
structure Sound (retries : Nat) (w : Nat → List Sign) (t : Turn) : Prop where
  disciplined : ∀ address, Disciplined retries (note t.output w address)
  agrees : t.ending = none → Agrees retries (note t.output w) t.state

/-- The turn goes on and writes nothing. -/
structure Mute (t : Turn) : Prop where
  ending : t.ending = none
  frames : t.frames = []

/-- The turn goes on and has no signs. -/
structure Silent (t : Turn) : Prop where
  ending : t.ending = none
  signs : ∀ address, t.output.flatMap (outputSigns address) = []

variable {retries index : Nat} {busy : Option Nat} {w : Nat → List Sign} {p p' : Primary}
  {m : Moment} {peer peer' : Peer} {frame : LinkFrame} {t : Turn} {next : Primary → Turn}
  {more : List Sign} {occasion : Occasion} {purpose : Purpose}

/-! ## Signs -/

lemma note_silent {output : List (Output LinkFrame)}
    (h : ∀ address, output.flatMap (outputSigns address) = []) : note output w = w := by
  funext address
  rw [note, h, List.append_nil]

lemma note_append (output others : List (Output LinkFrame)) :
    note (output ++ others) w = note others (note output w) := by
  funext address
  simp only [note, List.flatMap_append, List.append_assoc]

lemma note_wrote {octets : Octets} {address : Nat} (haddress : frame.address? = some address)
    (hsigns : frameSigns address frame = more) :
    note [.wrote frame octets] w = add address more w := by
  funext a
  by_cases heq : a = address
  · rw [heq, note, add, if_pos rfl, ← hsigns]
    simp [outputSigns]
  · have hother : frame.address? ≠ some a := by
      rw [haddress]
      exact fun h => heq (Option.some.inj h).symm
    rw [note, add, if_neg heq]
    simp [outputSigns, frameSigns, hother]

@[simp] lemma add_self (address : Nat) : add address more w address = w address ++ more :=
  if_pos rfl

lemma add_of_ne {address other : Nat} (h : other ≠ address) : add address more w other = w other :=
  if_neg h

lemma add_nil (address : Nat) : add address [] w = w := by
  funext a
  simp [add]

/-! ## Calm stations -/

lemma Calm.congr (h : Calm retries busy w p) (hlink : p'.link = p.link)
    (hpeers : p'.peers = p.peers) : Calm retries busy w p' where
  allowed := by
    rw [hlink]
    exact h.allowed
  distinct := by
    rw [hpeers]
    exact h.distinct
  disciplined := h.disciplined
  linked := by
    rw [hpeers]
    exact h.linked

lemma Calm.weaken (h : Calm retries none w p) (busy : Option Nat) : Calm retries busy w p where
  allowed := h.allowed
  distinct := h.distinct
  disciplined := h.disciplined
  linked i peer hpeer _ := h.linked i peer hpeer nofun

lemma Calm.settle (h : Calm retries (some index) w p)
    (hlinked : ∀ peer, p.peers[index]? = some peer → peer.state = .active →
      Linked retries (!peer.fcb) (w peer.address)) : Calm retries none w p where
  allowed := h.allowed
  distinct := h.distinct
  disciplined := h.disciplined
  linked := by
    intro i peer hpeer _ hactive
    by_cases heq : i = index
    · rw [heq] at hpeer
      exact hlinked peer hpeer hactive
    · exact h.linked i peer hpeer (fun h => heq (Option.some.inj h)) hactive

lemma Calm.add (h : Calm retries busy w p) (hpeer : p.peers[index]? = some peer)
    (hbusy : some index = busy ∨ peer.state ≠ .active)
    (hsigns : Disciplined retries (w peer.address ++ more)) :
    Calm retries busy (add peer.address more w) p where
  allowed := h.allowed
  distinct := h.distinct
  disciplined := by
    intro address
    by_cases heq : address = peer.address
    · rw [heq, add_self]
      exact hsigns
    · rw [add_of_ne heq]
      exact h.disciplined address
  linked := by
    intro i peer' hpeer' hidle hactive
    by_cases heq : i = index
    · rw [heq] at hpeer' hidle
      obtain rfl := Option.some.inj (hpeer.symm.trans hpeer')
      rcases hbusy with hbusy | hinactive
      · exact absurd hbusy hidle
      · exact absurd hactive hinactive
    · -- Another secondary has another address, and its signs are what they were.
      have hother : peer'.address ≠ peer.address :=
        fun hsame => heq (h.distinct i index peer' peer hpeer' hpeer hsame)
      rw [add_of_ne hother]
      exact h.linked i peer' hpeer' hidle hactive

lemma peers_setPeer (f : Peer → Peer) (hpeer : p.peers[index]? = some peer) :
    (p.setPeer index f).peers[index]? = some (f peer) := by
  rw [setPeer, List.getElem?_modify_eq, hpeer]
  rfl

lemma getElem?_setPeer {f : Peer → Peer} {i : Nat}
    (h : (p.setPeer index f).peers[i]? = some peer') :
    ∃ peer, p.peers[i]? = some peer ∧ peer' = if index = i then f peer else peer := by
  rw [setPeer] at h
  dsimp only at h
  rw [List.getElem?_modify] at h
  obtain ⟨peer, hpeer, rfl⟩ := Option.map_eq_some_iff.1 h
  exact ⟨peer, hpeer, rfl⟩

lemma Calm.setPeer (h : Calm retries busy w p) (hpeer : p.peers[index]? = some peer)
    {f : Peer → Peer} (haddress : ∀ peer, (f peer).address = peer.address)
    (hlinked : some index ≠ busy → (f peer).state = .active →
      Linked retries (!(f peer).fcb) (w peer.address)) :
    Calm retries busy w (p.setPeer index f) where
  allowed := h.allowed
  distinct := by
    intro i j first second hfirst hsecond hsame
    obtain ⟨first, hbefore, rfl⟩ := getElem?_setPeer hfirst
    obtain ⟨second, hbefore', rfl⟩ := getElem?_setPeer hsecond
    apply h.distinct i j first second hbefore hbefore'
    simpa only [apply_ite Peer.address, haddress, ite_self] using hsame
  disciplined := h.disciplined
  linked := by
    intro i peer' hpeer' hidle hactive
    obtain ⟨before, hbefore, rfl⟩ := getElem?_setPeer hpeer'
    by_cases heq : index = i
    · rw [if_pos heq] at hactive ⊢
      rw [← heq] at hbefore hidle
      obtain rfl := Option.some.inj (hpeer.symm.trans hbefore)
      rw [haddress]
      exact hlinked hidle hactive
    · rw [if_neg heq] at hactive ⊢
      exact h.linked i before hbefore hidle hactive

/-! ## Turns -/

lemma mute_done (p : Primary) : Mute (done p) := ⟨rfl, rfl⟩

lemma mute_report (event : Event) (p : Primary) : Mute (report event p) := ⟨rfl, rfl⟩

lemma mute_answer (request : Nat) (a : Answer) (p : Primary) : Mute (answer request a p) :=
  ⟨rfl, rfl⟩

lemma mute_setLinkState (index : Nat) (state : LinkState) (p : Primary) :
    Mute (setLinkState index state p) := by
  unfold setLinkState
  split
  · exact mute_done p
  · split
    · exact mute_done p
    · exact mute_report _ _

lemma mute_reportData (response : LinkFrame) (p : Primary) : Mute (reportData response p) := by
  unfold reportData
  split
  · split
    · exact mute_report _ _
    · exact mute_done p
  · exact mute_done p

lemma Mute.silent (h : Mute t) : Silent t where
  ending := h.ending
  signs address := by
    rw [List.flatMap_eq_nil_iff]
    intro output hmem
    cases output with
    | wrote frame octets => exact absurd (List.filterMap_eq_nil_iff.1 h.frames _ hmem) nofun
    | reported event => rfl
    | answered request a => rfl

lemma silent_done (p : Primary) : Silent (done p) := (mute_done p).silent

lemma silent_report (event : Event) (p : Primary) : Silent (report event p) :=
  (mute_report event p).silent

lemma silent_answer (request : Nat) (a : Answer) (p : Primary) : Silent (answer request a p) :=
  (mute_answer request a p).silent

lemma silent_setLinkState (index : Nat) (state : LinkState) (p : Primary) :
    Silent (setLinkState index state p) :=
  (mute_setLinkState index state p).silent

lemma silent_reportData (response : LinkFrame) (p : Primary) : Silent (reportData response p) :=
  (mute_reportData response p).silent

lemma reportData_state (response : LinkFrame) (p : Primary) :
    (reportData response p).state = p := by
  unfold reportData
  split
  · split <;> rfl
  · rfl

lemma Silent.sound (h : Silent t) (hagrees : Agrees retries w t.state)
    (hw : ∀ address, Disciplined retries (w address)) : Sound retries w t where
  disciplined := by
    rw [note_silent h.signs]
    exact hw
  agrees _ := by
    rw [note_silent h.signs]
    exact hagrees

lemma Silent.andThen (h : Silent t) (hnext : Sound retries w (next t.state)) :
    Sound retries w (t.andThen next) := by
  rw [Turn.andThen_of_none h.ending]
  constructor
  · rw [note_append, note_silent h.signs]
    exact hnext.disciplined
  · rw [note_append, note_silent h.signs]
    exact hnext.agrees

lemma sound_ended {reason : CloseReason} (hw : ∀ address, Disciplined retries (w address))
    (hending : t.ending = some reason)
    (hsigns : ∀ address, t.output.flatMap (outputSigns address) = []) : Sound retries w t where
  disciplined := by
    rw [note_silent hsigns]
    exact hw
  agrees hopen := nomatch hending.symm.trans hopen

lemma sound_breakOff (hw : ∀ address, Disciplined retries (w address)) (fault : Fault)
    (p : Primary) : Sound retries w (breakOff fault p) := by
  apply sound_ended hw rfl
  intro address
  unfold breakOff
  split <;> rfl

lemma Agrees.disciplined (h : Agrees retries w p) (address : Nat) :
    Disciplined retries (w address) := by
  unfold Agrees at h
  split at h
  · exact h.disciplined address
  · exact h.1.disciplined address
  · exact h.1.disciplined address

lemma agrees_idle (hidle : p.activity = .idle) (h : Calm retries none w p) :
    Agrees retries w p := by
  rw [Agrees, hidle]
  exact h

lemma setLinkState_activity (index : Nat) (state : LinkState) (p : Primary) :
    (setLinkState index state p).state.activity = p.activity := by
  unfold setLinkState
  split
  · rfl
  · split <;> rfl

lemma sound_transmit (hw : ∀ address, Disciplined retries (w address))
    (h : ∀ octets, Agrees retries (note [.wrote frame octets] w) p) :
    Sound retries w (transmit m frame p) := by
  unfold transmit
  split
  · next octets _ => exact ⟨(h octets).disciplined, fun _ => h octets⟩
  · exact sound_breakOff hw _ p

lemma sound_rest (h : Calm retries none w p) : Sound retries w (rest p) :=
  (silent_done _).sound (h.congr rfl rfl) h.disciplined

/-! ## Handshakes -/

lemma sound_ask {h : Handshake} (hcalm : Calm retries none w p)
    (hpeer : p.peers[h.index]? = some peer)
    (hdown : h.step = .reset → peer.state ≠ .active ∧ peer.fcb = false) :
    Sound retries w (transmit m (.request h.function false peer.address)
      { p with activity := .handshake h occasion }) := by
  apply sound_transmit hcalm.disciplined
  intro octets
  have haddress : (LinkFrame.request h.function false peer.address).address? = some peer.address :=
    rfl
  by_cases hreset : h.step = .reset
  · have hsigns : frameSigns peer.address (.request h.function false peer.address) = [.reset] := by
      rw [Handshake.function, hreset]
      exact if_pos rfl
    obtain ⟨hinactive, hfcb⟩ := hdown hreset
    have hasked := (hcalm.disciplined peer.address).ask
    rw [note_wrote haddress hsigns]
    refine ⟨(hcalm.add hpeer (.inr hinactive) hasked.disciplined).congr rfl rfl, ?_⟩
    intro peer' hpeer' _
    obtain rfl := Option.some.inj (hpeer.symm.trans hpeer')
    rw [add_self]
    exact ⟨hinactive, hfcb, hasked⟩
  · have hstatus : h.step = .status := by
      cases hstep : h.step with
      | status => rfl
      | reset => exact absurd hstep hreset
    have hsigns : frameSigns peer.address (.request h.function false peer.address) = [] := by
      rw [Handshake.function, hstatus]
      exact if_pos rfl
    rw [note_wrote haddress hsigns, add_nil]
    exact ⟨hcalm.congr rfl rfl, fun _ _ h => absurd h hreset⟩

lemma sound_sendRequest {h : Handshake} (hcalm : Calm retries none w p)
    (hpeer : p.peers[h.index]? = some peer)
    (hdown : h.step = .reset → peer.state ≠ .active ∧ peer.fcb = false) :
    Sound retries w (sendRequest m h occasion peer.address p) := by
  unfold sendRequest
  exact sound_ask hcalm hpeer hdown

lemma sound_beginHandshake (m : Moment) (step : HandshakeStep) (occasion : Occasion)
    (hcalm : Calm retries none w p) (hpeer : p.peers[index]? = some peer)
    (hdown : step = .reset → peer.state ≠ .active ∧ peer.fcb = false) :
    Sound retries w (beginHandshake m index step occasion peer.address p) :=
  sound_sendRequest hcalm hpeer hdown

/-! ## Exchanges -/

lemma frameSigns_numbered {address : Nat} {fcb : Bool} (haddress : frame.address? = some address)
    (h : Numbered fcb frame) : frameSigns address frame = [.numbered frame] := by
  obtain ⟨function, hcontrol⟩ := h
  rw [frameSigns, if_pos haddress, hcontrol]

lemma sound_number {fcb : Bool} {deadline : Nat} (hcalm : Calm retries none w p)
    (hpeer : p.peers[index]? = some peer) (hactive : peer.state = .active)
    (haddress : frame.address? = some peer.address) (hframe : Numbered fcb frame)
    (hfcb : fcb = !peer.fcb) :
    Sound retries w (transmit m frame { p.setPeer index ({ · with fcb }) with
      activity := .exchange { index, frame, repeats := p.link.retries, deadline } purpose }) := by
  apply sound_transmit hcalm.disciplined
  intro octets
  rw [note_wrote haddress (frameSigns_numbered haddress hframe)]
  have hbusy : Busy retries frame fcb 0 (w peer.address ++ [Sign.numbered frame]) := by
    have hlinked := hcalm.linked index peer hpeer nofun hactive
    rw [← hfcb] at hlinked
    exact hlinked.send hframe
  -- The bit is the one of the frame already, so the link counts as busy until there is an answer.
  have hset : Calm retries (some index) w (p.setPeer index ({ · with fcb })) :=
    (hcalm.weaken (some index)).setPeer hpeer (fun _ => rfl) fun hidle => absurd rfl hidle
  have hpeer' := peers_setPeer ({ · with fcb }) hpeer
  refine ⟨(hset.add hpeer' (.inl rfl) hbusy.disciplined).congr rfl rfl, _, 0, hpeer', hactive,
    haddress, ?_, ?_⟩
  · exact (Nat.zero_add _).trans hcalm.allowed
  · rw [add_self]
    exact hbusy

lemma sound_beginExchange {function : PrimaryFunction} {payload : Option Octets}
    (hcalm : Calm retries none w p) (hpeer : p.peers[index]? = some peer')
    (haddress : peer'.address = peer.address) (hfcb : peer'.fcb = peer.fcb)
    (hactive : peer'.state = .active) (hcounted : function.isCounted = true) :
    Sound retries w (beginExchange m index peer function payload purpose p) := by
  have hcontrol : ControlField.request function (!peer.fcb) =
      .primary function (!peer.fcb) true := by
    simp [ControlField.request, hcounted]
  unfold beginExchange
  rw [hcontrol]
  cases payload with
  | none => exact sound_number hcalm hpeer hactive (haddress ▸ rfl) ⟨function, rfl⟩ (hfcb ▸ rfl)
  | some octets =>
    exact sound_number hcalm hpeer hactive (haddress ▸ rfl) ⟨function, rfl⟩ (hfcb ▸ rfl)

lemma sound_beginPoll (hcalm : Calm retries none w p) (hpeer : p.peers[index]? = some peer)
    (hactive : peer.state = .active) : Sound retries w (beginPoll m index peer p) := by
  have hset : Calm retries none w
      (p.setPeer index ({ · with nextPoll := otherClass peer.nextPoll })) :=
    hcalm.setPeer hpeer (fun _ => rfl) fun _ => hcalm.linked index peer hpeer nofun
  have hpeer' := peers_setPeer ({ · with nextPoll := otherClass peer.nextPoll }) hpeer
  have hcounted : (requestFunction peer.nextPoll).isCounted = true := by
    cases peer.nextPoll <;> rfl
  exact sound_beginExchange hset hpeer' rfl rfl hactive hcounted

/-! ## Poll cycles and opening -/

lemma sound_cycleFrom (hcalm : Calm retries none w p) (m : Moment) (index : Nat) :
    Sound retries w (cycleFrom m index p) := by
  unfold cycleFrom
  split
  · exact sound_rest hcalm
  · next peer hpeer =>
    by_cases hactive : peer.state = .active
    · rw [if_pos hactive]
      exact sound_beginPoll hcalm hpeer hactive
    · rw [if_neg hactive]
      exact sound_beginHandshake m .status _ hcalm hpeer nofun

lemma sound_openFrom (hcalm : Calm retries none w p) (m : Moment) (index request : Nat) :
    Sound retries w (openFrom m index request p) := by
  unfold openFrom
  split
  · next peer hpeer => exact sound_beginHandshake m .status _ hcalm hpeer nofun
  · apply (silent_answer ..).andThen
    exact (silent_report ..).sound (hcalm.congr rfl rfl) hcalm.disciplined

lemma sound_beginCycle (hcalm : Calm retries none w p) (m : Moment) (due : Nat) :
    Sound retries w (beginCycle m due p) := by
  apply sound_cycleFrom
  exact hcalm.congr rfl rfl

/-! ## The end of handshakes -/

lemma peers_setLinkState (state : LinkState) (hpeer : p.peers[index]? = some peer) :
    (setLinkState index state p).state.peers[index]? = some { peer with state } := by
  unfold setLinkState
  rw [hpeer]
  dsimp only
  by_cases hsame : peer.state = state
  · rw [if_pos hsame, ← hsame]
    exact hpeer
  · rw [if_neg hsame]
    exact peers_setPeer ({ · with state }) hpeer

lemma calm_setLinkState {state : LinkState} (hcalm : Calm retries (some index) w p)
    (hlinked : ∀ peer, p.peers[index]? = some peer → state = .active →
      Linked retries (!peer.fcb) (w peer.address)) :
    Calm retries none w (setLinkState index state p).state := by
  unfold setLinkState
  split
  · next hnone =>
    apply hcalm.settle
    intro peer hpeer
    exact nomatch hnone.symm.trans hpeer
  · next peer hpeer =>
    have hready := hlinked peer hpeer
    split
    · next hsame =>
      apply hcalm.settle
      intro peer' hpeer' hactive
      obtain rfl := Option.some.inj (hpeer.symm.trans hpeer')
      exact hready (hsame.symm.trans hactive)
    · have hset : Calm retries (some index) w (p.setPeer index ({ · with state })) :=
        hcalm.setPeer hpeer (fun _ => rfl) fun hidle => absurd rfl hidle
      apply hset.settle
      intro peer' hpeer' hactive
      obtain rfl := Option.some.inj ((peers_setPeer ({ · with state }) hpeer).symm.trans hpeer')
      exact hready hactive

lemma sound_linkEstablished (hcalm : Calm retries none w p) (hpeer : p.peers[index]? = some peer)
    (hlinked : Linked retries (!peer.fcb) (w peer.address)) :
    Sound retries w (linkEstablished m index occasion p) := by
  have hset : Calm retries none w (p.setPeer index ({ · with nextPoll := .class1 })) :=
    hcalm.setPeer hpeer (fun _ => rfl) fun _ => hcalm.linked index peer hpeer nofun
  have hpeer' := peers_setPeer ({ · with nextPoll := .class1 }) hpeer
  have hup : Calm retries none w (setLinkState index .active
      (p.setPeer index ({ · with nextPoll := .class1 }))).state := by
    apply calm_setLinkState (hset.weaken _)
    intro peer'' hpeer'' _
    obtain rfl := Option.some.inj (hpeer'.symm.trans hpeer'')
    exact hlinked
  apply (silent_setLinkState ..).andThen
  cases occasion with
  | opening request => exact sound_openFrom hup m (index + 1) request
  | cycle => exact sound_cycleFrom hup m (index + 1)

lemma sound_linkFailed (hcalm : Calm retries none w p) (address : Nat) :
    Sound retries w (linkFailed m index occasion address p) := by
  have hdown : Calm retries none w (setLinkState index .disconnected p).state :=
    calm_setLinkState (hcalm.weaken _) fun _ _ => nofun
  apply (silent_setLinkState ..).andThen
  cases occasion with
  | opening request => exact sound_breakOff hdown.disciplined _ _
  | cycle => exact sound_cycleFrom hdown m (index + 1)

lemma sound_handshakeAnswered {h : Handshake} (hcalm : Calm retries none w p)
    (hpeer : p.peers[h.index]? = some peer)
    (hlinked : h.step = .reset → Linked retries (!peer.fcb) (w peer.address)) :
    Sound retries w (handshakeAnswered m h occasion peer.address p) := by
  unfold handshakeAnswered
  cases hstep : h.step with
  | status =>
    have hknown : Calm retries none w (setLinkState h.index .statusKnown p).state :=
      calm_setLinkState (hcalm.weaken _) fun _ _ => nofun
    have hpeer' := peers_setLinkState .statusKnown hpeer
    have hset := peers_setPeer ({ · with fcb := false }) hpeer'
    have hready : Calm retries none w ((setLinkState h.index .statusKnown p).state.setPeer h.index
        ({ · with fcb := false })) :=
      hknown.setPeer hpeer' (fun _ => rfl) fun _ hactive => nomatch hactive
    have hsound := sound_beginHandshake m .reset occasion hready hset fun _ => ⟨nofun, rfl⟩
    exact (silent_setLinkState ..).andThen hsound
  | reset => exact sound_linkEstablished hcalm hpeer (hlinked hstep)

lemma sound_handshakeExpired {h : Handshake} (hcalm : Calm retries none w p)
    (hpeer : p.peers[h.index]? = some peer)
    (hdown : h.step = .reset → peer.state ≠ .active ∧ peer.fcb = false) :
    Sound retries w (handshakeExpired m h occasion peer.address p) := by
  unfold handshakeExpired
  split
  · exact sound_linkFailed hcalm peer.address
  · exact sound_sendRequest hcalm hpeer hdown

/-! ## The end of exchanges -/

lemma sound_resume (hcalm : Calm retries none w p) (m : Moment) (index : Nat) (context : Context) :
    Sound retries w (resume m index context p) := by
  cases context with
  | afterData => exact sound_rest hcalm
  | inCycle => exact sound_cycleFrom hcalm m (index + 1)

lemma sound_drain (hcalm : Calm retries none w p) (m : Moment) (index more : Nat)
    (context : Context) (hactive : ∀ peer, p.peers[index]? = some peer → peer.state = .active) :
    Sound retries w (drain m index more context p) := by
  unfold drain
  split
  · next peer hpeer => exact sound_beginExchange hcalm hpeer rfl rfl (hactive peer hpeer) rfl
  · exact sound_resume hcalm m index context

lemma sound_exchangeAnswered {x : Exchange} (hcalm : Calm retries (some x.index) w p)
    (hpeer : p.peers[x.index]? = some peer) (hactive : peer.state = .active)
    (hlinked : Linked retries (!peer.fcb) (w peer.address)) (response : LinkFrame) :
    Sound retries w (exchangeAnswered m x purpose response p) := by
  have hsettled : Calm retries none w p := by
    apply hcalm.settle
    intro peer' hpeer' _
    obtain rfl := Option.some.inj (hpeer.symm.trans hpeer')
    exact hlinked
  have hready : Calm retries none w { p with activity := .idle } := hsettled.congr rfl rfl
  have hup : ∀ peer', p.peers[x.index]? = some peer' → peer'.state = .active := by
    intro peer' hpeer'
    obtain rfl := Option.some.inj (hpeer.symm.trans hpeer')
    exact hactive
  unfold exchangeAnswered
  cases purpose with
  | userData request =>
    dsimp only
    split
    · apply (silent_answer ..).andThen
      split
      · exact sound_drain hready m x.index maxDrain .afterData hup
      · exact (silent_done _).sound hready hready.disciplined
    · exact (silent_answer ..).sound hready hready.disciplined
  | poll =>
    apply (silent_reportData ..).andThen
    rw [reportData_state]
    split
    · exact sound_drain hready m x.index maxDrain .inCycle hup
    · exact sound_resume hready m x.index .inCycle
  | drain more context =>
    apply (silent_reportData ..).andThen
    rw [reportData_state]
    split
    · exact sound_drain hready m x.index more context hup
    · exact sound_resume hready m x.index context

lemma sound_exchangeFailed {x : Exchange} (hcalm : Calm retries (some x.index) w p) :
    Sound retries w (exchangeFailed m x purpose p) := by
  have hdown : Calm retries none w
      (setLinkState x.index .disconnected { p with activity := .idle }).state :=
    calm_setLinkState (hcalm.congr rfl rfl) fun _ _ => nofun
  apply (silent_setLinkState ..).andThen
  cases purpose with
  | userData request =>
    apply (silent_answer ..).sound _ hdown.disciplined
    exact agrees_idle (setLinkState_activity ..) hdown
  | poll => exact sound_resume hdown m x.index .inCycle
  | drain more context => exact sound_resume hdown m x.index context

lemma sound_exchangeMissed {x : Exchange} {repetitions : Nat}
    (hcalm : Calm retries (some x.index) w p) (hpeer : p.peers[x.index]? = some peer)
    (hactive : peer.state = .active) (haddress : x.frame.address? = some peer.address)
    (hcount : repetitions + x.repeats = retries)
    (hmissed : Missed retries x.frame peer.fcb repetitions (w peer.address)) :
    Sound retries w (exchangeMissed m x purpose p) := by
  unfold exchangeMissed
  split
  · exact sound_exchangeFailed hcalm
  · next repeats hrepeats =>
    rw [hrepeats] at hcount
    have hbusy := hmissed.again (by omega)
    apply sound_transmit hcalm.disciplined
    intro octets
    rw [note_wrote haddress (frameSigns_numbered haddress hmissed.numbered)]
    refine ⟨(hcalm.add hpeer (.inl rfl) hbusy.disciplined).congr rfl rfl, peer, repetitions + 1,
      hpeer, hactive, haddress, ?_, ?_⟩
    · dsimp only
      omega
    · rw [add_self]
      exact hbusy

/-! ## What happens -/

/-- The signs of an input are added. -/
def hear (input : Input) (p : Primary) (w : Nat → List Sign) : Nat → List Sign :=
  fun address => w address ++ inputSigns address input p

lemma hear_silent {input : Input} (h : ∀ address, inputSigns address input p = []) :
    hear input p w = w := by
  funext address
  rw [hear, h, List.append_nil]

lemma hear_handshake {h : Handshake} (hactivity : p.activity = .handshake h occasion)
    (hpeer : p.peers[h.index]? = some peer) :
    hear (.frame frame) p w = add peer.address
      (if h.step = .reset ∧ isResponseOf peer.address frame ∧ frame.isAck then [.confirmed]
        else []) w := by
  funext a
  by_cases heq : a = peer.address
  · simp [hear, inputSigns, hactivity, hpeer, heq]
  · simp [hear, inputSigns, hactivity, hpeer, add_of_ne heq, Ne.symm heq]

lemma hear_exchange {x : Exchange} {address : Nat} (hactivity : p.activity = .exchange x purpose)
    (haddress : x.frame.address? = some address) :
    hear (.frame frame) p w = add address
      (if isResponseOf address frame then [if frame.isNack then .missed else .answered]
        else []) w := by
  funext a
  by_cases heq : a = address
  · simp [hear, inputSigns, hactivity, haddress, heq]
  · simp [hear, inputSigns, hactivity, haddress, add_of_ne heq, Ne.symm heq]

lemma hear_deadline {x : Exchange} {address : Nat} (hactivity : p.activity = .exchange x purpose)
    (haddress : x.frame.address? = some address) :
    hear .deadline p w = add address [.missed] w := by
  funext a
  by_cases heq : a = address
  · simp [hear, inputSigns, hactivity, haddress, heq]
  · simp [hear, inputSigns, hactivity, haddress, add_of_ne heq, Ne.symm heq]

lemma Agrees.sound_done (h : Agrees retries w p) : Sound retries w (done p) :=
  (silent_done p).sound h h.disciplined

lemma sound_onFrame_handshake {h : Handshake} (hagrees : Agrees retries w p)
    (hactivity : p.activity = .handshake h occasion) (m : Moment) (frame : LinkFrame) :
    Sound retries (hear (.frame frame) p w) (onFrame m frame p) := by
  have hboth := hagrees
  rw [Agrees, hactivity] at hboth
  obtain ⟨hcalm, hreset⟩ := hboth
  rw [onFrame, hactivity]
  dsimp only
  cases hpeer : p.peers[h.index]? with
  | none =>
    have hsigns : ∀ a, inputSigns a (.frame frame) p = [] := by
      simp [inputSigns, hactivity, hpeer]
    rw [hear_silent hsigns]
    exact hagrees.sound_done
  | some peer =>
    rw [hear_handshake hactivity hpeer]
    dsimp only
    by_cases hresponse : isResponseOf peer.address frame = true
    · rw [hresponse, Bool.not_true, if_neg Bool.false_ne_true]
      by_cases haccepts : h.accepts frame = true
      · rw [if_pos haccepts]
        by_cases hstep : h.step = .reset
        · have hack : frame.isAck = true := by
            rw [← haccepts, Handshake.accepts, hstep]
          obtain ⟨hinactive, hfcb, hasked⟩ := hreset peer hpeer hstep
          have hconfirmed := hasked.confirm
          rw [if_pos ⟨hstep, rfl, hack⟩]
          have hadded := hcalm.add hpeer (.inr hinactive) hconfirmed.disciplined
          apply sound_handshakeAnswered hadded hpeer
          intro _
          rw [add_self, hfcb]
          exact hconfirmed
        · rw [if_neg fun h => hstep h.1, add_nil]
          exact sound_handshakeAnswered hcalm hpeer fun h => absurd h hstep
      · -- The station pauses until it asks again. The reset that it waits for is still open.
        have hnone : ¬(h.step = .reset ∧ true = true ∧ frame.isAck = true) := by
          rintro ⟨hstep, -, hack⟩
          apply haccepts
          rw [Handshake.accepts, hstep]
          exact hack
        rw [if_neg haccepts, if_neg hnone, add_nil]
        exact (silent_done _).sound ⟨hcalm.congr rfl rfl, hreset⟩ hcalm.disciplined
    · rw [if_neg fun h => hresponse h.2.1, add_nil, if_pos (by simpa using hresponse)]
      exact hagrees.sound_done

/-- An answer in an exchange. A refusal counts like no answer at all. -/
lemma sound_onFrame_exchange {x : Exchange} (hagrees : Agrees retries w p)
    (hactivity : p.activity = .exchange x purpose) (m : Moment) (frame : LinkFrame) :
    Sound retries (hear (.frame frame) p w) (onFrame m frame p) := by
  have hboth := hagrees
  rw [Agrees, hactivity] at hboth
  obtain ⟨hcalm, peer, repetitions, hpeer, hactive, haddress, hcount, hbusy⟩ := hboth
  rw [onFrame, hactivity, hear_exchange hactivity haddress]
  dsimp only
  rw [haddress, Option.getD_some]
  by_cases hresponse : isResponseOf peer.address frame = true
  · rw [hresponse, Bool.not_true, if_neg Bool.false_ne_true, if_pos rfl]
    by_cases hnack : frame.isNack = true
    · have hmissed := hbusy.miss
      rw [if_pos hnack, if_pos hnack]
      apply sound_exchangeMissed (hcalm.add hpeer (.inl rfl) hmissed.disciplined) hpeer hactive
        haddress hcount
      rw [add_self]
      exact hmissed
    · have hlinked := hbusy.answer
      rw [if_neg hnack, if_neg hnack]
      apply sound_exchangeAnswered (hcalm.add hpeer (.inl rfl) hlinked.disciplined) hpeer hactive
      rw [add_self]
      exact hlinked
  · rw [if_neg hresponse, add_nil, if_pos (by simpa using hresponse)]
    exact hagrees.sound_done

lemma sound_onDeadline (hagrees : Agrees retries w p) (m : Moment) :
    Sound retries (hear .deadline p w) (onDeadline m p) := by
  have hboth := hagrees
  unfold onDeadline
  cases hactivity : p.activity with
  | idle =>
    rw [Agrees, hactivity] at hboth
    rw [hear_silent (by simp [inputSigns, hactivity])]
    dsimp only
    split
    · exact sound_beginCycle hboth m _
    · exact hagrees.sound_done
  | handshake h occasion =>
    rw [Agrees, hactivity] at hboth
    obtain ⟨hcalm, hreset⟩ := hboth
    rw [hear_silent (by simp [inputSigns, hactivity])]
    dsimp only
    split
    · exact hagrees.sound_done
    · next peer hpeer =>
      apply sound_handshakeExpired hcalm hpeer
      intro hstep
      obtain ⟨hinactive, hfcb, -⟩ := hreset peer hpeer hstep
      exact ⟨hinactive, hfcb⟩
  | exchange x purpose =>
    rw [Agrees, hactivity] at hboth
    obtain ⟨hcalm, peer, repetitions, hpeer, hactive, haddress, hcount, hbusy⟩ := hboth
    have hmissed := hbusy.miss
    rw [hear_deadline hactivity haddress]
    apply sound_exchangeMissed (hcalm.add hpeer (.inl rfl) hmissed.disciplined) hpeer hactive
      haddress hcount
    rw [add_self]
    exact hmissed

lemma sound_onCommand (hagrees : Agrees retries w p) (hidle : p.activity = .idle) (m : Moment)
    (command : Command) : Sound retries w (onCommand m command p) := by
  have hcalm := hagrees
  rw [Agrees, hidle] at hcalm
  cases command with
  | userData address payload request =>
    dsimp only [onCommand]
    split
    · exact (silent_answer ..).sound hagrees hagrees.disciplined
    · next index _ =>
      split
      · exact (silent_answer ..).sound hagrees hagrees.disciplined
      · next peer hpeer =>
        by_cases hactive : peer.state = .active
        · rw [if_pos hactive]
          exact sound_beginExchange hcalm hpeer rfl rfl hactive rfl
        · rw [if_neg hactive]
          exact (silent_answer ..).sound hagrees hagrees.disciplined
  | noReply address payload request =>
    have hsigns : ∀ a, frameSigns a (.userData (.request .userDataNoReply false) address payload) =
        [] := by
      simp [frameSigns, LinkFrame.control?, ControlField.request, PrimaryFunction.isCounted]
    dsimp only [onCommand]
    split
    · apply Silent.sound ⟨rfl, fun a => ?_⟩ hagrees hagrees.disciplined
      simp [outputSigns, hsigns]
    · exact sound_ended hagrees.disciplined rfl fun _ => rfl
  | linkStates request => exact (silent_answer ..).sound hagrees hagrees.disciplined
  | close => exact sound_ended hagrees.disciplined rfl fun _ => rfl

theorem sound_step (hagrees : Agrees retries w p) (m : Moment) (input : Input)
    (hfree : ∀ command, input = .command command → p.isIdle = true) :
    Sound retries (hear input p w) (step m input p) := by
  cases input with
  | frame frame =>
    cases hactivity : p.activity with
    | idle =>
      have hdone : onFrame m frame p = done p := by rw [onFrame, hactivity]
      rw [hear_silent (by simp [inputSigns, hactivity]), step, hdone]
      exact hagrees.sound_done
    | handshake h occasion => exact sound_onFrame_handshake hagrees hactivity m frame
    | exchange x purpose => exact sound_onFrame_exchange hagrees hactivity m frame
  | broken fault =>
    rw [hear_silent (by simp [inputSigns])]
    exact sound_breakOff hagrees.disciplined fault p
  | command command =>
    have hidle : p.activity = .idle := by
      have hfree := hfree command rfl
      unfold isIdle at hfree
      split at hfree
      · next hidle => exact hidle
      · exact nomatch hfree
    rw [hear_silent (by simp [inputSigns])]
    exact sound_onCommand hagrees hidle m command
  | deadline => exact sound_onDeadline hagrees m
  | abandoned =>
    rw [hear_silent (by simp [inputSigns])]
    exact sound_ended hagrees.disciplined rfl fun _ => rfl

/-! ## Runs -/

lemma issued_signs (mail : List Command) (t : Turn) (address : Nat) :
    (Running.issued conduct mail t).flatMap (outputSigns address) =
      t.output.flatMap (outputSigns address) := by
  have hrefusals : (Running.refusals conduct mail).flatMap (outputSigns address) = [] := by
    simp [Running.refusals, outputSigns, List.flatMap_map]
  unfold Running.issued
  split
  · rfl
  · rw [List.flatMap_append, List.flatMap_append, hrefusals]
    simp [conduct, close, outputSigns]

lemma free_of_faces {input : Input} {mail : List Command}
    (h : Running.Faces conduct p input mail) {command : Command}
    (hinput : input = .command command) : p.isIdle = true := by
  obtain ⟨r, occasion, inbox, rfl, hfaces⟩ := h
  rcases input_cases hfaces with ⟨⟨frame, heq⟩ | ⟨fault, heq⟩, -⟩ | ⟨-, -, -, hidle⟩ | ⟨heq, -⟩ |
    ⟨heq, -⟩
  · exact nomatch heq.symm.trans hinput
  · exact nomatch heq.symm.trans hinput
  · exact hidle
  · exact nomatch heq.symm.trans hinput
  · exact nomatch heq.symm.trans hinput

lemma path_disciplined {ending ending' : Option CloseReason} {later : List Record}
    (h : Running.Path conduct p ending later p' ending')
    (hw : ∀ address, Disciplined retries (w address))
    (hagrees : ending = none → Agrees retries w p) (address : Nat) :
    Disciplined retries (w address ++ later.flatMap (turnSigns address)) := by
  -- For any signs before: those of the first turn come before those of the later ones.
  induction h generalizing w with
  | nil =>
    rw [List.flatMap_nil, List.append_nil]
    exact hw address
  | @cons p _ _ later m input mail hfaces _ ih =>
    have hsound : Sound retries (hear input p w) (conduct.step m input p) :=
      sound_step (hagrees rfl) m input fun _ => free_of_faces hfaces
    rw [Running.left_eq_state fun _ _ => rfl] at ih
    have hlater := ih hsound.disciplined hsound.agrees
    rw [note, hear] at hlater
    rw [List.flatMap_cons, turnSigns, issued_signs]
    simpa only [List.append_assoc] using hlater

lemma checkAddresses_cons {link : LinkParameters} {address : Nat} {seen rest : List Nat}
    (h : checkAddresses link seen (address :: rest) = .ok ()) :
    link.checkAddress address = .ok () ∧ address ∉ seen ∧
      checkAddresses link (address :: seen) rest = .ok () := by
  obtain ⟨_, haddress, h⟩ := bind_eq_ok h
  refine ⟨haddress, ?_⟩
  cases hbroadcast : link.isBroadcast address with
  | true => simp [hbroadcast] at h
  | false =>
    rw [hbroadcast] at h
    by_cases hseen : address ∈ seen
    · simp [hseen] at h
    · exact ⟨hseen, by simpa [hseen] using h⟩

lemma nodup_of_checkAddresses {link : LinkParameters} {seen addresses : List Nat}
    (h : checkAddresses link seen addresses = .ok ()) :
    addresses.Nodup ∧ ∀ address ∈ addresses, address ∉ seen := by
  induction addresses generalizing seen with
  | nil => exact ⟨.nil, nofun⟩
  | cons address rest ih =>
    obtain ⟨-, hseen, hrest⟩ := checkAddresses_cons h
    obtain ⟨hnodup, hfresh⟩ := ih hrest
    refine ⟨List.nodup_cons.2 ⟨?_, hnodup⟩, List.forall_mem_cons.2 ⟨hseen, ?_⟩⟩
    · intro hmem
      exact hfresh address hmem List.mem_cons_self
    · intro other hmem hold
      exact hfresh other hmem (List.mem_cons_of_mem _ hold)

lemma checkAddresses_of_validate {link : LinkParameters} {addresses : List Nat}
    (h : validate link addresses = .ok ()) : checkAddresses link [] addresses = .ok () := by
  obtain ⟨_, -, h⟩ := bind_eq_ok h
  by_cases hempty : addresses.isEmpty = true
  · simp [hempty] at h
  · by_cases hwide : link.addressLength = 0 ∧ 1 < addresses.length
    · simp [hempty, hwide] at h
    · simpa [hempty, hwide] using h

lemma sound_start {addresses : List Nat} {link : LinkParameters} {widths : FieldWidths}
    {request : Nat} (h : start m addresses link widths request = .ok t) :
    Sound link.retries (fun _ => []) t := by
  obtain ⟨_, hvalid, heq⟩ := bind_eq_ok h
  obtain rfl := Except.ok.inj heq
  obtain ⟨hnodup, -⟩ := nodup_of_checkAddresses (checkAddresses_of_validate hvalid)
  have hpeer : ∀ (i : Nat) (peer : Peer),
      (addresses.map ({ address := · } : Nat → Peer))[i]? = some peer →
        ∃ address, addresses[i]? = some address ∧ { address } = peer := by
    intro i peer hpeer
    rw [List.getElem?_map] at hpeer
    exact Option.map_eq_some_iff.1 hpeer
  apply sound_openFrom
  constructor
  · rfl
  · intro i j first second hfirst hsecond hsame
    obtain ⟨address, hi, rfl⟩ := hpeer i first hfirst
    obtain ⟨address', hj, rfl⟩ := hpeer j second hsecond
    have hlt := (List.getElem?_eq_some_iff.1 hi).1
    apply (List.getElem?_inj hlt hnodup).1
    rw [hi, hj]
    exact congrArg some hsame
  · exact fun _ => disciplined_nil
  · intro i peer hi _ hactive
    obtain ⟨address, -, rfl⟩ := hpeer i peer hi
    exact nomatch hactive

/-- However the secondaries answer, whatever is lost and whatever the application asks, what passes
between the primary station and a secondary is disciplined. -/
theorem frames_counted {addresses : List Nat} {link : LinkParameters} {widths : FieldWidths}
    {request : Nat} {actions : List Action} {r : Run}
    (hstart : start m addresses link widths request = .ok t)
    (hrun : (Running.begin conduct m.now t).run conduct actions = some r) (address : Nat) :
    Disciplined link.retries (signs address r) := by
  have hsound := sound_start hstart
  obtain ⟨later, hpast, hpath⟩ := Running.run_path hrun
  have hpast : r.past = later := hpast
  have hopening : r.opening = Running.issued conduct [] t := Running.opening_of_run hrun
  have hstation : (Running.begin conduct m.now t).station = t.state :=
    Running.left_eq_state (fun _ _ => rfl) t
  rw [hstation] at hpath
  have hdisciplined := path_disciplined hpath hsound.disciplined hsound.agrees address
  rw [signs, hopening, issued_signs, hpast]
  simpa only [note, List.nil_append] using hdisciplined

/-- A station that polls two secondaries, as it is started. -/
def opening : Turn :=
  (start ⟨0, none⟩ [1, 2] {} .serial 0).toOption.getD
    (done ⟨{}, .serial, [], .idle, none⟩)

/-- A secondary gives its status and acknowledges the reset of its link. -/
def linkUp (address : Nat) : List Action :=
  [receive 1 (.response .statusOfLink false address), receive 1 .singleAck].flatten

/-- One secondary refuses user data and then is silent. The next cycle brings up its link again and
polls the other one. More user data is acknowledged, and the class 1 data that is announced has to
be asked for twice. -/
def lossAndRecovery : List Action :=
  [linkUp 1, linkUp 2, instruct (.userData 1 [7] 1), receive 1 .singleNack, await 500, await 500,
    await 0, linkUp 1, receive 1 .singleAck, instruct (.userData 1 [8] 2),
    receive 1 (.response .ack true 1), await 500,
    receive 1 (.response .respNackNoData false 1)].flatten

def recovered : Run :=
  ((Running.begin conduct 0 opening).run conduct lossAndRecovery).getD
    (Running.begin conduct 0 opening)

/-- The first bit after each reset is set, and the repetitions are the same frame. -/
theorem frames_counted_after_loss :
    start ⟨0, none⟩ [1, 2] {} .serial 0 = .ok opening ∧
      (Running.begin conduct 0 opening).run conduct lossAndRecovery = some recovered ∧
      (∀ address, Disciplined 2 (signs address recovered)) ∧
      signs 1 recovered =
        [[.reset, .confirmed],
          attempts (.userData (.request .userDataConfirmed true) 1 [7]) 2, [.missed],
          [.reset, .confirmed],
          attempts (.userData (.request .userDataConfirmed true) 1 [8]) 0, [.answered],
          attempts (.request .requestClass1 false 1) 1, [.answered]].flatten ∧
      signs 2 recovered =
        [[.reset, .confirmed],
          attempts (.request .requestClass1 true 2) 0, [.answered]].flatten := by
  have hstart : start ⟨0, none⟩ [1, 2] {} .serial 0 = .ok opening := rfl
  have hrun : (Running.begin conduct 0 opening).run conduct lossAndRecovery = some recovered := by
    decide +kernel
  exact ⟨hstart, hrun, fun address => frames_counted hstart hrun address, by decide +kernel,
    by decide +kernel⟩

end Telecontrol.Primary
