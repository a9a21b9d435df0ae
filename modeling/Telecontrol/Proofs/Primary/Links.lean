import Telecontrol.Proofs.Primary.Counting
import Telecontrol.Proofs.Primary.Reports

/-!
# The links of a primary station

What a primary station has reported of its links is what it knows of them, whatever it is doing. A
link is half up only during its own reset, which no turn leaves behind: an answer makes the link
active, and in the end it is given up. One lemma for each function says that the turn that it makes
is truthful (`Faithful`), and where the links stand behind it (`Consistent`).
-/

namespace Telecontrol.Primary

open Telecontrol.Turn (done fail report answer)

open Running (instruct receive await)

/-- What the station knows of its links. -/
def links (p : Primary) : List (Nat × LinkState) :=
  p.peers.map fun peer => (peer.address, peer.state)

/-- No link is half up. -/
def Resting (addresses : List Nat) (w : List Utterance) : Prop :=
  ∀ address ∈ addresses, shown address w ≠ .statusKnown

/-- What may be seen of the link with a number while another one is brought up. -/
def Occasion.Allows (index number : Nat) (state : LinkState) : Occasion → Prop
  | opening _ => state = if number < index then .active else .disconnected
  | cycle => state ≠ .statusKnown

/-- The station has been opened, unless the occasion is that it is to be. -/
def Occasion.Suits (request : Nat) (w : List Utterance) : Occasion → Prop
  | opening number => number = request ∧ firstAnswer w = none
  | cycle => .reported .ready ∈ w

/-- The station has been opened, unless it is busy with that. -/
def Activity.Suits (request : Nat) (w : List Utterance) : Activity → Prop
  | handshake _ occasion => occasion.Suits request w
  | _ => .reported .ready ∈ w

/-- The state of a link during a step. -/
def HandshakeStep.linkState : HandshakeStep → LinkState
  | status => .disconnected
  | reset => .statusKnown

/-- A link is brought up and is in a state. -/
structure Asking (addresses : List Nat) (request : Nat) (w : List Utterance) (index : Nat)
    (state : LinkState) (occasion : Occasion) : Prop where
  suits : occasion.Suits request w
  own : ∃ address, addresses[index]? = some address ∧ shown address w = state
  others : ∀ i address, addresses[i]? = some address → i ≠ index →
    occasion.Allows index i (shown address w)

/-- An exchange is under way with a secondary whose link is up. -/
structure Talking (addresses : List Nat) (w : List Utterance) (x : Exchange) : Prop where
  opened : .reported .ready ∈ w
  resting : Resting addresses w
  own : ∃ address, addresses[x.index]? = some address ∧ shown address w = .active ∧
    x.frame.address? = some address

/-- What was reported of the links is what the station knows of them. -/
structure Mirrored (addresses : List Nat) (request : Nat) (w : List Utterance) (p : Primary) :
    Prop where
  truthful : Truthful addresses request w
  distinct : addresses.Nodup
  links : p.links = addresses.map fun address => (address, shown address w)

/-- The links are in states that the activity of the station calls for. -/
def Suited (addresses : List Nat) (request : Nat) (w : List Utterance) : Activity → Prop
  | .idle => .reported .ready ∈ w ∧ Resting addresses w
  | .handshake h occasion => Asking addresses request w h.index h.step.linkState occasion
  | .exchange x _ => Talking addresses w x

structure Consistent (addresses : List Nat) (request : Nat) (w : List Utterance) (p : Primary) :
    Prop where
  mirrored : Mirrored addresses request w p
  suited : Suited addresses request w p.activity

/-- What is put out in a turn is truthful. If the turn ends the station, there has been an answer
to the request that has opened it. -/
structure Faithful (addresses : List Nat) (request : Nat) (w : List Utterance) (t : Turn) :
    Prop where
  truthful : Truthful addresses request (w ++ t.output)
  answered : t.ending ≠ none → firstAnswer (w ++ t.output) ≠ none
  unlost : ∀ reason, .reported (.lost reason) ∉ t.output
  consistent : t.ending = none → Consistent addresses request (w ++ t.output) t.state

variable {addresses : List Nat} {request index : Nat} {w w' : List Utterance} {o : Utterance}
  {p p' : Primary} {m : Moment} {peer : Peer} {frame : LinkFrame} {t : Turn}
  {next : Primary → Turn} {occasion : Occasion} {purpose : Purpose} {state : LinkState}

/-! ## What is seen of the links -/

lemma address_ne {i j address other : Nat} (hdistinct : addresses.Nodup)
    (hi : addresses[i]? = some address) (hj : addresses[j]? = some other) (hne : i ≠ j) :
    address ≠ other := by
  rintro rfl
  have hlt := (List.getElem?_eq_some_iff.1 hi).1
  exact hne ((List.getElem?_inj hlt hdistinct).1 (hi.trans hj.symm))

lemma links_setPeer (index : Nat) {f : Peer → Peer} (hf : ∀ peer, (f peer).address = peer.address)
    (hstate : ∀ peer, (f peer).state = peer.state) : (p.setPeer index f).links = p.links := by
  simp only [links, setPeer]
  apply List.ext_getElem?
  intro i
  simp only [List.getElem?_map, List.getElem?_modify]
  cases p.peers[i]? with
  | none => rfl
  | some peer => by_cases h : index = i <;> simp [h, hf, hstate]

namespace Mirrored

lemma of_peer (h : Mirrored addresses request w p) (hpeer : p.peers[index]? = some peer) :
    addresses[index]? = some peer.address ∧ shown peer.address w = peer.state := by
  have hlink : p.links[index]? = some (peer.address, peer.state) := by
    rw [Primary.links, List.getElem?_map, hpeer]
    rfl
  rw [h.links, List.getElem?_map] at hlink
  obtain ⟨address, haddress, heq⟩ := Option.map_eq_some_iff.1 hlink
  obtain ⟨rfl, hstate⟩ := Prod.mk.inj heq
  exact ⟨haddress, hstate⟩

lemma length (h : Mirrored addresses request w p) : p.peers.length = addresses.length := by
  have hlength := congrArg List.length h.links
  simpa [Primary.links] using hlength

lemma congr (h : Mirrored addresses request w p) (hlinks : p'.links = p.links) :
    Mirrored addresses request w p' :=
  ⟨h.truthful, h.distinct, hlinks.trans h.links⟩

lemma again (h : Mirrored addresses request w p) (htruthful : Truthful addresses request w')
    (hshown : ∀ address, shown address w' = shown address w) :
    Mirrored addresses request w' p where
  truthful := htruthful
  distinct := h.distinct
  links := by
    rw [h.links]
    exact List.map_congr_left fun address _ => by rw [hshown]

lemma setState (h : Mirrored addresses request w p) (hpeer : p.peers[index]? = some peer)
    (state : LinkState) (hfollows : Follows peer.state state) :
    Mirrored addresses request (w ++ [.reported (.linkStateChanged peer.address state)])
      (p.setPeer index ({ · with state })) where
  truthful := by
    obtain ⟨haddress, hshown⟩ := h.of_peer hpeer
    refine h.truthful.snoc ⟨List.mem_of_getElem? haddress, ?_⟩ (by simp) (.inl rfl)
    rw [hshown]
    exact hfollows
  distinct := h.distinct
  links := by
    obtain ⟨haddress, -⟩ := h.of_peer hpeer
    apply List.ext_getElem?
    intro i
    simp only [Primary.links, setPeer, List.getElem?_map, List.getElem?_modify]
    by_cases hi : index = i
    · subst hi
      rw [hpeer, haddress]
      simp [shown_report]
    · -- Another link has another address, and nothing new was reported of it.
      have hlink := congrArg (·[i]?) h.links
      simp only [Primary.links, List.getElem?_map] at hlink
      simp only [hi, if_false, id_map']
      rw [hlink]
      cases hother : addresses[i]? with
      | none => rfl
      | some address =>
        have hne : peer.address ≠ address := address_ne h.distinct haddress hother hi
        simp [shown_report_of_ne hne]

end Mirrored

/-- Nothing new is seen of the links and of the request that opens the station. -/
structure Quiet (w w' : List Utterance) : Prop where
  shown : ∀ address, shown address w' = shown address w
  answered : firstAnswer w' = firstAnswer w
  opened : .reported .ready ∈ w → .reported .ready ∈ w'

lemma quiet_snoc (hstate : ∀ address, o.linkState? address = none)
    (hanswer : o.answer? = none ∨ firstAnswer w ≠ none) : Quiet w (w ++ [o]) where
  shown address := shown_snoc_of_none (hstate address)
  answered := firstAnswer_snoc_of_ne hanswer
  opened := List.mem_append_left _

lemma Resting.quiet (h : Resting addresses w) (hquiet : Quiet w w') : Resting addresses w' := by
  intro address hmem
  rw [hquiet.shown]
  exact h address hmem

lemma Occasion.Suits.quiet (h : occasion.Suits request w) (hquiet : Quiet w w') :
    occasion.Suits request w' := by
  cases occasion with
  | opening number => exact ⟨h.1, hquiet.answered.trans h.2⟩
  | cycle => exact hquiet.opened h

lemma Asking.quiet (h : Asking addresses request w index state occasion) (hquiet : Quiet w w') :
    Asking addresses request w' index state occasion where
  suits := h.suits.quiet hquiet
  own := by
    obtain ⟨address, haddress, hown⟩ := h.own
    exact ⟨address, haddress, (hquiet.shown address).trans hown⟩
  others i address haddress hne := by
    rw [hquiet.shown]
    exact h.others i address haddress hne

lemma Talking.quiet {x : Exchange} (h : Talking addresses w x) (hquiet : Quiet w w') :
    Talking addresses w' x where
  opened := hquiet.opened h.opened
  resting := h.resting.quiet hquiet
  own := by
    obtain ⟨address, haddress, hactive, hframe⟩ := h.own
    exact ⟨address, haddress, (hquiet.shown address).trans hactive, hframe⟩

lemma Suited.quiet {activity : Activity} (h : Suited addresses request w activity)
    (hquiet : Quiet w w') : Suited addresses request w' activity := by
  cases activity with
  | idle => exact ⟨hquiet.opened h.1, h.2.quiet hquiet⟩
  | handshake => exact Asking.quiet h hquiet
  | exchange => exact Talking.quiet h hquiet

lemma Consistent.put (h : Consistent addresses request w p) (hpermitted : Permitted addresses w o)
    (hready : o ≠ .reported .ready) (hstate : ∀ address, o.linkState? address = none)
    (hanswer : o.answer? = none ∨ firstAnswer w ≠ none) :
    Consistent addresses request (w ++ [o]) p where
  mirrored := h.mirrored.again (h.mirrored.truthful.snoc hpermitted hready hanswer)
    fun address => shown_snoc_of_none (hstate address)
  suited := h.suited.quiet (quiet_snoc hstate hanswer)

/-! ## Turns -/

lemma faithful_done (h : Consistent addresses request w p) :
    Faithful addresses request w (done p) where
  truthful := by
    rw [done, List.append_nil]
    exact h.mirrored.truthful
  answered hended := absurd rfl hended
  unlost := by simp [done]
  consistent _ := by
    rw [done, List.append_nil]
    exact h

lemma Faithful.behind {first : Turn} (hending : first.ending = none)
    (hlost : ∀ reason, .reported (.lost reason) ∉ first.output)
    (h : Faithful addresses request (w ++ first.output) (next first.state)) :
    Faithful addresses request w (first.andThen next) := by
  rw [Turn.andThen_of_none hending]
  have happend : w ++ (first.output ++ (next first.state).output) =
      w ++ first.output ++ (next first.state).output := (List.append_assoc ..).symm
  exact {
    truthful := happend ▸ h.truthful
    answered := happend ▸ h.answered
    unlost := by
      intro reason hmem
      obtain hmem | hmem := List.mem_append.1 hmem
      · exact hlost reason hmem
      · exact h.unlost reason hmem
    consistent := happend ▸ h.consistent }

lemma faithful_put (h : Consistent addresses request (w ++ [o]) p)
    (hlost : ∀ reason, o ≠ .reported (.lost reason)) :
    Faithful addresses request w ⟨p, [o], none⟩ where
  truthful := h.mirrored.truthful
  answered hended := absurd rfl hended
  unlost reason hmem := hlost reason (List.mem_singleton.1 hmem).symm
  consistent _ := h

lemma faithful_ended (h : Truthful addresses request w) (hopen : firstAnswer w ≠ none)
    (reason : CloseReason) (p : Primary) : Faithful addresses request w ⟨p, [], some reason⟩ where
  truthful := by
    rw [List.append_nil]
    exact h
  answered _ := by
    rw [List.append_nil]
    exact hopen
  unlost := by simp
  consistent := nofun

lemma faithful_ended_refused (h : Truthful addresses request w) (hopen : firstAnswer w ≠ none)
    (number : Nat) (fault : Fault) (reason : CloseReason) (p : Primary) :
    Faithful addresses request w ⟨p, [.answered number (.refused fault)], some reason⟩ where
  truthful := h.snoc trivial (by simp) (.inr hopen)
  answered _ := by rwa [firstAnswer_snoc_of_ne (.inr hopen)]
  unlost := by simp
  consistent := nofun

lemma Suited.suits {activity : Activity} (h : Suited addresses request w activity) :
    activity.Suits request w := by
  cases activity with
  | idle => exact h.1
  | handshake => exact Asking.suits h
  | exchange => exact Talking.opened h

lemma faithful_breakOff (h : Truthful addresses request w) (hsuits : p.activity.Suits request w)
    (fault : Fault) : Faithful addresses request w (breakOff fault p) := by
  unfold breakOff
  cases hactivity : p.activity with
  | idle =>
    rw [hactivity] at hsuits
    exact faithful_ended h (h.firstAnswer_ne_none hsuits) _ p
  | handshake handshake occasion =>
    rw [hactivity] at hsuits
    cases occasion with
    | cycle => exact faithful_ended h (h.firstAnswer_ne_none hsuits) _ p
    | opening number =>
      obtain ⟨rfl, hnone⟩ := hsuits
      exact {
        truthful := h.refuse hnone fault
        answered := fun _ => by
          rw [firstAnswer_snoc, hnone]
          exact Option.some_ne_none _
        unlost := by simp
        consistent := nofun }
  | exchange x purpose =>
    rw [hactivity] at hsuits
    cases purpose with
    | userData number =>
      exact faithful_ended_refused h (h.firstAnswer_ne_none hsuits) number _ _ p
    | poll | drain => exact faithful_ended h (h.firstAnswer_ne_none hsuits) _ p

lemma faithful_transmit (h : Consistent addresses request w p)
    (hpermitted : CountsOn frame → ∃ address ∈ addresses,
      frame.address? = some address ∧ shown address w = .active) :
    Faithful addresses request w (transmit m frame p) := by
  unfold transmit
  split
  · exact faithful_put (h.put hpermitted (by simp) (fun _ => rfl) (.inl rfl)) (by simp)
  · exact faithful_breakOff h.mirrored.truthful h.suited.suits _

/-! ## Handshakes -/

lemma not_countsOn_handshake (h : Handshake) (fcb : Bool) (address : Nat) :
    ¬CountsOn (.request h.function fcb address) := by
  rintro ⟨function, _, _, hcontrol, hmem⟩
  obtain ⟨rfl, -⟩ := ControlField.primary.inj (Option.some.inj hcontrol)
  unfold Handshake.function at hmem
  cases hstep : h.step <;> simp [hstep] at hmem

lemma faithful_sendRequest {h : Handshake} (hmirrored : Mirrored addresses request w p)
    (hasking : Asking addresses request w h.index h.step.linkState occasion) (address : Nat) :
    Faithful addresses request w (sendRequest m h occasion address p) := by
  unfold sendRequest
  refine faithful_transmit ⟨hmirrored.congr rfl, hasking⟩ fun hcounts => ?_
  exact absurd hcounts (not_countsOn_handshake _ false address)

lemma faithful_beginHandshake (step : HandshakeStep) (hmirrored : Mirrored addresses request w p)
    (hasking : Asking addresses request w index step.linkState occasion) (address : Nat) :
    Faithful addresses request w (beginHandshake m index step occasion address p) :=
  faithful_sendRequest (h := ⟨index, step, _, _, _⟩) hmirrored hasking address

/-! ## Exchanges -/

lemma faithful_beginExchange {function : PrimaryFunction} {payload : Option Octets}
    (hmirrored : Mirrored addresses request w p) (hopen : .reported .ready ∈ w)
    (hresting : Resting addresses w) (haddress : addresses[index]? = some peer.address)
    (hactive : shown peer.address w = .active) :
    Faithful addresses request w (beginExchange m index peer function payload purpose p) := by
  have hset : Mirrored addresses request w (p.setPeer index ({ · with fcb := !peer.fcb })) :=
    hmirrored.congr (links_setPeer index (fun _ => rfl) fun _ => rfl)
  have hmem := List.mem_of_getElem? haddress
  unfold beginExchange
  cases payload <;>
    exact faithful_transmit ⟨hset.congr rfl, hopen, hresting, peer.address, haddress, hactive, rfl⟩
      fun _ => ⟨peer.address, hmem, rfl, hactive⟩

lemma faithful_beginPoll (hmirrored : Mirrored addresses request w p)
    (hopen : .reported .ready ∈ w) (hresting : Resting addresses w)
    (haddress : addresses[index]? = some peer.address) (hactive : shown peer.address w = .active) :
    Faithful addresses request w (beginPoll m index peer p) :=
  faithful_beginExchange
    (hmirrored.congr (links_setPeer index (fun _ => rfl) fun _ => rfl)) hopen hresting haddress
    hactive

/-! ## Poll cycles and opening -/

lemma faithful_rest (hmirrored : Mirrored addresses request w p) (hopen : .reported .ready ∈ w)
    (hresting : Resting addresses w) : Faithful addresses request w (rest p) :=
  faithful_done ⟨hmirrored.congr rfl, hopen, hresting⟩

lemma faithful_cycleFrom (hmirrored : Mirrored addresses request w p)
    (hopen : .reported .ready ∈ w) (hresting : Resting addresses w) (m : Moment) (index : Nat) :
    Faithful addresses request w (cycleFrom m index p) := by
  unfold cycleFrom
  split
  · exact faithful_rest hmirrored hopen hresting
  · next peer hpeer =>
    obtain ⟨haddress, hshown⟩ := hmirrored.of_peer hpeer
    by_cases hactive : peer.state = .active
    · rw [if_pos hactive]
      exact faithful_beginPoll hmirrored hopen hresting haddress (hshown.trans hactive)
    · rw [if_neg hactive]
      have hdown : shown peer.address w = .disconnected := by
        have hsettled := hresting peer.address (List.mem_of_getElem? haddress)
        rw [hshown] at hsettled ⊢
        cases hstate : peer.state with
        | disconnected => rfl
        | statusKnown => exact absurd hstate hsettled
        | active => exact absurd hstate hactive
      apply faithful_beginHandshake .status hmirrored
      exact ⟨hopen, ⟨peer.address, haddress, hdown⟩, fun i address hother _ =>
        hresting address (List.mem_of_getElem? hother)⟩

lemma faithful_openFrom (hmirrored : Mirrored addresses request w p)
    (hnone : firstAnswer w = none)
    (hlinks : ∀ i address, addresses[i]? = some address →
      shown address w = if i < index then .active else .disconnected) (m : Moment) :
    Faithful addresses request w (openFrom m index request p) := by
  unfold openFrom
  split
  · next peer hpeer =>
    obtain ⟨haddress, -⟩ := hmirrored.of_peer hpeer
    apply faithful_beginHandshake .status hmirrored
    refine ⟨⟨rfl, hnone⟩, ⟨peer.address, haddress, ?_⟩, fun i address hother _ =>
      hlinks i address hother⟩
    rw [hlinks index peer.address haddress, if_neg (Nat.lt_irrefl index)]
    rfl
  · next hlast =>
    have hup : ∀ address ∈ addresses, shown address w = .active := by
      intro address hmem
      obtain ⟨i, hi⟩ := List.getElem?_of_mem hmem
      have hlt : i < index := by
        have hlength := List.getElem?_eq_none_iff.1 hlast
        have hcount := (List.getElem?_eq_some_iff.1 hi).1
        rw [hmirrored.length] at hlength
        omega
      rw [hlinks i address hi, if_pos hlt]
    have hshown (address : Nat) :
        shown address (w ++ [.answered request .done] ++ [.reported .ready]) = shown address w :=
      (shown_snoc_of_none rfl).trans (shown_snoc_of_none rfl)
    have hresting :
        Resting addresses (w ++ [.answered request .done] ++ [.reported .ready]) := by
      intro address hmem
      rw [hshown, hup address hmem]
      simp
    apply Faithful.behind rfl (by simp [answer])
    exact faithful_put ⟨(hmirrored.again (hmirrored.truthful.grant hnone hup) hshown).congr rfl,
      List.mem_append_right _ List.mem_cons_self, hresting⟩ (by simp)

lemma faithful_beginCycle (hmirrored : Mirrored addresses request w p)
    (hopen : .reported .ready ∈ w) (hresting : Resting addresses w) (m : Moment) (due : Nat) :
    Faithful addresses request w (beginCycle m due p) := by
  apply faithful_cycleFrom _ hopen hresting
  exact hmirrored.congr rfl

/-! ## The end of handshakes -/

lemma setLinkState_of_eq (hpeer : p.peers[index]? = some peer) (h : peer.state = state) :
    setLinkState index state p = done p := by
  rw [setLinkState, hpeer]
  exact if_pos h

lemma setLinkState_of_ne (hpeer : p.peers[index]? = some peer) (h : peer.state ≠ state) :
    setLinkState index state p =
      report (.linkStateChanged peer.address state) (p.setPeer index ({ · with state })) := by
  rw [setLinkState, hpeer]
  exact if_neg h

lemma Resting.report (h : Resting addresses w) (state : LinkState) (hstate : state ≠ .statusKnown)
    (address : Nat) :
    Resting addresses (w ++ [.reported (.linkStateChanged address state)]) := by
  intro other hmem
  by_cases heq : address = other
  · rw [heq, shown_report]
    exact hstate
  · rw [shown_report_of_ne heq]
    exact h other hmem

namespace Asking

lemma report {address : Nat} (h : Asking addresses request w index state occasion)
    (hdistinct : addresses.Nodup) (haddress : addresses[index]? = some address)
    (state' : LinkState) :
    Asking addresses request (w ++ [.reported (.linkStateChanged address state')]) index state'
      occasion where
  suits := by
    have hsuits := h.suits
    cases occasion with
    | opening number => exact ⟨hsuits.1, (firstAnswer_snoc_of_ne (.inl rfl)).trans hsuits.2⟩
    | cycle => exact List.mem_append_left _ hsuits
  own := ⟨address, haddress, shown_report address state' w⟩
  others := by
    intro i other hother hne
    rw [shown_report_of_ne (address_ne hdistinct haddress hother hne.symm)]
    exact h.others i other hother hne

lemma opened_upto {number : Nat} (h : Asking addresses request w index .active (.opening number))
    (i address : Nat) (haddress : addresses[i]? = some address) :
    shown address w = if i < index + 1 then .active else .disconnected := by
  by_cases hi : i = index
  · obtain ⟨own, hown, hactive⟩ := h.own
    rw [hi, hown] at haddress
    rw [if_pos (by omega), ← Option.some.inj haddress, hactive]
  · have hother : shown address w = if i < index then .active else .disconnected :=
      h.others i address haddress hi
    rw [hother]
    by_cases hlt : i < index
    · rw [if_pos hlt, if_pos (by omega)]
    · rw [if_neg hlt, if_neg (by omega)]

lemma resting (h : Asking addresses request w index state .cycle) (hstate : state ≠ .statusKnown) :
    Resting addresses w := by
  intro address hmem
  obtain ⟨i, hi⟩ := List.getElem?_of_mem hmem
  by_cases heq : i = index
  · obtain ⟨own, hown, hshown⟩ := h.own
    rw [heq, hown] at hi
    rw [← Option.some.inj hi, hshown]
    exact hstate
  · exact h.others i address hi heq

lemma state_eq (h : Asking addresses request w index state occasion)
    (hmirrored : Mirrored addresses request w p) (hpeer : p.peers[index]? = some peer) :
    peer.state = state := by
  obtain ⟨address, haddress, hshown⟩ := h.own
  obtain ⟨haddress', hshown'⟩ := hmirrored.of_peer hpeer
  rw [← hshown', ← hshown, Option.some.inj (haddress'.symm.trans haddress)]

end Asking

lemma faithful_linkEstablished (hmirrored : Mirrored addresses request w p)
    (hpeer : p.peers[index]? = some peer)
    (hasking : Asking addresses request w index .statusKnown occasion) (m : Moment) :
    Faithful addresses request w (linkEstablished m index occasion p) := by
  have hknown : peer.state = .statusKnown := hasking.state_eq hmirrored hpeer
  have hset := hmirrored.congr
    (links_setPeer (f := ({ · with nextPoll := .class1 })) index (fun _ => rfl) fun _ => rfl)
  have hpeer' := peers_setPeer ({ · with nextPoll := .class1 }) hpeer
  have hup := hset.setState hpeer' .active (by
    rw [hknown]
    exact .established)
  have hasking' := hasking.report hmirrored.distinct (hmirrored.of_peer hpeer).1 .active
  unfold linkEstablished
  rw [setLinkState_of_ne hpeer' (by simp [hknown])]
  apply Faithful.behind rfl (by simp [report])
  cases occasion with
  | opening number =>
    obtain ⟨rfl, hnone⟩ := hasking'.suits
    exact faithful_openFrom hup hnone hasking'.opened_upto m
  | cycle => exact faithful_cycleFrom hup hasking'.suits (hasking'.resting (by simp)) m (index + 1)

lemma setLinkState_gaveUp {step : HandshakeStep} (hmirrored : Mirrored addresses request w p)
    (hpeer : p.peers[index]? = some peer)
    (hasking : Asking addresses request w index step.linkState occasion) :
    let t := setLinkState index .disconnected p
    t.ending = none ∧ (∀ reason, .reported (.lost reason) ∉ t.output) ∧
      Mirrored addresses request (w ++ t.output) t.state ∧
      Asking addresses request (w ++ t.output) index .disconnected occasion := by
  have hstate : peer.state = step.linkState := hasking.state_eq hmirrored hpeer
  cases step with
  | status =>
    have hdown : peer.state = .disconnected := hstate
    rw [setLinkState_of_eq hpeer hdown]
    dsimp only [done]
    rw [List.append_nil]
    exact ⟨rfl, by simp, hmirrored, hasking⟩
  | reset =>
    have hdown := hmirrored.setState hpeer .disconnected (by
      rw [hstate]
      exact .failed)
    have hasking' := hasking.report hmirrored.distinct (hmirrored.of_peer hpeer).1 .disconnected
    rw [setLinkState_of_ne hpeer (by simp [hstate, HandshakeStep.linkState]), report]
    exact ⟨rfl, by simp, hdown, hasking'⟩

lemma faithful_linkFailed {h : Handshake} (hmirrored : Mirrored addresses request w p)
    (hpeer : p.peers[h.index]? = some peer)
    (hasking : Asking addresses request w h.index h.step.linkState occasion)
    (hactivity : p.activity = .handshake h occasion) (m : Moment) (address : Nat) :
    Faithful addresses request w (linkFailed m h.index occasion address p) := by
  obtain ⟨hending, hlost, hdown, hasking'⟩ := setLinkState_gaveUp hmirrored hpeer hasking
  apply Faithful.behind hending hlost
  cases occasion with
  | opening number =>
    refine faithful_breakOff hdown.truthful ?_ _
    rw [setLinkState_activity, hactivity]
    exact hasking'.suits
  | cycle =>
    exact faithful_cycleFrom hdown hasking'.suits (hasking'.resting (by simp)) m (h.index + 1)

lemma faithful_handshakeAnswered {h : Handshake} (hmirrored : Mirrored addresses request w p)
    (hpeer : p.peers[h.index]? = some peer)
    (hasking : Asking addresses request w h.index h.step.linkState occasion) (m : Moment)
    (address : Nat) :
    Faithful addresses request w (handshakeAnswered m h occasion address p) := by
  have hstate : peer.state = h.step.linkState := hasking.state_eq hmirrored hpeer
  unfold handshakeAnswered
  cases hstep : h.step with
  | status =>
    rw [hstep] at hasking hstate
    have hknown := hmirrored.setState hpeer .statusKnown (by
      rw [hstate]
      exact .known)
    have hasking' := hasking.report hmirrored.distinct (hmirrored.of_peer hpeer).1 .statusKnown
    dsimp only
    rw [setLinkState_of_ne hpeer (by simp [hstate, HandshakeStep.linkState])]
    apply Faithful.behind rfl (by simp [report])
    have hready := hknown.congr
      (links_setPeer (f := ({ · with fcb := false })) h.index (fun _ => rfl) fun _ => rfl)
    exact faithful_beginHandshake .reset hready hasking' address
  | reset =>
    rw [hstep] at hasking
    exact faithful_linkEstablished hmirrored hpeer hasking m

lemma faithful_handshakeExpired {h : Handshake} (hmirrored : Mirrored addresses request w p)
    (hpeer : p.peers[h.index]? = some peer)
    (hasking : Asking addresses request w h.index h.step.linkState occasion)
    (hactivity : p.activity = .handshake h occasion) (m : Moment) :
    Faithful addresses request w (handshakeExpired m h occasion peer.address p) := by
  unfold handshakeExpired
  split
  · exact faithful_linkFailed hmirrored hpeer hasking hactivity m peer.address
  · exact faithful_sendRequest hmirrored hasking peer.address

/-! ## The end of exchanges -/

lemma faithful_resume (hmirrored : Mirrored addresses request w p)
    (hopen : .reported .ready ∈ w) (hresting : Resting addresses w) (m : Moment) (index : Nat)
    (context : Context) : Faithful addresses request w (resume m index context p) := by
  cases context with
  | afterData => exact faithful_rest hmirrored hopen hresting
  | inCycle => exact faithful_cycleFrom hmirrored hopen hresting m (index + 1)

lemma faithful_drain {x : Exchange} (hmirrored : Mirrored addresses request w p)
    (htalking : Talking addresses w x) (m : Moment) (more : Nat) (context : Context) :
    Faithful addresses request w (drain m x.index more context p) := by
  unfold drain
  split
  · next peer hpeer =>
    obtain ⟨address, haddress, hactive, -⟩ := htalking.own
    obtain ⟨hown, -⟩ := hmirrored.of_peer hpeer
    obtain rfl := Option.some.inj (haddress.symm.trans hown)
    exact faithful_beginExchange hmirrored htalking.opened htalking.resting hown hactive
  · exact faithful_resume hmirrored htalking.opened htalking.resting m x.index context

lemma faithful_reportData {x : Exchange} (hmirrored : Mirrored addresses request w p)
    (htalking : Talking addresses w x) (response : LinkFrame)
    (hnext : ∀ w', Mirrored addresses request w' p → Talking addresses w' x →
      Faithful addresses request w' (next p)) :
    Faithful addresses request w ((reportData response p).andThen next) := by
  have hsilent : Faithful addresses request w ((done p).andThen next) := by
    rw [Turn.done_andThen]
    exact hnext w hmirrored htalking
  unfold reportData
  split
  · split
    · next asdu _ =>
      have hquiet : Quiet w (w ++ [.reported (.asduReceived asdu)]) :=
        quiet_snoc (fun _ => rfl) (.inl rfl)
      have htruthful := hmirrored.truthful.snoc (o := .reported (.asduReceived asdu)) trivial
        (by simp) (.inl rfl)
      exact Faithful.behind rfl (by simp [report])
        (hnext _ (hmirrored.again htruthful hquiet.shown) (htalking.quiet hquiet))
    · exact hsilent
  · exact hsilent

lemma faithful_exchangeAnswered {x : Exchange} (hmirrored : Mirrored addresses request w p)
    (htalking : Talking addresses w x) (m : Moment) (response : LinkFrame) :
    Faithful addresses request w (exchangeAnswered m x purpose response p) := by
  have hidle : Mirrored addresses request w { p with activity := .idle } := hmirrored.congr rfl
  have hopen := hmirrored.truthful.firstAnswer_ne_none htalking.opened
  have hconsistent : Consistent addresses request w { p with activity := .idle } :=
    ⟨hidle, htalking.opened, htalking.resting⟩
  have hafter (more : Nat) (context : Context) (w' : List Utterance)
      (hmirrored : Mirrored addresses request w' { p with activity := .idle })
      (htalking : Talking addresses w' x) : Faithful addresses request w'
        (if announcesData response then drain m x.index more context { p with activity := .idle }
        else resume m x.index context { p with activity := .idle }) := by
    split
    · exact faithful_drain hmirrored htalking m more context
    · exact faithful_resume hmirrored htalking.opened htalking.resting m x.index context
  unfold exchangeAnswered
  cases purpose with
  | userData number =>
    dsimp only
    split
    · have hput := hconsistent.put (o := .answered number .done) trivial (by simp) (fun _ => rfl)
        (.inr hopen)
      have htalking' := htalking.quiet (quiet_snoc (o := .answered number .done) (fun _ => rfl)
        (.inr hopen))
      apply Faithful.behind rfl (by simp [answer])
      split
      · exact faithful_drain hput.mirrored htalking' m maxDrain .afterData
      · exact faithful_done hput
    · exact faithful_put (hconsistent.put trivial (by simp) (fun _ => rfl) (.inr hopen)) (by simp)
  | poll => exact faithful_reportData hidle htalking response (hafter maxDrain .inCycle)
  | drain more context => exact faithful_reportData hidle htalking response (hafter more context)

lemma faithful_exchangeFailed {x : Exchange} (hmirrored : Mirrored addresses request w p)
    (htalking : Talking addresses w x) (m : Moment) :
    Faithful addresses request w (exchangeFailed m x purpose p) := by
  obtain ⟨address, haddress, hactive, -⟩ := htalking.own
  obtain ⟨peer, hpeer⟩ : ∃ peer, p.peers[x.index]? = some peer := by
    have hlt := (List.getElem?_eq_some_iff.1 haddress).1
    rw [← hmirrored.length] at hlt
    exact ⟨_, List.getElem?_eq_getElem hlt⟩
  obtain ⟨hown, hshown⟩ := hmirrored.of_peer hpeer
  obtain rfl := Option.some.inj (haddress.symm.trans hown)
  have hup : peer.state = .active := hshown.symm.trans hactive
  have hidle : Mirrored addresses request w { p with activity := .idle } := hmirrored.congr rfl
  have hdown := hidle.setState hpeer .disconnected (by
    rw [hup]
    exact .lost)
  have hresting := htalking.resting.report .disconnected (by simp) peer.address
  have hopen : .reported .ready ∈ w ++ [.reported (.linkStateChanged peer.address .disconnected)] :=
    List.mem_append_left _ htalking.opened
  unfold exchangeFailed
  rw [setLinkState_of_ne (p := { p with activity := .idle }) hpeer (by simp [hup])]
  apply Faithful.behind rfl (by simp [report])
  cases purpose with
  | userData number =>
    have hconsistent : Consistent addresses request _ (Primary.setPeer
        { p with activity := .idle } x.index ({ · with state := .disconnected })) :=
      ⟨hdown, hopen, hresting⟩
    exact faithful_put (hconsistent.put trivial (by simp) (fun _ => rfl)
      (.inr (hdown.truthful.firstAnswer_ne_none hopen))) (by simp)
  | poll => exact faithful_resume hdown hopen hresting m x.index .inCycle
  | drain more context => exact faithful_resume hdown hopen hresting m x.index context

lemma faithful_exchangeMissed {x : Exchange} (hmirrored : Mirrored addresses request w p)
    (htalking : Talking addresses w x) (m : Moment) :
    Faithful addresses request w (exchangeMissed m x purpose p) := by
  unfold exchangeMissed
  split
  · exact faithful_exchangeFailed hmirrored htalking m
  · obtain ⟨address, haddress, hactive, hframe⟩ := htalking.own
    exact faithful_transmit
      ⟨hmirrored.congr rfl, htalking.opened, htalking.resting, htalking.own⟩
      fun _ => ⟨address, List.mem_of_getElem? haddress, hframe, hactive⟩

/-! ## What happens -/

lemma faithful_onFrame (h : Consistent addresses request w p) (m : Moment) (frame : LinkFrame) :
    Faithful addresses request w (onFrame m frame p) := by
  have hsuited := h.suited
  unfold onFrame
  cases hactivity : p.activity with
  | idle => exact faithful_done h
  | handshake handshake occasion =>
    rw [hactivity] at hsuited
    dsimp only
    split
    · exact faithful_done h
    · next peer hpeer =>
      split
      · exact faithful_done h
      · split
        · exact faithful_handshakeAnswered h.mirrored hpeer hsuited m peer.address
        · exact faithful_done ⟨h.mirrored.congr rfl, hsuited⟩
  | exchange x purpose =>
    rw [hactivity] at hsuited
    dsimp only
    split
    · exact faithful_done h
    · split
      · exact faithful_exchangeMissed h.mirrored hsuited m
      · exact faithful_exchangeAnswered h.mirrored hsuited m frame

lemma faithful_onDeadline (h : Consistent addresses request w p) (m : Moment) :
    Faithful addresses request w (onDeadline m p) := by
  have hsuited := h.suited
  unfold onDeadline
  cases hactivity : p.activity with
  | idle =>
    rw [hactivity] at hsuited
    dsimp only
    split
    · exact faithful_beginCycle h.mirrored hsuited.1 hsuited.2 m _
    · exact faithful_done h
  | handshake handshake occasion =>
    rw [hactivity] at hsuited
    dsimp only
    split
    · exact faithful_done h
    · next peer hpeer => exact faithful_handshakeExpired h.mirrored hpeer hsuited hactivity m
  | exchange x purpose =>
    rw [hactivity] at hsuited
    exact faithful_exchangeMissed h.mirrored hsuited m

lemma faithful_onCommand (h : Consistent addresses request w p) (hidle : p.activity = .idle)
    (m : Moment) (command : Command) : Faithful addresses request w (onCommand m command p) := by
  obtain ⟨hopen, hresting⟩ : .reported .ready ∈ w ∧ Resting addresses w := by
    have hsuited := h.suited
    rw [hidle] at hsuited
    exact hsuited
  have hanswered := h.mirrored.truthful.firstAnswer_ne_none hopen
  have hrefused (number : Nat) (fault : Fault) :
      Faithful addresses request w (answer number (.refused fault) p) :=
    faithful_put (h.put trivial (by simp) (fun _ => rfl) (.inr hanswered)) (by simp)
  cases command with
  | userData address payload number =>
    dsimp only [onCommand]
    split
    · exact hrefused number _
    · next index _ =>
      split
      · exact hrefused number _
      · next peer hpeer =>
        obtain ⟨haddress, hshown⟩ := h.mirrored.of_peer hpeer
        by_cases hactive : peer.state = .active
        · rw [if_pos hactive]
          exact faithful_beginExchange h.mirrored hopen hresting haddress (hshown.trans hactive)
        · rw [if_neg hactive]
          exact hrefused number _
  | noReply address payload number =>
    have hcounts : ¬CountsOn (.userData (.request .userDataNoReply false) address payload) := by
      rintro ⟨function, _, _, hcontrol, hmem⟩
      obtain ⟨rfl, -⟩ := ControlField.primary.inj (Option.some.inj hcontrol)
      simp at hmem
    dsimp only [onCommand]
    split
    · next octets _ =>
      have hwritten := h.put (o := .wrote _ octets) (fun hc => absurd hc hcounts) (by simp)
        (fun _ => rfl) (.inl rfl)
      have hanswered' := hwritten.mirrored.truthful.firstAnswer_ne_none
        (List.mem_append_left _ hopen)
      have hdone := faithful_put (hwritten.put (o := .answered number .done) trivial (by simp)
        (fun _ => rfl) (.inr hanswered')) (by simp)
      have hboth : Faithful addresses request w
          ((⟨p, [.wrote _ octets], none⟩ : Turn).andThen (answer number .done)) :=
        Faithful.behind rfl (by simp) hdone
      exact hboth
    · exact faithful_ended_refused h.mirrored.truthful hanswered number _ _ p
  | linkStates number =>
    have hpermitted : Permitted addresses w (.answered number (.linkStates p.links)) :=
      ⟨h.mirrored.links, hresting⟩
    exact faithful_put (h.put hpermitted (by simp) (fun _ => rfl) (.inr hanswered)) (by simp)
  | close => exact faithful_ended h.mirrored.truthful hanswered _ p

theorem faithful_step (h : Consistent addresses request w p) (m : Moment) (input : Input)
    (hfree : (∃ command, input = .command command) ∨ input = .abandoned → p.isIdle = true) :
    Faithful addresses request w (step m input p) := by
  have hidle : ((∃ command, input = .command command) ∨ input = .abandoned) →
      p.activity = .idle := by
    intro hinput
    have hfree := hfree hinput
    unfold isIdle at hfree
    split at hfree
    · next hidle => exact hidle
    · exact nomatch hfree
  cases input with
  | frame frame => exact faithful_onFrame h m frame
  | broken fault => exact faithful_breakOff h.mirrored.truthful h.suited.suits fault
  | command command => exact faithful_onCommand h (hidle (.inl ⟨command, rfl⟩)) m command
  | deadline => exact faithful_onDeadline h m
  | abandoned =>
    have hsuits := h.suited.suits
    rw [hidle (.inr rfl)] at hsuits
    exact faithful_ended h.mirrored.truthful (h.mirrored.truthful.firstAnswer_ne_none hsuits) _ p

/-! ## Runs -/

/-- A record that is truthful, with the end at its end if there has been one. -/
def Recorded (addresses : List Nat) (request : Nat) (w : List Utterance)
    (ending : Option CloseReason) : Prop :=
  ∃ earlier, w = earlier ++ ending.toList.map (.reported ∘ .lost) ∧
    Truthful addresses request earlier ∧ ∀ reason, .reported (.lost reason) ∉ earlier

lemma Truthful.refusals (h : Truthful addresses request w) (hanswered : firstAnswer w ≠ none)
    (numbers : List Nat) :
    Truthful addresses request
      (w ++ numbers.map fun number => .answered number (.refused .notConnected)) := by
  induction numbers generalizing w with
  | nil =>
    rw [List.map_nil, List.append_nil]
    exact h
  | cons number numbers ih =>
    have hsnoc := h.snoc (o := .answered number (.refused .notConnected)) trivial (by simp)
      (.inr hanswered)
    rw [List.map_cons, List.append_cons]
    apply ih hsnoc
    rwa [firstAnswer_snoc_of_ne (.inr hanswered)]

lemma Faithful.recorded (h : Faithful addresses request w t)
    (hlost : ∀ reason, .reported (.lost reason) ∉ w) (mail : List Command) :
    Recorded addresses request (w ++ Running.issued conduct mail t) t.ending := by
  have hunlost : ∀ reason, .reported (.lost reason) ∉ w ++ t.output := by
    intro reason hmem
    obtain hmem | hmem := List.mem_append.1 hmem
    · exact hlost reason hmem
    · exact h.unlost reason hmem
  unfold Running.issued
  cases hending : t.ending with
  | none => exact ⟨w ++ t.output, by simp, h.truthful, hunlost⟩
  | some reason =>
    refine ⟨w ++ t.output ++ Running.refusals conduct mail, by simp [conduct, close], ?_, ?_⟩
    · exact h.truthful.refusals (h.answered (by simp [hending])) _
    · intro reason hmem
      obtain hmem | hmem := List.mem_append.1 hmem
      · exact hunlost reason hmem
      · simp [Running.refusals] at hmem

/-- The application goes away only from an idle station. -/
lemma idle_of_abandoned {mail : List Command}
    (h : Running.Faces conduct p .abandoned mail) : p.isIdle = true := by
  obtain ⟨r, occasion, inbox, rfl, hfaces⟩ := h
  rcases input_cases hfaces with ⟨⟨frame, heq⟩ | ⟨fault, heq⟩, -⟩ | ⟨command, heq, -⟩ | ⟨heq, -⟩ |
    ⟨-, -, hidle⟩
  · exact nomatch heq
  · exact nomatch heq
  · exact nomatch heq
  · exact nomatch heq
  · exact hidle

lemma path_recorded {ending ending' : Option CloseReason} {later : List Record}
    (h : Running.Path conduct p ending later p' ending') (hw : Recorded addresses request w ending)
    (hconsistent : ending = none → Consistent addresses request w p) :
    Recorded addresses request (w ++ later.flatMap Episode.output) ending' := by
  -- For any record before: what the first turn puts out stands before what the later ones do.
  induction h generalizing w with
  | nil =>
    rw [List.flatMap_nil, List.append_nil]
    exact hw
  | @cons p _ _ later m input mail hfaces _ ih =>
    obtain ⟨earlier, hearlier, -, hlost⟩ := hw
    obtain rfl : w = earlier := by simpa using hearlier
    have hfaithful : Faithful addresses request w (conduct.step m input p) := by
      apply faithful_step (hconsistent rfl)
      rintro (⟨command, hcommand⟩ | rfl)
      · exact free_of_faces hfaces hcommand
      · exact idle_of_abandoned hfaces
    rw [Running.left_eq_state fun _ _ => rfl] at ih
    have hlater := ih (hfaithful.recorded hlost mail) fun hopen => by
      rw [Running.issued, hopen]
      exact hfaithful.consistent hopen
    rw [List.flatMap_cons]
    simpa only [List.append_assoc] using hlater

lemma faithful_start {link : LinkParameters} {widths : FieldWidths}
    (h : start m addresses link widths request = .ok t) : Faithful addresses request [] t := by
  obtain ⟨_, hvalid, heq⟩ := bind_eq_ok h
  obtain rfl := Except.ok.inj heq
  obtain ⟨hdistinct, -⟩ := nodup_of_checkAddresses (checkAddresses_of_validate hvalid)
  apply faithful_openFrom
  · refine ⟨.nil, hdistinct, ?_⟩
    simp [links, shown, reportedStates]
  · rfl
  · intro i address _
    rw [if_neg (Nat.not_lt_zero i)]
    rfl

lemma run_recorded {link : LinkParameters} {widths : FieldWidths} {actions : List Action} {r : Run}
    (hstart : start m addresses link widths request = .ok t)
    (hrun : (Running.begin conduct m.now t).run conduct actions = some r) :
    Recorded addresses request r.output r.ending := by
  have hfaithful := faithful_start hstart
  obtain ⟨later, hpast, hpath⟩ := Running.run_path hrun
  have hpast : r.past = later := hpast
  have hopening : r.opening = Running.issued conduct [] t := Running.opening_of_run hrun
  have hstation : (Running.begin conduct m.now t).station = t.state :=
    Running.left_eq_state (fun _ _ => rfl) t
  rw [hstation] at hpath
  rw [Running.output, hopening, hpast]
  have hrecorded := hfaithful.recorded (by simp) []
  rw [List.nil_append] at hrecorded
  refine path_recorded hpath hrecorded fun hopen => ?_
  have hopen : t.ending = none := hopen
  rw [Running.issued, hopen]
  exact hfaithful.consistent hopen

lemma Recorded.truthful {ending : Option CloseReason} (h : Recorded addresses request w ending) :
    Truthful addresses request w := by
  obtain ⟨earlier, rfl, htruthful, -⟩ := h
  cases ending with
  | none => simpa using htruthful
  | some reason => exact htruthful.snoc trivial (by simp) (.inl rfl)

/-- However the secondaries answer, whatever is lost and whatever the application asks:
- the states that are reported of a link follow one another, from the link that is down, and
  nothing is reported of links that the station does not have;
- the station is ready once at most, when all links are up, and exactly if the first answer, which
  is that to the request that opens it, grants this;
- an answer about the links gives the states that were reported last, and no link is half up;
- polls and confirmed user data are written to secondaries only whose link is up;
- the end is reported once, and it is the last event. -/
theorem links_followed {link : LinkParameters} {widths : FieldWidths} {actions : List Action}
    {r : Run} (hstart : start m addresses link widths request = .ok t)
    (hrun : (Running.begin conduct m.now t).run conduct actions = some r) :
    (∀ address, (.disconnected :: reportedStates address r.output).IsChain Follows) ∧
      (∀ address ∉ addresses, reportedStates address r.output = []) ∧
      (∀ before after, r.output = before ++ .reported .ready :: after →
        (∀ address ∈ addresses, shown address before = .active) ∧ .reported .ready ∉ before) ∧
      (∀ number a, firstAnswer r.output = some (number, a) → number = request) ∧
      (.ready ∈ r.events ↔ firstAnswer r.output = some (request, .done)) ∧
      (∀ before number states after,
        r.output = before ++ .answered number (.linkStates states) :: after →
          states = addresses.map (fun address => (address, shown address before)) ∧
            ∀ address ∈ addresses,
              shown address before = .disconnected ∨ shown address before = .active) ∧
      (∀ before frame octets after, r.output = before ++ .wrote frame octets :: after →
        CountsOn frame → ∃ address ∈ addresses,
          frame.address? = some address ∧ shown address before = .active) ∧
      ∃ earlier, r.events = earlier ++ r.ending.toList.map .lost ∧
        ∀ reason, .lost reason ∉ earlier := by
  have hrecorded := run_recorded hstart hrun
  have htruthful := hrecorded.truthful
  have hlawful := htruthful.lawful
  refine ⟨hlawful.isChain, fun _ => hlawful.reportedStates_eq_nil,
    fun before after heq => hlawful before _ after heq, htruthful.first, ?_, ?_,
    fun before frame octets after heq => hlawful before _ after heq, ?_⟩
  · rw [← htruthful.opened, Running.events, List.mem_filterMap]
    constructor
    · rintro ⟨o, ho, hready⟩
      cases o with
      | reported event =>
        obtain rfl := Option.some.inj hready
        exact ho
      | wrote | answered => exact nomatch hready
    · exact fun hready => ⟨_, hready, rfl⟩
  · intro before number states after heq
    obtain ⟨hstates, hsettled⟩ := hlawful before _ after heq
    refine ⟨hstates, fun address hmem => ?_⟩
    have hknown := hsettled address hmem
    cases hshown : shown address before with
    | disconnected => exact .inl rfl
    | statusKnown => exact absurd hshown hknown
    | active => exact .inr rfl
  · obtain ⟨earlier, heq, -, hlost⟩ := hrecorded
    refine ⟨earlier.filterMap Output.event?, ?_, fun reason hmem => ?_⟩
    · rw [Running.events, heq, List.filterMap_append, List.filterMap_map]
      cases r.ending <;> rfl
    · obtain ⟨o, ho, hevent⟩ := List.mem_filterMap.1 hmem
      cases o with
      | reported event =>
        obtain rfl := Option.some.inj hevent
        exact hlost reason ho
      | wrote | answered => exact nomatch hevent

/-- The link to one of two secondaries is lost and brought up again. The application asks for the
links both times, and at last it closes the station. -/
def lossSeen : List Action :=
  [linkUp 1, linkUp 2, instruct (.userData 1 [7] 1), receive 1 .singleNack, await 500, await 500,
    instruct (.linkStates 2), await 0, linkUp 1, receive 1 .singleAck, instruct (.linkStates 3),
    instruct .close].flatten

def closed : Run :=
  ((Running.begin conduct 0 opening).run conduct lossSeen).getD (Running.begin conduct 0 opening)

theorem links_followed_over_loss :
    start ⟨0, none⟩ [1, 2] {} .serial 0 = .ok opening ∧
      (Running.begin conduct 0 opening).run conduct lossSeen = some closed ∧
      reportedStates 1 closed.output =
        [.statusKnown, .active, .disconnected, .statusKnown, .active] ∧
      (∀ address, (.disconnected :: reportedStates address closed.output).IsChain Follows) ∧
      firstAnswer closed.output = some (0, .done) ∧ .ready ∈ closed.events ∧
      closed.output.filterMap Output.answer? =
        [(0, .done), (1, .refused (.retriesExhausted 1)),
          (2, .linkStates [(1, .disconnected), (2, .active)]),
          (3, .linkStates [(1, .active), (2, .active)])] ∧
      ∃ earlier, closed.events = earlier ++ [.lost .localClose] ∧
        ∀ reason, .lost reason ∉ earlier := by
  have hstart : start ⟨0, none⟩ [1, 2] {} .serial 0 = .ok opening := rfl
  have hrun : (Running.begin conduct 0 opening).run conduct lossSeen = some closed := by
    decide +kernel
  have hfirst : firstAnswer closed.output = some (0, .done) := by decide +kernel
  have hending : closed.ending = some .localClose := by decide +kernel
  obtain ⟨hchain, -, -, -, hready, -, -, hlost⟩ := links_followed hstart hrun
  rw [hending] at hlost
  exact ⟨hstart, hrun, by decide +kernel, hchain, hfirst, hready.2 hfirst, by decide +kernel, hlost⟩

end Telecontrol.Primary
