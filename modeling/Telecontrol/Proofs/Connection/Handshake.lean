import Telecontrol.Proofs.Connection.Life

/-!
# Handshakes

A request to start or stop data transfer waits, with the handshake that it begins, for one
confirmation. Which one is told by the state of the connection alone, the controlled end never
waits, and a confirmation that is not waited for changes nothing. While a handshake waits, its
request has been taken up `t1` before the deadline and not been confirmed since.
-/

namespace Telecontrol

/-- The request that an output answers. -/
def Output.request? {φ : Type} : Output φ → Option Nat
  | .answered request _ => some request
  | _ => none

/-- The confirmation that a state waits for. -/
def TransferState.awaits : TransferState → Option UFunction
  | .startPending => some .startDtCon
  | .stopping => some .stopDtCon
  | _ => none

lemma TransferState.awaits_eq_startDtCon {state : TransferState} :
    state.awaits = some .startDtCon ↔ state = .startPending := by
  cases state <;> simp [awaits]

lemma TransferState.awaits_eq_stopDtCon {state : TransferState} :
    state.awaits = some .stopDtCon ↔ state = .stopping := by
  cases state <;> simp [awaits]

namespace Connection

/-- A handshake waits exactly in the states that wait, for the confirmation that they wait for, and
the controlled end is never in one of them. -/
structure Coupled (c : Connection) : Prop where
  awaiting : c.handshake.map Handshake.awaiting = c.state.awaits
  controlled : c.role = .controlled → c.state ≠ .startPending ∧ c.state ≠ .stopping

variable {m : Moment} {c c' : Connection} {input : Input} {output : List (Output Apdu)}
  {handshake : Handshake} {now : Nat} {h : History}

lemma Coupled.awaits (hc : Coupled c) (hhandshake : c.handshake = some handshake) :
    c.state.awaits = some handshake.awaiting := by
  rw [← hc.awaiting, hhandshake]
  rfl

lemma Coupled.handshake_eq_none (hc : Coupled c) (hstate : c.state.awaits = none) :
    c.handshake = none := by
  simpa [hstate] using hc.awaiting

lemma Coupled.handshake_controlled (hc : Coupled c) (hrole : c.role = .controlled) :
    c.handshake = none := by
  obtain ⟨hstart, hstop⟩ := hc.controlled hrole
  refine hc.handshake_eq_none ?_
  cases hstate : c.state <;> first | rfl | contradiction

lemma Coupled.startPending (hc : Coupled c) (hhandshake : c.handshake = some handshake)
    (hawaiting : handshake.awaiting = .startDtCon) : c.state = .startPending :=
  TransferState.awaits_eq_startDtCon.1 (hawaiting ▸ hc.awaits hhandshake)

lemma Coupled.stopping (hc : Coupled c) (hhandshake : c.handshake = some handshake)
    (hawaiting : handshake.awaiting = .stopDtCon) : c.state = .stopping :=
  TransferState.awaits_eq_stopDtCon.1 (hawaiting ▸ hc.awaits hhandshake)

/-- The request that waits with the handshake. -/
def held (c : Connection) : List Nat := c.handshake.toList.map Handshake.request

/-- What a turn does to a handshake, and the requests that it answers. -/
inductive Shakes (m : Moment) (c : Connection) : Input → List (Output Apdu) → Connection → Prop
  /-- It goes on waiting, and what is heard is not what it waits for. -/
  | waits {input : Input} {output : List (Output Apdu)} {c' : Connection} :
      output.filterMap Output.request? = input.request?.toList →
      c'.state.awaits = c.state.awaits → c'.handshake = c.handshake →
      (∀ a, input = .arrival (.frame a) → ∀ handshake ∈ c.handshake,
        a.apci ≠ .uFrame handshake.awaiting) → Shakes m c input output c'
  | ends {input : Input} {output : List (Output Apdu)} {c' : Connection} : input.request? = none →
      output.filterMap Output.request? = c.held → c'.state.awaits = none → c'.handshake = none →
      Shakes m c input output c'
  | asksStart {request : Nat} {output : List (Output Apdu)} {c' : Connection} :
      output.filterMap Output.request? = [] → c.role = .controlling → c.state = .connected →
      c'.state = .startPending → c'.handshake = some ⟨.startDtCon, m.now + c.apci.t1, request⟩ →
      Shakes m c (.command (.startTransfer request)) output c'
  | asksStop {request : Nat} {output : List (Output Apdu)} {c' : Connection} :
      output.filterMap Output.request? = [] → c.role = .controlling → c.state = .active →
      c'.state = .stopping → c'.handshake = some ⟨.stopDtCon, m.now + c.apci.t1, request⟩ →
      Shakes m c (.command (.stopTransfer request)) output c'

lemma Settles.answers {receipt rest : List (Output Apdu)} (h : Settles c receipt c') :
    (receipt ++ rest).filterMap Output.request? = rest.filterMap Output.request? := by
  cases h <;> rfl

lemma Proceeds.shakes (hc : Coupled c) (h : Proceeds m c input output c') :
    Shakes m c input output c' := by
  -- Frames other than the two confirmations are not waited for.
  have hother {a : Apdu} {output : List (Output Apdu)} {c' : Connection}
      (houtput : output.filterMap Output.request? = [])
      (hstate : c'.state.awaits = c.state.awaits) (hhandshake : c'.handshake = c.handshake)
      (hapci : a.apci ≠ .uFrame .startDtCon ∧ a.apci ≠ .uFrame .stopDtCon) :
      Shakes m c (.arrival (.frame a)) output c' := by
    refine .waits houtput hstate hhandshake ?_
    rintro _ ⟨⟩ handshake hmem
    have hawaits := hc.awaits hmem
    unfold TransferState.awaits at hawaits
    split at hawaits
    · rw [← Option.some.inj hawaits]
      exact hapci.1
    · rw [← Option.some.inj hawaits]
      exact hapci.2
    · exact absurd hawaits.symm (Option.some_ne_none _)
  have hstate : (heard m c).state.awaits = c.state.awaits := by rw [heard_state]
  have hheeded (number : Nat) :
      ((heard m c).onAcknowledgment number).state.awaits = c.state.awaits ∧
        ((heard m c).onAcknowledgment number).handshake = c.handshake := by
    rw [onAcknowledgment_state, onAcknowledgment_handshake]
    exact ⟨hstate, heard_handshake⟩
  have hheld {output : List (Output Apdu)} {handshake : Option Handshake}
      (hhandshake : c.handshake = handshake)
      (houtput : output.filterMap Output.request? = handshake.toList.map Handshake.request) :
      output.filterMap Output.request? = c.held := by
    rw [houtput, held, hhandshake]
  cases h with
  | heed hapci => exact hother rfl (hheeded _).1 (hheeded _).2 (by simp [hapci])
  | accept number => exact hother rfl (hheeded _).1 (hheeded number).2 (by simp [Apdu.iFrame])
  | confirm number => exact hother rfl (hheeded _).1 (hheeded number).2 (by simp [Apdu.iFrame])
  | answerTest hapci => exact hother rfl hstate heard_handshake (by simp [hapci])
  | tested hapci => exact hother rfl rfl rfl (by simp [hapci])
  | startAgain hapci => exact hother rfl hstate heard_handshake (by simp [hapci])
  | stopAgain hapci _ _ hsettles =>
    refine hother hsettles.answers ?_ (hsettles.handshake.trans heard_handshake) (by simp [hapci])
    rw [hsettles.state, heard_state]
  | passOver hapci hunheeded =>
    cases hunheeded with
    | untested => exact hother rfl hstate heard_handshake (by simp [hapci])
    | misdirected hactivates =>
      refine hother rfl hstate heard_handshake ?_
      rw [hapci]
      constructor <;> rintro ⟨⟩ <;> simp at hactivates
    | unasked hconfirms hunasked =>
      refine .waits rfl hstate heard_handshake ?_
      rintro _ ⟨⟩ handshake hmem heq
      cases hrole : c.role with
      | controlled => simp [hc.handshake_controlled hrole] at hmem
      | controlling =>
        obtain rfl := Apci.uFrame.inj (hapci.symm.trans heq)
        exact hunasked hrole (by rw [show c.handshake = some handshake from hmem]; rfl)
  | start _ hrole =>
    have hnone := hc.handshake_controlled hrole
    exact .ends rfl (hheld hnone rfl) rfl (heard_handshake.trans hnone)
  | stop _ hrole _ hsettles =>
    have hnone := hc.handshake_controlled hrole
    exact .ends rfl (hheld hnone hsettles.answers) rfl
      (hsettles.handshake.trans (heard_handshake.trans hnone))
  | started _ _ hhandshake => exact .ends rfl (hheld hhandshake rfl) rfl rfl
  | stopped _ _ hhandshake => exact .ends rfl (hheld hhandshake rfl) rfl rfl
  | askStart hrole hstate => exact .asksStart rfl hrole hstate rfl rfl
  | askStop hrole hstate hsettles =>
    exact .asksStop hsettles.answers hrole hstate rfl (by rw [hsettles.apci])
  | refuse fault hrequest => exact .waits (by rw [Input.request?, hrequest]; rfl) rfl rfl (by simp)
  | _ => exact .waits rfl rfl rfl (by simp)

lemma Coupled.proceeds (hc : Coupled c) (h : Proceeds m c input output c') : Coupled c' := by
  have hrole := h.role_apci.1
  have hnever {c' : Connection} (hrole : c'.role = .controlling) :
      c'.role = .controlled → c'.state ≠ .startPending ∧ c'.state ≠ .stopping := by
    simp [hrole]
  have hidle {c' : Connection} (hawaits : c'.state.awaits = none) :
      c'.state ≠ .startPending ∧ c'.state ≠ .stopping := by
    constructor <;> rintro heq <;> simp [heq, TransferState.awaits] at hawaits
  cases h.shakes hc with
  | waits _ hawaits hhandshake =>
    refine ⟨by rw [hhandshake, hawaits, hc.awaiting], fun hcontrolled => hidle ?_⟩
    rw [hawaits, ← hc.awaiting, hc.handshake_controlled (hrole ▸ hcontrolled)]
    rfl
  | ends _ _ hawaits hhandshake =>
    exact ⟨by rw [hhandshake, hawaits]; rfl, fun _ => hidle hawaits⟩
  | asksStart _ hcontrolling _ hstate hhandshake =>
    exact ⟨by rw [hhandshake, hstate]; rfl, hnever (hrole.trans hcontrolling)⟩
  | asksStop _ hcontrolling _ hstate hhandshake =>
    exact ⟨by rw [hhandshake, hstate]; rfl, hnever (hrole.trans hcontrolling)⟩

/-- A confirmation that is not waited for changes neither state nor handshake, and nothing is put
out. -/
lemma step_unasked {a : Apdu} {function : UFunction} (m : Moment)
    (hconfirms : function ∈ [.startDtCon, .stopDtCon]) (hapci : a.apci = .uFrame function)
    (hunasked : c.handshake.map Handshake.awaiting ≠ some function) :
    c.step m (.arrival (.frame a)) = Turn.done (heard m c) := by
  have hpassed : onConfirmation function (heard m c) = Turn.done (heard m c) := by
    unfold onConfirmation
    rw [heard_handshake]
    cases hhandshake : c.handshake with
    | none => rfl
    | some handshake =>
      rw [hhandshake] at hunasked
      exact if_neg fun heq => hunasked (congrArg some heq)
  change onApdu m a c = _
  unfold onApdu
  rw [hapci]
  obtain rfl | rfl : function = .startDtCon ∨ function = .stopDtCon := by simpa using hconfirms
  · cases hrole : (heard m c).role <;> simp only [onUFunction, hrole, hpassed]
  · cases hrole : (heard m c).role <;> simp only [onUFunction, hrole, hpassed]

/-! ### How long a handshake waits -/

/-- A request is taken up for which the confirmation will be waited for. -/
def Happening.takesUp (confirmation : UFunction) (request : Nat) : Happening :=
  if confirmation = .startDtCon then .met .connected (.command (.startTransfer request))
  else .met .active (.command (.stopTransfer request))

/-- A confirmation is read. -/
def Happening.Confirms (confirmation : UFunction) (x : Happening) : Prop :=
  ∃ state a, x = .met state (.arrival (.frame a)) ∧ a.apci = .uFrame confirmation

/-- A request was taken up at a time, and has not been confirmed since. -/
def History.TakenUp (h : History) (time : Nat) (confirmation : UFunction) (request : Nat) : Prop :=
  h.Since time (· = .takesUp confirmation request) (Happening.Confirms confirmation)

/-- A handshake that waits was taken up `t1` before its deadline. -/
def Awaited (c : Connection) (h : History) : Prop :=
  ∀ handshake ∈ c.handshake, ∃ time, handshake.deadline = time + c.apci.t1 ∧
    h.TakenUp time handshake.awaiting handshake.request

lemma Awaited.note {happenings : List Happening} (hawaited : Awaited c h)
    (hsilent : ∀ x ∈ happenings, ∀ handshake ∈ c.handshake, ¬x.Confirms handshake.awaiting) :
    Awaited c (h.note now happenings) := by
  intro handshake hmem
  obtain ⟨time, hdeadline, hsince⟩ := hawaited handshake hmem
  exact ⟨time, hdeadline, hsince.note fun x hx => hsilent x hx handshake hmem⟩

lemma Awaited.proceeds {fault : Option String} (hc : Coupled c) (hawaited : Awaited c h)
    (hproceeds : Proceeds ⟨now, fault⟩ c input output c') :
    Awaited c' (h.note now (.met c.state input :: output.map .put)) := by
  have hapci := hproceeds.role_apci.2
  have hputs (confirmation : UFunction) :
      ∀ x ∈ output.map Happening.put, ¬x.Confirms confirmation := by
    rw [List.forall_mem_map]
    rintro o - ⟨_, _, ⟨⟩, -⟩
  cases hproceeds.shakes hc with
  | waits _ _ hhandshake hother =>
    have hkept : Awaited c' h := by
      unfold Awaited
      rw [hhandshake, hapci]
      exact hawaited
    refine hkept.note (List.forall_mem_cons.2 ⟨?_, fun x hx _ _ => hputs _ x hx⟩)
    rintro handshake hmem ⟨_, a, heq, hconfirms⟩
    obtain ⟨-, rfl⟩ := Happening.met.inj heq
    exact hother a rfl handshake (hhandshake ▸ hmem) hconfirms
  | ends _ _ _ hhandshake =>
    intro handshake hmem
    exact nomatch hhandshake.symm.trans hmem
  | asksStart _ _ hstate _ hhandshake =>
    intro handshake hmem
    obtain rfl := Option.some.inj (hhandshake.symm.trans hmem)
    rw [hapci, hstate]
    exact ⟨now, rfl, History.since_note h now [] _ rfl (hputs _)⟩
  | asksStop _ _ hstate _ hhandshake =>
    intro handshake hmem
    obtain rfl := Option.some.inj (hhandshake.symm.trans hmem)
    rw [hapci, hstate]
    exact ⟨now, rfl, History.since_note h now [] _ rfl (hputs _)⟩

namespace Life

variable {l l' : Life} {action : Action} {role : Role} {apci : ApciParameters}
  {widths : FieldWidths} {begun : Nat}

/-- What an open connection waits for. -/
structure Waits (l : Life) : Prop where
  coupled : l.connection.Coupled
  awaited : Awaited l.connection l.history

lemma waits_begin (hstart : Connection.start role apci widths begun = .ok c) :
    (begin begun c).Waits := by
  obtain ⟨-, rfl⟩ := start_eq_ok hstart
  exact ⟨⟨rfl, fun _ => ⟨nofun, nofun⟩⟩, nofun⟩

lemma Waits.advances (hl : l.ending = none → l.Waits) (hadvances : l.Advances action l')
    (hopen : l'.ending = none) : l'.Waits := by
  cases hadvances with
  | asked command hopen =>
    obtain ⟨hcoupled, hawaited⟩ := hl hopen
    refine ⟨hcoupled, hawaited.note (List.forall_mem_singleton.2 fun _ _ => ?_)⟩
    rintro ⟨_, _, ⟨⟩, -⟩
  | askedLate command hended => exact absurd hopen hended
  | goesOn hopen hinput hproceeds =>
    obtain ⟨hcoupled, hawaited⟩ := hl hopen
    exact ⟨hcoupled.proceeds hproceeds, hawaited.proceeds hcoupled hproceeds⟩
  | finishes => exact nomatch hopen
  | elapses duration => exact ⟨(hl hopen).coupled, (hl hopen).awaited⟩

lemma ended_advances
    (hl : l.ending ≠ none → l.mail = [] ∧ l.connection.handshake = none ∧
      l.connection.state = .disconnected)
    (hadvances : l.Advances action l') (hended : l'.ending ≠ none) :
    l'.mail = [] ∧ l'.connection.handshake = none ∧ l'.connection.state = .disconnected := by
  cases hadvances with
  | asked command hopen => exact absurd hopen hended
  | askedLate command hended => exact hl hended
  | goesOn hopen => exact absurd hopen hended
  | finishes => exact ⟨rfl, rfl, rfl⟩
  | elapses duration => exact hl hended

lemma punctual_advances
    (hl : l.ending = none → ∀ handshake ∈ l.connection.handshake, l.now ≤ handshake.deadline)
    (hcoupled : l.ending = none → l.connection.Coupled)
    (htimely : action.Timely l) (hadvances : l.Advances action l') (hopen : l'.ending = none) :
    ∀ handshake ∈ l'.connection.handshake, l'.now ≤ handshake.deadline := by
  cases hadvances with
  | asked command hopen => exact hl hopen
  | askedLate command hended => exact absurd hopen hended
  | goesOn hopen hinput hproceeds =>
    intro handshake hmem
    cases hproceeds.shakes (hcoupled hopen) with
    | waits _ _ hhandshake => exact hl hopen handshake (hhandshake ▸ hmem)
    | ends _ _ _ hhandshake => exact nomatch hhandshake.symm.trans hmem
    | asksStart _ _ _ _ hhandshake =>
      obtain rfl := Option.some.inj (hhandshake.symm.trans hmem)
      exact Nat.le_add_right ..
    | asksStop _ _ _ _ hhandshake =>
      obtain rfl := Option.some.inj (hhandshake.symm.trans hmem)
      exact Nat.le_add_right ..
  | finishes => exact nomatch hopen
  | elapses duration =>
    intro handshake hmem
    refine htimely hopen .confirmation (by decide) handshake.deadline ?_
    rw [deadline, show l.connection.handshake = some handshake from hmem]
    rfl

end Life

end Connection

end Telecontrol
