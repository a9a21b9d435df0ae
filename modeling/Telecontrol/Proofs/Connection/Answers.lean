import Telecontrol.Proofs.Connection.Handshake

/-!
# Answers to requests

Every request that is handed over is answered once, or still waits in line or with a handshake
(`Life.Balanced`). It is granted only if the connection already was in the state that was asked for,
after the confirmation for which its handshake was waiting, or with the frame that carries its data
(`Granted`).
-/

namespace Telecontrol.Connection

namespace Happening

/-- The request that is handed over. -/
def asks : Happening → Option Nat
  | asked command => command.request?
  | _ => none

/-- The request that is answered. -/
def answers : Happening → Option Nat
  | put output => output.request?
  | _ => none

end Happening

/-- What has happened when a request is granted. -/
inductive Granted (request : Nat) : History → Prop
  | alreadyActive (h : History) (now : Nat) :
      Granted request (h.note now [.met .active (.command (.startTransfer request))])
  | alreadyStopped (h : History) (now : Nat) :
      Granted request (h.note now [.met .connected (.command (.stopTransfer request))])
  | started {h : History} {time : Nat} {a : Apdu} (now : Nat) :
      h.TakenUp time .startDtCon request → a.apci = .uFrame .startDtCon →
      Granted request
        (h.note now [.met .startPending (.arrival (.frame a)), .put (.reported .ready)])
  | stopped {h : History} {time : Nat} {a : Apdu} (now : Nat) :
      h.TakenUp time .stopDtCon request → a.apci = .uFrame .stopDtCon →
      Granted request
        (h.note now [.met .stopping (.arrival (.frame a)), .put (.reported .transferStopped)])
  | sent (h : History) (now number acknowledgment : Nat) (asdu : Asdu) (octets : Octets) :
      Granted request (h.note now [.met .active (.command (.send asdu request)),
        .put (.wrote (.iFrame number acknowledgment asdu) octets)])

/-- A request is granted only for a reason. -/
def History.Grants (h : History) : Prop :=
  h.Each fun before x => ∀ request, x = .put (.answered request .done) → Granted request before

variable {m : Moment} {c c' : Connection} {input : Input} {output : List (Output Apdu)}
  {now : Nat} {h : History}

/-! ### Every request is answered once -/

lemma filterMap_answers (output : List (Output Apdu)) :
    (output.map Happening.put).filterMap Happening.answers = output.filterMap Output.request? := by
  rw [List.filterMap_map]
  rfl

lemma filterMap_asks (output : List (Output Apdu)) :
    (output.map Happening.put).filterMap Happening.asks = [] := by
  rw [List.filterMap_map, List.filterMap_eq_nil_iff]
  exact fun _ _ => rfl

lemma Proceeds.balance (hc : Coupled c) (h : Proceeds m c input output c') (request : Nat) :
    (output.filterMap Output.request?).count request + c'.held.count request =
      c.held.count request + input.request?.toList.count request := by
  have hnone (hawaits : c.state.awaits = none) : c.held = [] := by
    rw [held, hc.handshake_eq_none hawaits]
    rfl
  cases h.shakes hc with
  | waits houtput _ hhandshake =>
    rw [houtput, held, held, hhandshake]
    exact Nat.add_comm ..
  | ends hinput houtput _ hhandshake =>
    rw [houtput, hinput, held, held, hhandshake]
    rfl
  | asksStart houtput _ hstate _ hhandshake =>
    rw [houtput, hnone (by rw [hstate]; rfl), held, hhandshake]
    rfl
  | asksStop houtput _ hstate _ hhandshake =>
    rw [houtput, hnone (by rw [hstate]; rfl), held, hhandshake]
    rfl

lemma Fails.balance (hc : Coupled c) (h : Fails c input output c') (request : Nat) :
    (output.filterMap Output.request?).count request + c'.held.count request =
      c.held.count request + input.request?.toList.count request := by
  cases h with
  | idle hrequest hhandshake =>
    rw [hrequest, held, held, hhandshake]
    exact Nat.add_comm ..
  | @refused command number _ fault hrequest hhandshake =>
    rw [Input.request?, hrequest, held, held, hhandshake]
    exact Nat.add_comm ..
  | waiting hrequest hstate hhandshake heq =>
    have hnone : c.handshake = none := by
      refine hc.handshake_eq_none ?_
      obtain hstate | hstate := hstate <;> rw [hstate] <;> rfl
    rw [Input.request?, hrequest, held, held, hhandshake, hnone, ← heq]
    rfl

namespace Life

variable {l l' : Life} {action : Action} {role : Role} {apci : ApciParameters}
  {widths : FieldWidths} {begun : Nat}

/-- The requests that wait, in line or with a handshake. -/
def pending (l : Life) : List Nat := l.connection.held ++ l.mail.filterMap Command.request?

/-- Every request that has been handed over is answered once or waits. -/
def Balanced (l : Life) : Prop :=
  ∀ request, (l.history.gather Happening.asks).count request =
    (l.history.gather Happening.answers).count request + l.pending.count request

lemma balanced_begin (hstart : Connection.start role apci widths begun = .ok c) :
    (begin begun c).Balanced := by
  obtain ⟨-, rfl⟩ := start_eq_ok hstart
  exact fun request => rfl

lemma count_mail {occasion : Occasion} {mail : List Command}
    (h : l.input? occasion = some (input, mail)) (request : Nat) :
    (l.mail.filterMap Command.request?).count request =
      input.request?.toList.count request + (mail.filterMap Command.request?).count request := by
  obtain ⟨command, rfl, hmail⟩ | ⟨hnone, hmail, -⟩ := input?_eq_some h
  · rw [hmail, List.filterMap_cons, Input.request?]
    cases command.request? with
    | none => simp
    | some number => simp [List.count_cons, Nat.add_comm]
  · rw [hnone, hmail]
    simp

lemma answers_refusals (mail : List Command) :
    (refusals mail).filterMap Output.request? = mail.filterMap Command.request? := by
  simp [refusals, List.filterMap_map, Function.comp_def, Output.request?]

lemma answers_close (c : Connection) (reason : CloseReason) :
    (c.close reason).2.filterMap Output.request? = c.held := by
  simp [close, held, List.filterMap_map, Function.comp_def, Output.request?]

lemma asks_seen (input : Input) (output : List (Output Apdu)) :
    (l.seen input output).gather Happening.asks = l.history.gather Happening.asks := by
  rw [seen, History.gather_note, List.filterMap_cons_none rfl, filterMap_asks, List.append_nil]

lemma answers_seen (input : Input) (output : List (Output Apdu)) :
    (l.seen input output).gather Happening.answers =
      l.history.gather Happening.answers ++ output.filterMap Output.request? := by
  rw [seen, History.gather_note, List.filterMap_cons_none rfl, filterMap_answers]

lemma Balanced.advances (hl : l.Balanced) (hcoupled : l.ending = none → l.connection.Coupled)
    (hadvances : l.Advances action l') : l'.Balanced := by
  intro request
  have hbefore := hl request
  rw [pending, List.count_append] at hbefore
  rw [pending, List.count_append]
  cases hadvances with
  | asked command hopen =>
    have hasks : [Happening.asked command].filterMap Happening.asks =
        [command].filterMap Command.request? := rfl
    have hanswers : [Happening.asked command].filterMap Happening.answers = [] := rfl
    rw [History.gather_note, History.gather_note, hasks, hanswers, List.filterMap_append]
    simp only [List.count_append, List.count_nil]
    omega
  | askedLate command hended =>
    have hasks : (Happening.asked command :: (refusals [command]).map .put).filterMap
        Happening.asks = [command].filterMap Command.request? := by
      rw [← List.singleton_append, List.filterMap_append, filterMap_asks]
      exact List.append_nil _
    have hanswers : (Happening.asked command :: (refusals [command]).map .put).filterMap
        Happening.answers = [command].filterMap Command.request? := by
      rw [List.filterMap_cons_none rfl, filterMap_answers, answers_refusals]
    rw [History.gather_note, History.gather_note, hasks, hanswers]
    simp only [List.count_append]
    omega
  | goesOn hopen hinput hproceeds =>
    have hturn := hproceeds.balance (hcoupled hopen) request
    have hmail := count_mail hinput request
    dsimp only [goOn]
    rw [asks_seen, answers_seen, List.count_append]
    omega
  | @finishes _ _ _ _ _ c reason hopen hinput hfails hending =>
    have hturn := hfails.balance (hcoupled hopen) request
    have hmail := count_mail hinput request
    dsimp only [finish]
    have hclosed : (c.close reason).1.held = [] := rfl
    rw [asks_seen, answers_seen, List.filterMap_append, List.filterMap_append, answers_refusals,
      answers_close, hclosed]
    simp only [List.count_append, List.filterMap_nil, List.count_nil]
    omega
  | elapses duration => exact hbefore

end Life

/-! ### Requests are granted for a reason -/

lemma History.Grants.note {happenings : List Happening} (hh : h.Grants)
    (hnone : ∀ x ∈ happenings, ∀ request, x ≠ .put (.answered request .done)) :
    (h.note now happenings).Grants := by
  induction happenings generalizing h with
  | nil => simpa [History.note] using hh
  | cons x rest ih =>
    obtain ⟨hx, hrest⟩ := List.forall_mem_cons.1 hnone
    rw [History.note_cons]
    exact ih (Each.snoc hh fun request heq => absurd heq (hx request)) hrest

lemma History.Grants.turn {state : TransferState} (hh : h.Grants)
    (hnone : ∀ o ∈ output, ∀ request, o ≠ .answered request .done) :
    (h.note now (.met state input :: output.map .put)).Grants := by
  refine hh.note (List.forall_mem_cons.2 ⟨by simp, ?_⟩)
  rw [List.forall_mem_map]
  intro o ho request heq
  exact hnone o ho request (Happening.put.inj heq)

lemma History.Grants.answer {state : TransferState} {request : Nat} (hh : h.Grants)
    (output : List (Output Apdu)) (hnone : ∀ o ∈ output, ∀ request, o ≠ .answered request .done)
    (hgranted : Granted request (h.note now (.met state input :: output.map .put))) :
    (h.note now (.met state input ::
      (output ++ [Output.answered request .done]).map .put)).Grants := by
  have heq : h.note now (.met state input ::
        (output ++ [Output.answered request .done]).map .put) =
      (h.note now (.met state input :: output.map .put)).note now
        [.put (.answered request .done)] := by
    simp [History.note]
  rw [heq]
  refine Each.snoc (hh.turn hnone) ?_
  rintro _ ⟨⟩
  exact hgranted

lemma Settles.grants_nothing {receipt : List (Output Apdu)} (h : Settles c receipt c') :
    ∀ o ∈ receipt, ∀ request, o ≠ .answered request .done := by
  cases h <;> simp

lemma History.Grants.proceeds {fault : Option String} (hh : h.Grants) (hc : Coupled c)
    (hawaited : Awaited c h) (hproceeds : Proceeds ⟨now, fault⟩ c input output c') :
    (h.note now (.met c.state input :: output.map .put)).Grants := by
  cases hproceeds with
  | alreadyActive hrole hstate =>
    rw [hstate]
    exact hh.answer [] (by simp) (.alreadyActive h now)
  | alreadyStopped hrole hstate =>
    rw [hstate]
    exact hh.answer [] (by simp) (.alreadyStopped h now)
  | started hapci _ hhandshake hawaiting =>
    obtain ⟨time, -, hsince⟩ := hawaited _ hhandshake
    rw [hawaiting] at hsince
    rw [hc.startPending hhandshake hawaiting]
    exact hh.answer [_] (by simp) (.started now hsince hapci)
  | stopped hapci _ hhandshake hawaiting =>
    obtain ⟨time, -, hsince⟩ := hawaited _ hhandshake
    rw [hawaiting] at hsince
    rw [hc.stopping hhandshake hawaiting]
    exact hh.answer [_] (by simp) (.stopped now hsince hapci)
  | send hstate hreserve =>
    rw [hstate]
    exact hh.answer [_] (by simp) (.sent h now ..)
  | stop _ _ _ hsettles =>
    exact hh.turn (List.forall_mem_append.2 ⟨hsettles.grants_nothing, by simp⟩)
  | stopAgain _ _ _ hsettles =>
    exact hh.turn (List.forall_mem_append.2 ⟨hsettles.grants_nothing, by simp⟩)
  | askStop _ _ hsettles =>
    exact hh.turn (List.forall_mem_append.2 ⟨hsettles.grants_nothing, by simp⟩)
  | _ => exact hh.turn (by simp)

namespace Life

variable {l l' : Life} {action : Action}

lemma grants_advances (hl : l.history.Grants) (hwaits : l.ending = none → l.Waits)
    (hadvances : l.Advances action l') : l'.history.Grants := by
  cases hadvances with
  | asked command hopen => exact hl.note (List.forall_mem_singleton.2 (by simp))
  | askedLate command hended =>
    refine hl.note (List.forall_mem_cons.2 ⟨by simp, ?_⟩)
    rw [List.forall_mem_map]
    intro o hmem
    obtain ⟨request, -, rfl⟩ := List.mem_map.1 hmem
    simp
  | goesOn hopen hinput hproceeds =>
    exact hl.proceeds (hwaits hopen).coupled (hwaits hopen).awaited hproceeds
  | @finishes _ _ _ mail _ _ reason hopen hinput hfails hending =>
    refine hl.turn fun o hmem request heq => ?_
    obtain ⟨_, _, rfl⟩ | rfl := output_of_finish hfails mail reason o hmem
    · exact nomatch heq
    · exact nomatch heq
  | elapses duration => exact hl

end Life

end Telecontrol.Connection
