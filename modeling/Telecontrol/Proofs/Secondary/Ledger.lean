import Telecontrol.Proofs.Secondary.Course

/-!
# The books of the queues

What is put into a queue either waits there or has been taken out, in the order in which it was put
in: by the answer to a request that was served afresh, or by a reset of the user process.
-/

namespace Telecontrol

/-- The user data that a response carries. -/
def LinkFrame.carried? : LinkFrame → Option Octets
  | userData (.secondary .respUserData _ _) _ payload => some payload
  | _ => none

namespace Secondary

open Running (instruct receive)

/-- What the service of a request takes out of a queue. -/
def drawn (dataClass : DataClass) (function : PrimaryFunction) (service : Service)
    (s : Secondary) : List Octets :=
  if function = .resetUserProcess then s.queue dataClass
  else if function = Primary.requestFunction dataClass then
    (service.response.bind LinkFrame.carried?).toList
  else []

/-- What a turn takes out of a queue. -/
def removed (dataClass : DataClass) (e : Record) : List Octets :=
  match asked? e with
  | none => []
  | some q =>
    match e.station.served? q with
    | none => []
    | some service => drawn dataClass q.function service e.station

/-- What a turn puts into a queue: data whose request is answered by done. -/
def stored (dataClass : DataClass) (e : Record) : List Octets :=
  match e.input with
  | .command (.enqueue other payload request) =>
    if other = dataClass ∧ .answered request .done ∈ e.output then [payload] else []
  | _ => []

variable {s s' : Secondary} {t : Turn} {dataClass : DataClass} {q : Request} {service : Service}
  {input : Input} {m : Moment} {mail : List Command} {ending ending' : Option CloseReason}
  {later : List Record}

@[simp] lemma queue_setQueue (changed dataClass : DataClass) (payloads : List Octets) :
    (s.setQueue changed payloads).queue dataClass =
      if changed = dataClass then payloads else s.queue dataClass := by
  cases changed <;> cases dataClass <;> rfl

@[simp] lemma queue_remember (fcb fcv : Bool) (response : Option LinkFrame) :
    (s.remember fcb fcv response).queue dataClass = s.queue dataClass := by
  unfold remember
  split <;> cases dataClass <;> rfl

lemma serveData_queue (changed dataClass : DataClass) :
    s.queue dataClass =
      (if changed = dataClass then ((serveData changed s).response.bind LinkFrame.carried?).toList
        else []) ++ (serveData changed s).state.queue dataClass := by
  unfold serveData
  cases hqueue : s.queue changed with
  | nil =>
    by_cases hsame : changed = dataClass
    · by_cases hsingle : s.usesSingleChar = true <;>
        simp [hsame, hsingle, LinkFrame.carried?, respond, LinkFrame.response]
    · simp [hsame]
  | cons payload rest =>
    by_cases hsame : changed = dataClass
    · rw [hsame] at hqueue
      simp [hsame, hqueue, LinkFrame.carried?, ControlField.response]
    · simp [hsame]

lemma serve_queue (dataClass : DataClass) {function : PrimaryFunction}
    {payload : Option Octets} (h : s.serve function payload = some service) :
    s.queue dataClass = drawn dataClass function service s ++ service.state.queue dataClass := by
  cases function with
  | resetUserProcess =>
    obtain rfl := Option.some.inj h
    cases dataClass <;> simp [drawn, queue]
  | userDataConfirmed =>
    obtain ⟨asdu, -, rfl⟩ := Option.map_eq_some_iff.1 h
    cases dataClass <;> simp [drawn, Primary.requestFunction]
  | requestClass1 =>
    obtain rfl := Option.some.inj h
    have hqueue := serveData_queue (s := s) .class1 dataClass
    cases dataClass <;> simpa [drawn, Primary.requestFunction] using hqueue
  | requestClass2 =>
    obtain rfl := Option.some.inj h
    have hqueue := serveData_queue (s := s) .class2 dataClass
    cases dataClass <;> simpa [drawn, Primary.requestFunction] using hqueue
  | _ =>
    obtain rfl := Option.some.inj h
    cases dataClass <;> simp [drawn, Primary.requestFunction, queue]

lemma Takes.balance {now : Nat} (h : s.Takes m input t) :
    let e : Record := ⟨now, s, input, Running.issued conduct mail t⟩
    s.queue dataClass ++ stored dataClass e = removed dataClass e ++ t.state.queue dataClass := by
  cases h with
  | repeats hq hkept => simp [stored, removed, asked?, Input.request?, hq, served?, hkept]
  | rejects hq hkept hserve =>
    simp [stored, removed, asked?, Input.request?, hq, served?, hkept, hserve]
  | serves hq hkept hserve =>
    rw [Turn.andThen_of_none rfl]
    simp [stored, removed, asked?, Input.request?, hq, served?, hkept, hserve, after,
      serve_queue dataClass hserve]
  | overhears asdus hq => simp [stored, removed, asked?, Input.request?, hq]
  | protests fault => simp [stored, removed, asked?, Input.request?]
  | @queues changed payload request hroom =>
    by_cases hsame : changed = dataClass
    · simp [stored, removed, asked?, Input.request?, hsame, Running.issued, Turn.answer]
    · simp [stored, removed, asked?, Input.request?, hsame, Turn.answer]
  | overflows hfull =>
    simp [stored, removed, asked?, Input.request?, Running.issued, Turn.answer]
  | closes | abandons | breaks | hangsUp =>
    simp [stored, removed, asked?, Input.request?, Turn.fail]

lemma path_balance (dataClass : DataClass)
    (h : Running.Path conduct s ending later s' ending')
    (hsingle : s.link.isBroadcast s.address = false) :
    s.queue dataClass ++ later.flatMap (stored dataClass) =
      later.flatMap (removed dataClass) ++ s'.queue dataClass := by
  induction h with
  | nil => simp
  | @cons s s' _ later m input mail _ _ ih =>
    let e : Record := ⟨m.now, s, input, Running.issued conduct mail (conduct.step m input s)⟩
    have hturn : s.queue dataClass ++ stored dataClass e =
        removed dataClass e ++ (conduct.step m input s).state.queue dataClass :=
      (step_takes hsingle m input).balance
    rw [left_eq] at ih
    have hlater := ih ((step_leaves hsingle m input).same_parameters.single hsingle)
    calc s.queue dataClass ++ (stored dataClass e ++ later.flatMap (stored dataClass))
        = (s.queue dataClass ++ stored dataClass e) ++ later.flatMap (stored dataClass) :=
          (List.append_assoc ..).symm
      _ = removed dataClass e ++ ((conduct.step m input s).state.queue dataClass ++
            later.flatMap (stored dataClass)) := by rw [hturn, List.append_assoc]
      _ = removed dataClass e ++ (later.flatMap (removed dataClass) ++ s'.queue dataClass) := by
          rw [hlater]
      _ = (removed dataClass e ++ later.flatMap (removed dataClass)) ++ s'.queue dataClass :=
          (List.append_assoc ..).symm

lemma Leaves.bounded (h : s.Leaves input s')
    (hroom : ∀ dataClass, (s.queue dataClass).length ≤ s.link.queueSize) (dataClass : DataClass) :
    (s'.queue dataClass).length ≤ s.link.queueSize := by
  cases h with
  | same => exact hroom dataClass
  | served _ hserved =>
    -- What is taken out and what is left make up the queue before.
    have hqueue := congrArg List.length
      (serve_queue dataClass (serve_of_served hserved).2)
    have hbefore := hroom dataClass
    rw [List.length_append] at hqueue
    rw [after, queue_remember]
    omega
  | @queued changed _ _ hless =>
    rw [queue_setQueue]
    split
    · rw [List.length_append]
      exact hless
    · exact hroom dataClass

lemma path_bounded (h : Running.Path conduct s ending later s' ending')
    (hsingle : s.link.isBroadcast s.address = false)
    (hroom : ∀ dataClass, (s.queue dataClass).length ≤ s.link.queueSize) :
    ∀ dataClass, (s'.queue dataClass).length ≤ s.link.queueSize := by
  have hkeeps := h.keeps (P := fun t => s.Same t ∧
    ∀ dataClass, (t.queue dataClass).length ≤ s.link.queueSize) ?_ ⟨.refl s, hroom⟩
  · exact hkeeps.1.2
  · intro m input t ⟨hsame, hbefore⟩
    rw [left_eq]
    have hleaves := step_leaves (hsame.single hsingle) m input
    refine ⟨hsame.trans hleaves.same_parameters, ?_⟩
    rw [← hsame.link] at hbefore ⊢
    exact hleaves.bounded hbefore

/-- Data that is put into a queue has been taken out by the answer to a request served afresh or by
a reset of the user process, or waits, in the order in which it was put in. A queue holds no more
than its capacity, data is refused exactly if its queue is full, and a repetition takes nothing. -/
theorem queues_balanced {address : Nat} {link : LinkParameters} {widths : FieldWidths}
    {actions : List Action} {r : Run} (hstart : start address link widths = .ok s)
    (hrun : (launch s).run conduct actions = some r) (dataClass : DataClass) :
    r.past.flatMap (stored dataClass) =
        r.past.flatMap (removed dataClass) ++ r.station.queue dataClass ∧
      (r.station.queue dataClass).length ≤ link.queueSize ∧
      (∀ m payload request, r.station.step m (.command (.enqueue dataClass payload request)) =
        if (r.station.queue dataClass).length = link.queueSize then
          Turn.answer request (.refused .queueFull) r.station
        else
          Turn.answer request .done
            (r.station.setQueue dataClass (r.station.queue dataClass ++ [payload]))) ∧
      ∀ m frame q response, frame.request? address = some q →
        r.station.kept? q.fcb q.fcv = some response →
        (r.station.step m (.frame frame)).state = r.station := by
  obtain ⟨hsound, ⟨haddress, hlink, -⟩, hempty⟩ := start_sound hstart
  have hpath := path_of_run hrun
  have hsame := (path_same hsound.single hpath).1
  have hbalance := path_balance dataClass hpath hsound.single
  rw [hempty, List.nil_append] at hbalance
  have hbounded : (r.station.queue dataClass).length ≤ link.queueSize := by
    rw [← hlink]
    apply path_bounded hpath hsound.single
    simp [hempty]
  refine ⟨hbalance, hbounded, ?_, ?_⟩
  · intro m payload request
    simp only [step, onCommand, enqueue, hsame.link, hlink]
    by_cases hfull : (r.station.queue dataClass).length = link.queueSize
    · rw [if_pos hfull, if_pos (Nat.le_of_eq hfull.symm)]
    · rw [if_neg hfull, if_neg (by omega)]
  · intro m frame q response hq hkept
    rw [← haddress, ← hsame.address] at hq
    rw [step_kept (hsame.single hsound.single) hq hkept, write_state]

/-- A station whose queues hold two ASDUs each. -/
def small : Secondary := { usual with link := { queueSize := 2 } }

/-- Data is queued until it is refused, asked for twice with the same bit, queued again, discarded
by a reset of the user process, and queued and asked for again. -/
def busy : List Action :=
  [instruct (.enqueue .class1 [1] 0), instruct (.enqueue .class1 [2] 1),
    instruct (.enqueue .class1 [3] 2), instruct (.enqueue .class2 [4] 3),
    receive 1 (.request .requestClass1 true 3), receive 1 (.request .requestClass1 true 3),
    instruct (.enqueue .class1 [5] 4), receive 1 (.request .resetUserProcess false 3),
    instruct (.enqueue .class1 [6] 5), instruct (.enqueue .class1 [7] 6),
    receive 1 (.request .requestClass1 false 3), instruct (.enqueue .class1 [8] 7)].flatten

def afterBusy : Run := ((launch small).run conduct busy).getD (launch small)

/-- One ASDU is refused, and another one is refused at the end. The second poll with the same bit
takes nothing. -/
theorem queues_balanced_busy :
    start 3 { queueSize := 2 } .serial = .ok small ∧
      (launch small).run conduct busy = some afterBusy ∧
      afterBusy.past.flatMap (stored .class1) = [[1], [2], [5], [6], [7], [8]] ∧
      afterBusy.past.flatMap (removed .class1) = [[1], [2], [5], [6]] ∧
      afterBusy.past.flatMap (stored .class1) =
        afterBusy.past.flatMap (removed .class1) ++ afterBusy.station.queue .class1 ∧
      (∀ m, afterBusy.station.step m (.command (.enqueue .class1 [9] 8)) =
        Turn.answer 8 (.refused .queueFull) afterBusy.station) ∧
      ∀ m, (afterBusy.station.step m (.frame (.request .requestClass1 false 3))).state =
        afterBusy.station := by
  have hstart : start 3 { queueSize := 2 } .serial = .ok small := rfl
  have hrun : (launch small).run conduct busy = some afterBusy := by decide +kernel
  obtain ⟨hbalance, -, hqueue, hrepeat⟩ := queues_balanced hstart hrun .class1
  have hkept : afterBusy.station.kept? false true =
      some (.userData (.response .respUserData true) 3 [6]) := by
    decide +kernel
  refine ⟨hstart, hrun, by decide +kernel, by decide +kernel, hbalance, ?_, ?_⟩
  · intro m
    rw [hqueue, if_pos (by decide +kernel)]
  · intro m
    exact hrepeat m _ ⟨.requestClass1, false, true, none⟩ _ rfl hkept

end Secondary

end Telecontrol
