import Telecontrol.Proofs.Unbalanced.Course

/-!
# What has been handed out

The accounts of the exchanges are balanced: what the secondary has accepted has been taken from its
queues in an exchange or still waits, and what the primary has handed out it has handed out at the
end of an exchange. On a fast line the same is true of calls and of what the secondary has handed
out.
-/

namespace Telecontrol.Unbalanced

open Primary (HandshakeStep Stage)

variable {line : Line} {link : LinkParameters} {widths : FieldWidths} {address : Nat}
  {c c' : Scene} {d : Demand} {repeats : Nat}

/-! ## Exchanges -/

/-- The accounts of the exchanges are all there is to the queues and to the ASDUs that the primary
has handed out. -/
structure Scene.Balanced (c : Scene) : Prop where
  accepted : ∀ dataClass, c.accepted.filter (·.dataClass = dataClass) =
    (c.exchanges.flatMap Account.taken).filter (·.dataClass = dataClass) ++
      c.secondary.waiting dataClass
  reported : c.reported = c.exchanges.flatMap Account.reported

lemma flatMap_modifyLast {accounts : List Account} {f : Account → Account}
    {g : Account → List Asdu} (h : ∀ a, g (f a) = g a) :
    (accounts.modifyLast f).flatMap g = accounts.flatMap g := by
  rw [List.flatMap_def, List.flatMap_def, map_modifyLast h]

lemma Scene.Balanced.finish {answer : Option Mark} {active : Bool} {reported : List Asdu}
    {answers : List (Nat × Answer)} (hc : c.Balanced) (hcourse : c.Course link widths)
    (hstage : c.stage = .exchanging d repeats) :
    (c.finish answer active reported answers).Balanced := by
  obtain ⟨past, a, hlast, -, -, hopen, -⟩ := hcourse.underWay hstage
  have htaken : (c.finish answer active reported answers).exchanges.flatMap Account.taken =
      c.exchanges.flatMap Account.taken := flatMap_modifyLast fun _ => rfl
  refine ⟨fun dataClass => ?_, ?_⟩
  · rw [htaken]
    exact hc.accepted dataClass
  · have hreported := hc.reported
    simp only [hlast, List.flatMap_append, List.flatMap_singleton, hopen.reported,
      List.append_nil] at hreported
    simp [Scene.finish, hlast, hreported, List.modifyLast_concat]

lemma Move.balanced (h : Move line link widths address c c') (hc : c.Balanced)
    (hcourse : c.Course link widths) (hsound : c.Sound link widths address) : c'.Balanced := by
  cases h with
  | ask | askAgain | giveUp | known | up | fail | drop | refuse | repeated | told =>
    exact ⟨hc.accepted, hc.reported⟩
  | begin =>
    refine ⟨fun dataClass => ?_, ?_⟩
    · simpa [Scene.begin, Scene.callFor] using hc.accepted dataClass
    · simpa [Scene.begin, Scene.callFor] using hc.reported
  | @again d repeats lost =>
    have htaken : (c.again d repeats lost).exchanges.flatMap Account.taken =
        c.exchanges.flatMap Account.taken := flatMap_modifyLast fun _ => rfl
    have hreported : (c.again d repeats lost).exchanges.flatMap Account.reported =
        c.exchanges.flatMap Account.reported := flatMap_modifyLast fun _ => rfl
    refine ⟨fun dataClass => ?_, hc.reported.trans hreported.symm⟩
    rw [htaken]
    exact hc.accepted dataClass
  | exhaust hstage => exact hc.finish hcourse hstage
  | @conclude d repeats r rest hstage =>
    have hafter : (c.finish (some r.mark) true (d.reported widths r.content)
        (d.concluded r.content)).Balanced := hc.finish hcourse hstage
    exact ⟨hafter.accepted, hafter.reported⟩
  | @served d fcb mark rest r s lost hrequests hfcb hserves =>
    obtain ⟨past, a, hlast, rfl⟩ := hcourse.last hrequests
    have hmodify := modify_length past a fun a => { a with taken := a.taken ++ r.asdus widths }
    refine ⟨fun dataClass => ?_, ?_⟩
    · have haccepted := hc.accepted dataClass
      have hwaiting := hserves.waiting dataClass
      rw [hsound.parameters.2.2] at hwaiting
      rw [hlast, hwaiting] at haccepted
      simpa [Scene.supply, Scene.respond, hlast, hmodify] using haccepted
    · have hreported := hc.reported
      rw [hlast] at hreported
      simpa [Scene.supply, Scene.respond, hlast, hmodify] using hreported
  | reset _ _ _ _ _ hwaiting =>
    refine ⟨fun dataClass => ?_, hc.reported⟩
    exact (hc.accepted dataClass).trans (congrArg _ (hwaiting dataClass).symm)
  | queue _ _ _ _ hwaiting =>
    refine ⟨fun dataClass => ?_, hc.reported⟩
    rw [hwaiting dataClass, List.filter_append, hc.accepted dataClass, List.append_assoc]

/-! ## Calls -/

/-- The secondary has handed out the ASDU of a call as often as the answer of the call says. -/
inductive Call.Answered (address : Nat) (call : Call) : Prop
  | done (hanswer : call.answer = some .done) (hreceived : call.received = [call.asdu])
  | exhausted (hanswer : call.answer = some (.refused (.retriesExhausted address)))
    (hreceived : call.received = [] ∨ call.received = [call.asdu])
  | refused (fault : Fault) (hanswer : call.answer = some (.refused fault))
    (hfault : fault = .notActive ∨ ∃ receiver, fault = .domain (.noSecondary receiver))
    (hreceived : call.received = [])

/-- All calls have been answered, but for the one that an exchange is under way for: its ASDU has
been handed out if the secondary remembers the bit of the exchange. -/
inductive Scene.Calling (address : Nat) (c : Scene) : Prop
  | resting
    (hstage : ∀ request asdu payload repeats,
      c.stage ≠ .exchanging (.deliver request asdu payload) repeats)
    (hcalls : ∀ call ∈ c.calls, call.Answered address)
    (hreceived : c.received = c.calls.flatMap Call.received)
  | pending (past : List Call) (request : Nat) (asdu : Asdu) (payload : Octets) (repeats : Nat)
    (received : List Asdu) (hstage : c.stage = .exchanging (.deliver request asdu payload) repeats)
    (hlast : c.calls = past ++ [⟨request, asdu, received, none⟩])
    (hserved : received = if c.secondary.lastFcb = some c.fcb then [asdu] else [])
    (hcalls : ∀ call ∈ past, call.Answered address)
    (hreceived : c.received = c.calls.flatMap Call.received)

lemma Call.Answered.conclude {call : Call} {answers : List (Nat × Answer)}
    (h : call.Answered address) : call.conclude answers = call := by
  cases h with
  | done hanswer | exhausted hanswer | refused _ hanswer => simp [Call.conclude, hanswer]

lemma Scene.Calling.received (hc : c.Calling address) :
    c.received = c.calls.flatMap Call.received := by
  cases hc <;> assumption

lemma Scene.Calling.answered_of_isSome (hc : c.Calling address) :
    ∀ call ∈ c.calls, call.answer.isSome → call.Answered address := by
  intro call hmem hsome
  cases hc with
  | resting _ hcalls => exact hcalls call hmem
  | pending past request asdu payload repeats received _ hlast _ hcalls =>
    rw [hlast, List.mem_append, List.mem_singleton] at hmem
    rcases hmem with hmem | rfl
    · exact hcalls call hmem
    · cases hsome

lemma Scene.Calling.answered (hc : c.Calling address)
    (hrests : ∀ d repeats, c.stage ≠ .exchanging d repeats) :
    ∀ call ∈ c.calls, call.Answered address := by
  cases hc with
  | resting _ hcalls => exact hcalls
  | pending _ _ _ _ _ _ hstage => exact absurd hstage (hrests _ _)

lemma Scene.Calling.rest (hc : c.Calling address)
    (hrests : ∀ d repeats, c.stage ≠ .exchanging d repeats)
    (hrests' : ∀ d repeats, c'.stage ≠ .exchanging d repeats) (hcalls : c'.calls = c.calls)
    (hreceived : c'.received = c.received) : c'.Calling address := by
  refine .resting (fun _ _ _ => hrests' _) ?_ ?_
  · rw [hcalls]
    exact hc.answered hrests
  · rw [hcalls, hreceived]
    exact hc.received

lemma Scene.Calling.keep (hc : c.Calling address) (hstage : c'.stage = c.stage)
    (hfcb : c'.fcb = c.fcb) (hlast : c'.secondary.lastFcb = c.secondary.lastFcb)
    (hcalls : c'.calls = c.calls) (hreceived : c'.received = c.received) :
    c'.Calling address := by
  cases hc with
  | resting hrests hanswered hsame =>
    refine .resting ?_ ?_ ?_
    · rwa [hstage]
    · rwa [hcalls]
    · rw [hcalls, hreceived, hsame]
  | pending past request asdu payload repeats received hgoing hpending hserved hanswered hsame =>
    refine .pending past request asdu payload repeats received (hstage.trans hgoing)
      (hcalls.trans hpending) ?_ hanswered ?_
    · rw [hlast, hfcb, hserved]
    · rw [hcalls, hreceived, hsame]

lemma Scene.Calling.begin {quiet lost : Bool} (hc : c.Calling address)
    (hstage : c.stage = .idle true) (hfcb : c.secondary.lastFcb ≠ some (!c.fcb)) :
    ((c.callFor d).begin link d quiet lost).Calling address := by
  have hcalls := hc.answered (by simp [hstage])
  cases d with
  | fetch dataClass =>
    refine .resting (by simp [Scene.begin]) ?_ ?_
    · simpa [Scene.begin, Scene.callFor, Demand.calls] using hcalls
    · simpa [Scene.begin, Scene.callFor, Demand.calls] using hc.received
  | deliver request asdu payload =>
    refine .pending c.calls request asdu payload link.retries [] rfl rfl ?_ hcalls ?_
    · exact (if_neg hfcb).symm
    · simpa [Scene.begin, Scene.callFor, Demand.calls] using hc.received

lemma Scene.Calling.finish {answer : Option Mark} {active : Bool} {reported : List Asdu}
    {answers : List (Nat × Answer)} (hc : c.Calling address)
    (hstage : c.stage = .exchanging d repeats)
    (hfetch : ∀ dataClass, d = .fetch dataClass → answers = [])
    (hdeliver : ∀ request asdu payload, d = .deliver request asdu payload →
      (Call.conclude answers ⟨request, asdu,
        if c.secondary.lastFcb = some c.fcb then [asdu] else [], none⟩).Answered address) :
    (c.finish answer active reported answers).Calling address := by
  cases hc with
  | resting hrests hcalls hreceived =>
    cases d with
    | deliver request asdu payload => exact absurd hstage (hrests _ _ _ _)
    | fetch dataClass =>
      obtain rfl := hfetch dataClass rfl
      refine .resting (by simp [Scene.finish]) ?_ ?_
      · simpa only [Scene.finish, conclude_nil] using hcalls
      · simpa only [Scene.finish, conclude_nil] using hreceived
  | pending past request asdu payload repeats' received hgoing hlast hserved hcalls hreceived =>
    obtain ⟨rfl, rfl⟩ : d = .deliver request asdu payload ∧ repeats = repeats' := by
      rw [hstage] at hgoing
      cases hgoing
      exact ⟨rfl, rfl⟩
    have hanswered := hdeliver request asdu payload rfl
    rw [← hserved] at hanswered
    refine .resting (by simp [Scene.finish]) ?_ ?_
    · simp only [Scene.finish, hlast, List.modifyLast_concat, List.forall_mem_append,
        List.forall_mem_singleton]
      exact ⟨hcalls, hanswered⟩
    · rw [hlast] at hreceived
      simpa [Scene.finish, hlast, List.modifyLast_concat, Call.conclude] using hreceived

lemma Scene.Calling.served {fcb lost : Bool} {mark : Mark} {rest : List (Letter Ask)}
    {r : LinkFrame} {s : Secondary} {taken : List Asdu} (hc : c.Calling address)
    (hpaced : c.Paced) (hcourse : c.Course link widths)
    (hrequests : c.requests = ⟨.demand d fcb, mark⟩ :: rest)
    (hfcb : c.secondary.lastFcb ≠ some fcb) (hs : s.lastFcb = some fcb) :
    ((c.respond mark s r lost).supply mark taken d.delivery).Calling address := by
  -- A copy that outlives its exchange would be on the line while the primary is at rest.
  obtain ⟨repeats, hstage, rfl⟩ : ∃ repeats, c.stage = .exchanging d repeats ∧ fcb = c.fcb := by
    have hhead : ⟨.demand d fcb, mark⟩ ∈ c.requests := hrequests ▸ List.mem_cons_self
    cases hcourse with
    | going past a d' repeats hstage _ _ hcopies =>
      obtain ⟨⟨rfl, rfl⟩, -⟩ : (d = d' ∧ fcb = c.fcb) ∧ mark = some past.length := by
        simpa using hcopies _ hhead
      exact ⟨repeats, hstage, rfl⟩
    | fresh _ _ hsteps => exact absurd hhead (demand_not_mem hsteps)
    | ended _ _ _ _ _ _ hrests =>
      cases hstage : c.stage with
      | exchanging d' repeats => exact absurd hstage (hrests d' repeats)
      | idle active =>
        rw [(hpaced.idle active hstage).1] at hhead
        cases hhead
      | asking s =>
        have heq := hpaced.asking s hstage _ hhead
        simp at heq
  cases hc with
  | resting hrests hcalls hreceived =>
    cases d with
    | deliver request asdu payload => exact absurd hstage (hrests _ _ _ _)
    | fetch dataClass =>
      refine .resting ?_ ?_ ?_
      · exact hrests
      · simpa only [Scene.supply, Scene.respond, Demand.delivery, witness_nil] using hcalls
      · simpa only [Scene.supply, Scene.respond, Demand.delivery, witness_nil, List.append_nil]
          using hreceived
  | pending past request asdu payload repeats' received hgoing hlast hserved hcalls hreceived =>
    obtain ⟨rfl, rfl⟩ : d = .deliver request asdu payload ∧ repeats = repeats' := by
      rw [hstage] at hgoing
      cases hgoing
      exact ⟨rfl, rfl⟩
    obtain rfl : received = [] := hserved.trans (if_neg hfcb)
    refine .pending past request asdu payload repeats [asdu] hstage ?_ ?_ hcalls ?_
    · simp [Scene.supply, Scene.respond, hlast, List.modifyLast_concat, Call.witness,
        Demand.delivery]
    · exact (if_pos hs).symm
    · rw [hlast] at hreceived
      simp [Scene.supply, Scene.respond, hlast, List.modifyLast_concat, Call.witness,
        Demand.delivery, hreceived]

lemma Move.calling (h : Move .lossy link widths address c c') (hc : c.Calling address)
    (hpaced : c.Paced) (hcourse : c.Course link widths) (hnumbered : c.Numbered .lossy) :
    c'.Calling address := by
  cases h with
  | ask hstage => exact hc.rest (by simp [hstage]) (by simp) rfl rfl
  | askAgain hstage => exact hc.rest (by simp [hstage]) (by simp [Scene.ask, hstage]) rfl rfl
  | giveUp hstage => exact hc.rest (by simp [hstage]) (by simp) rfl rfl
  | known hstage => exact hc.rest (by simp [hstage]) (by simp) rfl rfl
  | @up r rest answers hstage =>
    have hsame : c.calls.modifyLast (Call.conclude answers) = c.calls :=
      modifyLast_id fun call hmem => (hc.answered (by simp [hstage]) call hmem).conclude
    exact hc.rest (by simp [hstage]) (by simp) hsame rfl
  | @fail s answers hstage =>
    have hsame : c.calls.modifyLast (Call.conclude answers) = c.calls :=
      modifyLast_id fun call hmem => (hc.answered (by simp [hstage]) call hmem).conclude
    exact hc.rest (by simp [hstage]) (by simp [hstage]) hsame rfl
  | drop hrests => exact hc.rest hrests hrests rfl rfl
  | begin hstage =>
    refine hc.begin hstage ?_
    have hnew := hnumbered.active hstage
    rwa [(hpaced.idle true hstage).1] at hnew
  | again hstage =>
    cases hc with
    | resting hrests hcalls hreceived =>
      refine .resting ?_ hcalls hreceived
      rintro request asdu payload repeats ⟨⟩
      exact hrests _ _ _ _ hstage
    | pending past request asdu payload repeats received hgoing hlast hserved hcalls hreceived =>
      rw [hstage] at hgoing
      cases hgoing
      exact .pending past request asdu payload _ received rfl hlast hserved hcalls hreceived
  | exhaust hstage =>
    refine hc.finish hstage (by rintro _ rfl; rfl) ?_
    rintro request asdu payload rfl
    refine .exhausted (by simp [Call.conclude, Demand.abandoned]) ?_
    -- What was lost last may have been a request or a response.
    by_cases hlast : c.secondary.lastFcb = some c.fcb
    · exact .inr (if_pos hlast)
    · exact .inl (if_neg hlast)
  | @conclude d repeats r rest hstage hresponses =>
    have hafter : (c.finish (some r.mark) true (d.reported widths r.content)
        (d.concluded r.content)).Calling address := by
      refine hc.finish hstage (by rintro _ rfl; rfl) ?_
      rintro request asdu payload rfl
      obtain ⟨past, a, -, -, -, -, hprogress⟩ := hcourse.underWay hstage
      obtain ⟨-, hfcb, hack⟩ := hprogress.heard hresponses
      refine .done ?_ (if_pos hfcb)
      simp [Call.conclude, Demand.concluded, hack request asdu payload rfl]
    exact hafter.keep rfl rfl rfl rfl rfl
  | @refuse active request asdu fault hstage hfault =>
    refine .resting (by simp [hstage]) ?_ (by simpa using hc.received)
    have hcalls := hc.answered (by simp [hstage])
    simp only [List.forall_mem_append, List.forall_mem_singleton]
    exact ⟨hcalls, .refused fault rfl hfault rfl⟩
  | repeated | told => exact hc.keep rfl rfl rfl rfl rfl
  | served hrequests hfcb hserves => exact hc.served hpaced hcourse hrequests hfcb hserves.numbered
  | reset hrequests =>
    -- A reset is not on the line during an exchange.
    have hrests : ∀ d repeats, c.stage ≠ .exchanging d repeats := by
      intro d repeats hstage
      obtain ⟨past, a, -, -, hcopies, -, -⟩ := hcourse.underWay hstage
      have hhead := hcopies _ (hrequests ▸ List.mem_cons_self)
      simp at hhead
    exact hc.rest hrests hrests rfl rfl
  | queue _ _ hfcb => exact hc.keep rfl rfl hfcb rfl rfl

end Telecontrol.Unbalanced
