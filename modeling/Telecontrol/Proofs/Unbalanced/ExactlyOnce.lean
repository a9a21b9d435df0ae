import Telecontrol.Proofs.Unbalanced.Balance
import Telecontrol.Proofs.Unbalanced.Run

/-!
# Exactly-once delivery over a lossy line

Whatever frames are lost, as long as those that are not lost come in time, an acknowledged call has
handed its ASDU to the application of the secondary once, and data that the secondary gives is handed
out by the primary once and in order, unless the exchange that it was given in is given up.
-/

namespace Telecontrol.Unbalanced

variable {link : LinkParameters} {widths : FieldWidths} {address : Nat} {c c' : Scene}
  {u u' : Unbalanced} {line : Line}

/-- All data that the secondary accepted has been taken in an exchange or waits, and all data that
was taken in an exchange has been handed out at its end, unless it was given up after all its
attempts. -/
structure Accounted (link : LinkParameters) (u : Unbalanced) : Prop where
  accepted : ∀ dataClass, u.accepted.filter (·.dataClass = dataClass) =
    (u.exchanges.flatMap Account.taken).filter (·.dataClass = dataClass) ++
      u.secondary.waiting dataClass
  reported : u.reported = u.exchanges.flatMap Account.reported
  settled : ∀ a ∈ u.exchanges, a.ended = true → a.reported = a.taken ∨ a.Exhausted link
  ordered : ∀ dataClass, (u.reported.filter (·.dataClass = dataClass)).Sublist
    (u.accepted.filter (·.dataClass = dataClass))

lemma Scene.Course.accounts (hc : c.Course link widths) :
    ∀ a ∈ c.exchanges, a.Settled link ∨ a.ended = false ∧ a.reported = [] := by
  intro a hmem
  cases hc with
  | fresh _ hnone =>
    rw [hnone] at hmem
    cases hmem
  | going past last d repeats _ hlast hpast _ hopen =>
    rw [hlast, List.mem_append, List.mem_singleton] at hmem
    rcases hmem with hmem | rfl
    · exact .inl (hpast a hmem)
    · exact .inr ⟨hopen.going, hopen.reported⟩
  | ended past last d fcb copies steps _ hlast hpast _ _ _ hsettled =>
    rw [hlast, List.mem_append, List.mem_singleton] at hmem
    rcases hmem with hmem | rfl
    · exact .inl (hpast a hmem)
    · exact .inl hsettled

lemma Account.reported_sublist {a : Account}
    (h : a.Settled link ∨ a.ended = false ∧ a.reported = []) : a.reported.Sublist a.taken := by
  rcases h with ⟨-, heq | hexhausted⟩ | ⟨-, hnone⟩
  · exact heq ▸ .refl _
  · rw [hexhausted.reported]
    exact List.nil_sublist _
  · rw [hnone]
    exact List.nil_sublist _

lemma flatMap_sublist {accounts : List Account} {f g : Account → List Asdu}
    (h : ∀ a ∈ accounts, (f a).Sublist (g a)) : (accounts.flatMap f).Sublist (accounts.flatMap g) := by
  induction accounts with
  | nil => exact .slnil
  | cons a accounts ih =>
    rw [List.flatMap_cons, List.flatMap_cons]
    exact (h a List.mem_cons_self).append (ih fun b hmem => h b (List.mem_cons_of_mem _ hmem))

lemma Shows.accounted (h : u.Shows link widths address c) (hbalanced : c.Balanced)
    (hcourse : c.Course link widths) : u.Accounted link := by
  have haccounts := hcourse.accounts
  have haccepted : ∀ dataClass, u.accepted.filter (·.dataClass = dataClass) =
      (u.exchanges.flatMap Account.taken).filter (·.dataClass = dataClass) ++
        u.secondary.waiting dataClass := by
    rw [h.accepted, h.exchanges, h.secondary]
    exact hbalanced.accepted
  have hreported : u.reported = u.exchanges.flatMap Account.reported := by
    rw [h.reported, h.exchanges]
    exact hbalanced.reported
  rw [← h.exchanges] at haccounts
  refine ⟨haccepted, hreported, ?_, fun dataClass => ?_⟩
  · intro a hmem hover
    obtain hsettled | ⟨hgoing, -⟩ := haccounts a hmem
    · exact hsettled.2
    · rw [hgoing] at hover
      cases hover
  · rw [haccepted dataClass, hreported]
    have hsublist := flatMap_sublist fun a hmem => Account.reported_sublist (haccounts a hmem)
    exact (hsublist.filter _).trans (List.sublist_append_left _ _)

/-- What is true of the scene at every moment on a fast line. -/
structure Scene.Reliable (link : LinkParameters) (widths : FieldWidths) (address : Nat)
    (c : Scene) : Prop where
  sound : c.Sound link widths address
  paced : c.Paced
  numbered : c.Numbered .lossy
  course : c.Course link widths
  balanced : c.Balanced
  calling : c.Calling address

lemma Move.reliable (h : Move .lossy link widths address c c') (hc : c.Reliable link widths address) :
    c'.Reliable link widths address := by
  obtain ⟨hsound, hpaced, hnumbered, hcourse, hbalanced, hcalling⟩ := hc
  have hpaced' := h.paced hpaced
  exact ⟨h.sound hsound, hpaced', h.numbered hnumbered hcourse fun _ => hpaced,
    h.course hcourse hnumbered hpaced'.quiet, h.balanced hbalanced hcourse hsound,
    h.calling hcalling hpaced hcourse hnumbered⟩

section

variable {secondary : Secondary} {lost : Bool}

lemma Scene.start_course : (Scene.start secondary lost).Course link widths :=
  .fresh (by simp [Scene.start]) rfl (steps_post (by simp))

lemma Scene.start_balanced (hqueue : ∀ dataClass, secondary.queue dataClass = []) :
    (Scene.start secondary lost).Balanced := by
  refine ⟨fun dataClass => ?_, rfl⟩
  change [] = secondary.waiting dataClass
  rw [Secondary.waiting, hqueue]
  rfl

lemma Scene.start_numbered : (Scene.start secondary lost).Numbered line :=
  ⟨by simp [Scene.start], by simp [Scene.start]⟩

lemma Scene.start_paced : (Scene.start secondary lost).Paced := by
  have hsilent : ({ Scene.start secondary lost with requests := [] } : Scene).Silent := ⟨rfl, rfl⟩
  exact .written hsilent rfl rfl (by simp [Scene.start]) (by simp [Scene.start])
    (by simp [Scene.start])

lemma Scene.start_reliable (hsound : (Scene.start secondary lost).Sound link widths address)
    (hqueue : ∀ dataClass, secondary.queue dataClass = []) :
    (Scene.start secondary lost).Reliable link widths address where
  sound := hsound
  paced := start_paced
  numbered := start_numbered
  course := start_course
  balanced := start_balanced hqueue
  calling := .resting (by simp [Scene.start]) (by simp [Scene.start]) rfl

end

/-- For every pattern of losses and every interleaving of calls, polls, new beginnings of the link
and queued data: the ASDU of an acknowledged call has been handed out once during the call, that of
an unanswered one at most once, and that of a refused one not at all. Of each class the primary hands
out what the secondary accepted, in order and without repetitions, and what it does not hand out
still waits, or was given in an exchange that used up all its attempts or is not over yet. -/
theorem exactly_once {request now : Nat} {lost : Bool} {actions : List Action}
    (hstart : start address link widths request now lost = .ok u)
    (hfaithful : ∀ asdu ∈ actions.filterMap Action.asdu?, asdu.Faithful widths)
    (hkeeps : Keeps .lossy actions u) (hrun : u.run actions = some u') :
    (∀ call ∈ u'.calls, call.answer.isSome → call.Answered address) ∧
      u'.received = u'.calls.flatMap Call.received ∧ u'.Accounted link := by
  obtain ⟨secondary, hqueue, hsound, hshows⟩ := shows_start hstart
  obtain ⟨c, hshows', hmoves⟩ := shows_run hshows hsound hfaithful hkeeps hrun
  have hc := hmoves.keep Move.reliable (Scene.start_reliable hsound hqueue)
  refine ⟨?_, ?_, hshows'.accounted hc.balanced hc.course⟩
  · rw [hshows'.calls]
    exact hc.calling.answered_of_isSome
  · rw [hshows'.received, hshows'.calls]
    exact hc.calling.received

/-! ## A run -/

def reading (object : Nat) : Asdu where
  header := { type := .readCommand, cause := .request, commonAddress := 1 }
  objects := [⟨object, [[]]⟩]

/-- The system with the usual parameters, after the primary has begun to open. -/
def usual (lost : Bool) : Unbalanced where
  now := 0
  primary := {
    link := {}, widths := .serial, peers := [{ address := 1 }],
    activity := .handshake ⟨0, .status, 5000, 500, false⟩ (.opening 0), pollDue := none }
  secondary := {
    address := 1, link := {}, widths := .serial, class1 := [], class2 := [], lastFcb := none,
    lastResponse := none, everReset := false }
  requests :=
    if lost then {}
    else { channel := { flight := [0x10, 0x49, 0x01, 0x4A, 0x16] }, marks := [none] }

/-- A request arrives and is served, and the response arrives. -/
def roundTrip : List Action := [.carryRequests 100, .serve false, .carryResponses 100, .hear false]

/-- The response is lost, and the request is repeated. -/
def lostResponse : List Action := [.carryRequests 100, .serve true, .elapse 500, .expire false]

/-- The first request is lost, then a response to user data and one with data, then all attempts of
an exchange. A call to a link that is down and a new beginning follow. -/
def losses : List Action :=
  [.elapse 500, .expire false] ++ roundTrip ++ roundTrip ++
    [.send 1 (reading 1) 1 false] ++ lostResponse ++ roundTrip ++
    [.queue (reading 2) 2, .queue (reading 3) 3, .elapse 500, .expire false] ++ lostResponse ++
    roundTrip ++ roundTrip ++
    [.send 1 (reading 4) 4 true, .elapse 500, .expire true, .elapse 500, .expire true,
      .elapse 500, .expire false, .send 1 (reading 5) 5 false, .elapse 1000, .expire false] ++
    roundTrip ++ roundTrip ++ [.send 1 (reading 6) 6 false] ++ roundTrip

def afterLosses : Unbalanced := ((usual true).run losses).getD (usual true)

theorem exactly_once_losses :
    start 1 {} .serial 0 0 true = .ok (usual true) ∧
      Keeps .lossy losses (usual true) ∧ (usual true).run losses = some afterLosses ∧
      afterLosses.calls.map Call.answer =
        [some .done, some (.refused (.retriesExhausted 1)), some (.refused .notActive),
          some .done] ∧
      afterLosses.received = [reading 1, reading 6] ∧
      afterLosses.reported = [reading 2, reading 3] ∧
      (∀ call ∈ afterLosses.calls, call.answer.isSome → call.Answered 1) ∧
      afterLosses.Accounted {} := by
  have hstart : start 1 {} .serial 0 0 true = .ok (usual true) := rfl
  have hfaithful : ∀ asdu ∈ losses.filterMap Action.asdu?, asdu.Faithful .serial := by
    decide +kernel
  have hkeeps : Keeps .lossy losses (usual true) := by decide +kernel
  have hrun : (usual true).run losses = some afterLosses := by decide +kernel
  obtain ⟨hcalls, -, haccounted⟩ := exactly_once hstart hfaithful hkeeps hrun
  exact ⟨hstart, hkeeps, hrun, by decide +kernel, by decide +kernel, by decide +kernel, hcalls,
    haccounted⟩

end Telecontrol.Unbalanced
