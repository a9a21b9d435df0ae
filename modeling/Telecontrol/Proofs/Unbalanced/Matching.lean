import Telecontrol.Proofs.Unbalanced.ExactlyOnce
import Telecontrol.Proofs.Unbalanced.Order

/-!
# Matching responses with late frames

On a line that loses nothing but may be slow, the primary may repeat a request although its response
is on the way, and then there is one response more than it waits for. The exchange that begins next
takes it for its own. This is the only way in which a response is taken for another one's: as long
as nothing is on the line when an exchange begins, all is as on a line that is fast.
-/

namespace Telecontrol.Unbalanced

variable {link : LinkParameters} {widths : FieldWidths} {address : Nat} {c c' : Scene}
  {u u' : Unbalanced} {line : Line}

/-- All exchanges have begun on a quiet line. -/
def AllQuiet (accounts : List Account) : Prop := ∀ a ∈ accounts, a.quiet = true

lemma allQuiet_iff {accounts : List Account} :
    AllQuiet accounts ↔ ∀ quiet ∈ accounts.map Account.quiet, quiet = true := by
  simp [AllQuiet]

lemma Move.quiet_kept (h : Move line link widths address c c') :
    c.exchanges.map Account.quiet <+: c'.exchanges.map Account.quiet := by
  have hsame : c'.exchanges.map Account.quiet = c.exchanges.map Account.quiet →
      c.exchanges.map Account.quiet <+: c'.exchanges.map Account.quiet :=
    fun heq => heq ▸ List.prefix_rfl
  cases h with
  | begin =>
    simp only [Scene.begin, Scene.callFor, List.map_append]
    exact List.prefix_append _ _
  | again | exhaust | conclude =>
    exact hsame (map_modifyLast fun _ => rfl)
  | @served d fcb mark =>
    cases mark with
    | none => exact List.prefix_rfl
    | some number => exact hsame (map_modify fun _ => rfl)
  | _ => exact List.prefix_rfl

/-- What is true of the scene at every moment on a line that loses nothing. -/
structure Scene.Patient (link : LinkParameters) (widths : FieldWidths) (address : Nat)
    (c : Scene) : Prop where
  sound : c.Sound link widths address
  ordered : c.Ordered
  quiet : AllQuiet c.exchanges → c.Numbered .slow ∧ c.Course link widths ∧ c.Balanced

lemma Move.patient (h : Move .slow link widths address c c') (hc : c.Patient link widths address) :
    c'.Patient link widths address := by
  refine ⟨h.sound hc.sound, h.ordered hc.ordered, fun hquiet => ?_⟩
  have hbefore : AllQuiet c.exchanges := by
    rw [allQuiet_iff] at hquiet ⊢
    exact fun quiet hmem => hquiet quiet (h.quiet_kept.subset hmem)
  obtain ⟨hnumbered, hcourse, hbalanced⟩ := hc.quiet hbefore
  exact ⟨h.numbered hnumbered hcourse (by simp), h.course hcourse hnumbered hquiet,
    h.balanced hbalanced hcourse hc.sound⟩

lemma Scene.start_ordered {secondary : Secondary} {lost : Bool} :
    (Scene.start secondary lost).Ordered := by
  refine ⟨fun number hmem => ?_, by simp [Scene.start], by simp [Scene.start, Scene.notes]⟩
  have hnone : some number ∈ ([] : List (Letter Ask)).map Letter.mark := some_mem_post hmem
  cases hnone

/-- For every run on a line that loses nothing: a response that ends an exchange is one to the frame
of this exchange if and only if nothing was on the line when the exchange began. As long as this is
so for all exchanges, data is handed out once and in order, unless an exchange has used up all its
attempts. -/
theorem responses_match {request now : Nat} {lost : Bool} {actions : List Action}
    (hstart : start address link widths request now lost = .ok u)
    (hfaithful : ∀ asdu ∈ actions.filterMap Action.asdu?, asdu.Faithful widths)
    (hkeeps : Keeps .slow actions u) (hrun : u.run actions = some u') :
    (∀ (number : Nat) (a : Account) (m : Mark), u'.exchanges[number]? = some a →
      a.answer = some m → (m = some number ↔ a.quiet = true)) ∧
      (AllQuiet u'.exchanges → u'.Accounted link) := by
  obtain ⟨secondary, hqueue, hsound, hshows⟩ := shows_start hstart
  obtain ⟨c, hshows', hmoves⟩ := shows_run hshows hsound hfaithful hkeeps hrun
  have hc := hmoves.keep Move.patient ⟨hsound, Scene.start_ordered, fun _ =>
    ⟨Scene.start_numbered, Scene.start_course, Scene.start_balanced hqueue⟩⟩
  rw [hshows'.exchanges]
  refine ⟨fun number a m hfound hanswer => ?_, fun hquiet => ?_⟩
  · refine hc.ordered.matched number a.quiet m ?_
    simp [Scene.notes, hfound, hanswer]
  · obtain ⟨-, hcourse, hbalanced⟩ := hc.quiet hquiet
    exact hshows'.accounted hbalanced hcourse

/-- Two polls, and a call whose request is repeated before its response comes. The second response
comes when the primary is idle. -/
def lateResponse : List Action :=
  roundTrip ++ roundTrip ++
    [.queue (reading 1) 1, .queue (reading 2) 2, .elapse 1000, .expire false] ++ roundTrip ++
    roundTrip ++
    [.send 1 (reading 3) 3 false, .elapse 500, .expire false, .carryRequests 100, .serve false,
      .serve false, .carryResponses 100, .hear false, .hear false]

def afterLateResponse : Unbalanced := ((usual false).run lateResponse).getD (usual false)

theorem responses_match_lateResponse :
    start 1 {} .serial 0 0 false = .ok (usual false) ∧ Keeps .slow lateResponse (usual false) ∧
      (usual false).run lateResponse = some afterLateResponse ∧
      afterLateResponse.exchanges.map Account.answer =
        [some (some 0), some (some 1), some (some 2)] ∧
      AllQuiet afterLateResponse.exchanges ∧ afterLateResponse.Accounted {} ∧
      ∀ (number : Nat) (a : Account) (m : Mark), afterLateResponse.exchanges[number]? = some a →
        a.answer = some m → (m = some number ↔ a.quiet = true) := by
  have hstart : start 1 {} .serial 0 0 false = .ok (usual false) := rfl
  have hfaithful : ∀ asdu ∈ lateResponse.filterMap Action.asdu?, asdu.Faithful .serial := by
    decide +kernel
  have hkeeps : Keeps .slow lateResponse (usual false) := by decide +kernel
  have hrun : (usual false).run lateResponse = some afterLateResponse := by decide +kernel
  have hquiet : AllQuiet afterLateResponse.exchanges := by
    unfold AllQuiet
    decide +kernel
  obtain ⟨hmatched, haccounted⟩ := responses_match hstart hfaithful hkeeps hrun
  exact ⟨hstart, hkeeps, hrun, by decide +kernel, hquiet, haccounted hquiet, hmatched⟩

/-- A poll is repeated before its response comes, and the data that the response announces is asked
for at once. From then on the responses are one behind the requests. -/
def drift : List Action :=
  roundTrip ++ roundTrip ++
    [.queue (reading 1) 1, .queue (reading 2) 2, .elapse 1000, .expire false, .elapse 500,
      .expire false, .carryRequests 100, .serve false, .serve false, .carryResponses 100,
      .hear false, .hear false, .carryRequests 7, .serve false, .carryResponses 100, .hear false,
      .queue (reading 3) 3] ++ roundTrip

def afterDrift : Unbalanced := ((usual false).run drift).getD (usual false)

/-- The second exchange is ended by the response to the first one. What the first one gave is handed
out twice, and what the last one gave is never handed out. -/
theorem drift_mismatch :
    start 1 {} .serial 0 0 false = .ok (usual false) ∧ Keeps .slow drift (usual false) ∧
      (usual false).run drift = some afterDrift ∧
      afterDrift.exchanges.map Account.answer = [some (some 0), some (some 0), some (some 1)] ∧
      afterDrift.exchanges.map Account.taken = [[reading 1], [reading 2], [reading 3]] ∧
      afterDrift.reported = [reading 1, reading 1, reading 2] ∧ afterDrift.silent = true := by
  have hkeeps : Keeps .slow drift (usual false) := by decide +kernel
  exact ⟨rfl, hkeeps, by decide +kernel, by decide +kernel, by decide +kernel, by decide +kernel,
    by decide +kernel⟩

end Telecontrol.Unbalanced
