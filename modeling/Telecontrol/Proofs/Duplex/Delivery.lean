import Telecontrol.Proofs.Duplex.Invariant

/-!
# Delivery between two connected ends

Whatever the two ends are asked to do, and however long octets are under way, neither end is ever to
blame for the end of the connection, and data is handed out in the order in which it was accepted,
without gaps and without repetitions, over any number of periods of data transfer.
-/

namespace Telecontrol.Duplex

variable {d d₀ : Duplex} {widths : FieldWidths} {honest : Prop} {kc ks : Nat} {role : Role}
  {own other : End}

lemma Joined.blameless (h : Joined honest kc ks widths role own other) (fault : Fault) :
    own.ending ≠ some (.protocol fault) ∧ own.ending ≠ some (.framing fault) := by
  obtain ⟨t, t', toOwn, toOther, -, hown, -⟩ := h
  exact ⟨fun hending => hown.blameless _ hending trivial,
    fun hending => hown.blameless _ hending trivial⟩

lemma Joined.received_in_order (h : Joined honest kc ks widths role own other) :
    own.received <+: other.accepted := by
  obtain ⟨t, t', toOwn, toOther, -, -, -, -, haccepted⟩ := h
  exact ⟨_, haccepted.symm⟩

lemma Invariant.active (h : d.Invariant honest kc ks widths)
    (hopen : d.controlling.ending = none) (hopen' : d.controlled.ending = none)
    (hactive : d.controlling.connection.state = .active) :
    d.controlled.connection.state = .active := by
  obtain ⟨t, t', toOwn, toOther, hbetween, hown, hother, -⟩ := h
  obtain ⟨-, -, rfl, -⟩ := hown.live hopen
  obtain ⟨-, -, rfl, -⟩ := hother.live hopen'
  exact Phase.active hbetween hactive

/-- Delivery from end to end, for every interleaving of commands, arrivals and timers. -/
theorem delivery {controlling controlled : ApciParameters} {now : Nat} {actions : List Action}
    (hstart : start controlling controlled widths now = .ok d₀)
    (hfaithful : ∀ asdu ∈ actions.filterMap Action.asdu?, asdu.Faithful widths)
    (hrun : d₀.run actions = some d) :
    (∀ role fault, (d.side role).ending ≠ some (.protocol fault) ∧
        (d.side role).ending ≠ some (.framing fault)) ∧
      (d.controlling.ending = none → d.controlled.ending = none →
        d.controlling.connection.state = .active → d.controlled.connection.state = .active) ∧
      ∀ role, (d.side role).received <+: (d.side role.other).accepted := by
  have hinvariant : d.Invariant False controlling.k controlled.k widths :=
    invariant_run (invariant_start hstart) hfaithful False.elim hrun
  have hjoined (role : Role) := (invariant_iff role).1 hinvariant
  exact ⟨fun role fault => (hjoined role).blameless fault, hinvariant.active,
    fun role => (hjoined role).received_in_order⟩

/-- Two ends with the usual parameters. -/
def usual : Duplex where
  now := 0
  controlling := { connection := {
    role := .controlling, widths := .network, apci := {}, state := .connected, send := { k := 12 },
    receive := { w := 8 }, handshake := none, receiptDue := none, testDue := some 20000,
    testDeadline := none } }
  controlled := { connection := {
    role := .controlled, widths := .network, apci := {}, state := .connected, send := { k := 12 },
    receive := { w := 8 }, handshake := none, receiptDue := none, testDue := some 20000,
    testDeadline := none } }

/-- All that is under way to an end arrives, and the end reads a frame. -/
def hear (role : Role) : List Action := [.carry role 1000, .turn role .arrival none]

def tell (role : Role) (command : Connection.Command) : Action :=
  .turn role (.command command) none

/-- Data in both directions, a stop while data is under way, and another start. -/
def twoPeriods : List Action :=
  [tell .controlling (.startTransfer 0)] ++ hear .controlled ++ hear .controlling ++
    [tell .controlling (.send (reading 1) 1), tell .controlled (.send (reading 2) 2),
      tell .controlling (.stopTransfer 3), tell .controlled (.send (reading 3) 4)] ++
    hear .controlled ++ hear .controlling ++ hear .controlled ++ hear .controlling ++
    hear .controlling ++ hear .controlling ++
    [tell .controlling (.startTransfer 5)] ++ hear .controlled ++
    [tell .controlled (.send (reading 4) 6)] ++ hear .controlling ++ hear .controlling

def afterTwoPeriods : Duplex := (usual.run twoPeriods).getD usual

theorem delivery_twoPeriods :
    start {} {} .network 0 = .ok usual ∧ usual.run twoPeriods = some afterTwoPeriods ∧
      afterTwoPeriods.controlling.received = [reading 2, reading 3, reading 4] ∧
      ∀ role, (afterTwoPeriods.side role).received <+: (afterTwoPeriods.side role.other).accepted := by
  have hstart : start {} {} .network 0 = .ok usual := rfl
  have hfaithful : ∀ asdu ∈ twoPeriods.filterMap Action.asdu?, asdu.Faithful .network := by
    decide +kernel
  have hrun : usual.run twoPeriods = some afterTwoPeriods := by decide +kernel
  refine ⟨hstart, hrun, ?_, (delivery hstart hfaithful hrun).2.2⟩
  decide +kernel

end Telecontrol.Duplex
