import Telecontrol.Connection.Step
import Telecontrol.Proofs.Apci.Window

/-!
# Moves of data transfer

What a connection does to its state of data transfer, without its times and its requests. A turn
that goes on is a chain of moves, each of which reads at most one frame and writes at most one
frame; `Connection.step_performs` shows which. The rest of the theory speaks about moves.
-/

namespace Telecontrol

/-- What decides about data transfer. -/
structure Transfer where
  state : TransferState
  send : SendWindow
  receive : ReceiveWindow
  awaiting : Option UFunction
deriving DecidableEq, Repr

def Connection.transfer (c : Connection) : Transfer where
  state := c.state
  send := c.send
  receive := c.receive
  awaiting := c.handshake.map Handshake.awaiting

namespace Apdu

/-- The ASDUs that frames carry. -/
def data (frames : List Apdu) : List Asdu := frames.filterMap asdu

@[simp] lemma data_nil : data [] = [] := rfl

@[simp] lemma data_append (frames more : List Apdu) :
    data (frames ++ more) = data frames ++ data more :=
  List.filterMap_append

@[simp] lemma data_iFrame (send receive : Nat) (asdu : Asdu) (frames : List Apdu) :
    data (.iFrame send receive asdu :: frames) = asdu :: data frames := rfl

@[simp] lemma data_sFrame (receive : Nat) (frames : List Apdu) :
    data (.sFrame receive :: frames) = data frames := rfl

@[simp] lemma data_uFrame (function : UFunction) (frames : List Apdu) :
    data (.uFrame function :: frames) = data frames := rfl

end Apdu

namespace Transfer

/-- An acknowledgment outside the window is not heeded. -/
def heed (number : Nat) (t : Transfer) : Transfer :=
  match t.send.acknowledge number with
  | some (_, send) => { t with send }
  | none => t

def acknowledgeAll (t : Transfer) : Transfer := { t with receive := t.receive.acknowledgeAll }

/-- Both numberings begin anew. -/
def restart (t : Transfer) : Transfer :=
  { t with send := t.send.reset, receive := t.receive.reset, state := .active }

/-- One move, with the frames that it reads and writes. -/
inductive Move (role : Role) : Transfer → List Apdu → Transfer → List Apdu → Prop
  /-- Silence calls for a test frame. -/
  | probe (t : Transfer) : Move role t [] t [.uFrame .testFrAct]
  | receipt (t : Transfer) : (role = .controlling → t.state ≠ .startPending) →
      Move role t [] t.acknowledgeAll [.sFrame t.receive.nextNumber]
  | send {t : Transfer} {now number : Nat} {send : SendWindow} (asdu : Asdu) :
      t.state = .active → t.send.reserve now = .ok (number, send) →
      Move role t [] { t.acknowledgeAll with send } [.iFrame number t.receive.nextNumber asdu]
  | askStart {t : Transfer} : role = .controlling → t.state = .connected →
      Move role t [] { t with state := .startPending, awaiting := some .startDtCon }
        [.uFrame .startDtAct]
  | askStop {t : Transfer} : role = .controlling → t.state = .active →
      Move role t [] { t with state := .stopping, awaiting := some .stopDtCon }
        [.uFrame .stopDtAct]
  | answerTest (t : Transfer) : Move role t [.uFrame .testFrAct] t [.uFrame .testFrCon]
  | passOver {t : Transfer} {function : UFunction} :
      function = .testFrCon ∨ role = .controlled ∧ function ∈ [.startDtCon, .stopDtCon] ∨
        role = .controlling ∧ function ∈ [.startDtAct, .stopDtAct] ∨
        role = .controlling ∧ function ∈ [.startDtCon, .stopDtCon] ∧
          t.awaiting ≠ some function →
      Move role t [.uFrame function] t []
  | heed (t : Transfer) (number : Nat) : Move role t [.sFrame number] (t.heed number) []
  | accept {t : Transfer} {number : Nat} {due : Bool} {receive : ReceiveWindow}
      (acknowledged : Nat) (asdu : Asdu) : t.state = .active ∨ t.state = .stopping →
      t.receive.accept number = .ok (due, receive) →
      Move role t [.iFrame number acknowledged asdu] { t.heed acknowledged with receive } []
  | started {t : Transfer} : role = .controlling → t.awaiting = some .startDtCon →
      Move role t [.uFrame .startDtCon] { t.restart with awaiting := none } []
  | stopped {t : Transfer} : role = .controlling → t.awaiting = some .stopDtCon →
      Move role t [.uFrame .stopDtCon] { t with state := .connected, awaiting := none } []
  | start {t : Transfer} : role = .controlled → t.state ≠ .active →
      Move role t [.uFrame .startDtAct] t.restart [.uFrame .startDtCon]
  | startAgain {t : Transfer} : role = .controlled → t.state = .active →
      Move role t [.uFrame .startDtAct] t [.uFrame .startDtCon]
  | stop {t : Transfer} : role = .controlled → t.state = .active →
      Move role t [.uFrame .stopDtAct] { t with state := .connected } [.uFrame .stopDtCon]
  | stopAgain {t : Transfer} : role = .controlled → t.state ≠ .active →
      Move role t [.uFrame .stopDtAct] t [.uFrame .stopDtCon]

/-- A chain of moves. -/
inductive Moves (role : Role) : Transfer → List Apdu → Transfer → List Apdu → Prop
  | none (t : Transfer) : Moves role t [] t []
  | more {t t' t'' : Transfer} {read read' written written' : List Apdu} :
      Move role t read t' written → Moves role t' read' t'' written' →
      Moves role t (read ++ read') t'' (written ++ written')

variable {role : Role} {t t' t'' : Transfer} {read read' written written' : List Apdu}

lemma Move.only (h : Move role t read t' written) : Moves role t read t' written := by
  have hmore := Moves.more h (.none t')
  rwa [List.append_nil, List.append_nil] at hmore

lemma Moves.append (h : Moves role t read t' written) (h' : Moves role t' read' t'' written') :
    Moves role t (read ++ read') t'' (written ++ written') := by
  induction h with
  | none t => exact h'
  | more hmove _ ih =>
    rw [List.append_assoc, List.append_assoc]
    exact .more hmove (ih h')

lemma heed_eq (number : Nat) (t : Transfer) :
    t.heed number = { t with send := (t.heed number).send } := by
  unfold heed
  split <;> rfl

@[simp] lemma heed_state (number : Nat) (t : Transfer) : (t.heed number).state = t.state := by
  rw [heed_eq]

@[simp] lemma heed_awaiting (number : Nat) (t : Transfer) :
    (t.heed number).awaiting = t.awaiting := by
  rw [heed_eq]

@[simp] lemma heed_receive (number : Nat) (t : Transfer) :
    (t.heed number).receive = t.receive := by
  rw [heed_eq]

lemma heed_unacked_le (number : Nat) (t : Transfer) :
    (t.heed number).send.unacked ≤ t.send.unacked := by
  unfold heed
  split
  · next acked send hack =>
    have hcount := (SendWindow.acknowledge_eq_some hack).2.2
    dsimp only
    omega
  · exact Nat.le_refl _

lemma Move.unacked_le (h : Move role t read t' written) :
    t'.send.unacked ≤ t.send.unacked + (Apdu.data written).length := by
  cases h with
  | send asdu _ hreserve =>
    have hcount := (SendWindow.reserve_eq_ok hreserve).2.2.2.2
    exact Nat.le_of_eq hcount
  | heed number => exact heed_unacked_le number t
  | accept acknowledged => exact heed_unacked_le acknowledged t
  | start => exact Nat.zero_le _
  | started => exact Nat.zero_le _
  | _ => exact Nat.le_add_right _ _

lemma Moves.unacked_le (h : Moves role t read t' written) :
    t'.send.unacked ≤ t.send.unacked + (Apdu.data written).length := by
  induction h with
  | none t => exact Nat.le_add_right _ _
  | more hmove _ ih =>
    have hfirst := hmove.unacked_le
    rw [Apdu.data_append, List.length_append]
    omega

end Transfer

end Telecontrol
