import Telecontrol.Proofs.Connection.Turns

/-!
# Turns that go on

Each turn either goes on or ends the connection. `Proceeds` lists the turns that go on, with all
that they put out and with the connection that they leave, and `step_proceeds` says that there are
no others, whatever the other end sends and whether the line works or not.
-/

namespace Telecontrol

/-- What the acceptance of a frame makes of the window. -/
def ReceiveWindow.taken (r : ReceiveWindow) : ReceiveWindow :=
  { r with nextNumber := Sequence.next r.nextNumber, unacked := r.unacked + 1 }

namespace Connection

open Telecontrol.Turn (done fail report answer)

/-- Everything received counts as acknowledged. -/
def acknowledged (c : Connection) : Connection :=
  { c with receiptDue := none, receive := c.receive.acknowledgeAll }

/-- Both numberings begin anew. -/
def restarted (c : Connection) : Connection :=
  { c with
    send := c.send.reset, receive := c.receive.reset, receiptDue := none, state := .active }

/-- Data may arrive. -/
def InTransfer (c : Connection) : Prop := c.state = .active ∨ c.state = .stopping
deriving Decidable

/-- A receipt is put out if one is owed. -/
inductive Settles (c : Connection) : List (Output Apdu) → Connection → Prop
  | nothing : c.receive.unacked = 0 → Settles c [] c
  | receipt {octets : Octets} : 0 < c.receive.unacked →
      Settles c [.wrote (.sFrame c.receive.nextNumber) octets] c.acknowledged

/-- The function of a U-frame that a connection does not heed. -/
inductive Unheeded (c : Connection) : UFunction → Prop
  | untested : c.testDeadline = none → Unheeded c .testFrCon
  | unasked {function : UFunction} : function ∈ [.startDtCon, .stopDtCon] →
      (c.role = .controlling → c.handshake.map Handshake.awaiting ≠ some function) →
      Unheeded c function
  | misdirected {function : UFunction} : function ∈ [.startDtAct, .stopDtAct] →
      c.role = .controlling → Unheeded c function

/-- A turn that goes on: what it is about, what it puts out, and the connection that it leaves. -/
inductive Proceeds (m : Moment) (c : Connection) : Input → List (Output Apdu) → Connection → Prop
  | heed {a : Apdu} {number : Nat} : a.apci = .sFrame number →
      Proceeds m c (.arrival (.frame a)) [] ((heard m c).onAcknowledgment number)
  /-- Data is accepted, and its receipt has time. -/
  | accept (number : Nat) {asdu : Asdu} : c.InTransfer → c.receive.unacked + 1 < c.receive.w →
      Proceeds m c (.arrival (.frame (.iFrame c.receive.nextNumber number asdu)))
        [.reported (.asduReceived asdu)]
        { (heard m c).onAcknowledgment number with
          receive := c.receive.taken
          receiptDue := c.receiptDue.or (some (m.now + c.apci.t2)) }
  /-- Data is accepted, and its receipt is due. -/
  | confirm (number : Nat) {asdu : Asdu} {octets : Octets} : c.InTransfer →
      c.receive.w ≤ c.receive.unacked + 1 →
      Proceeds m c (.arrival (.frame (.iFrame c.receive.nextNumber number asdu)))
        [.wrote (.sFrame (Sequence.next c.receive.nextNumber)) octets,
          .reported (.asduReceived asdu)]
        (acknowledged { (heard m c).onAcknowledgment number with receive := c.receive.taken })
  | answerTest {a : Apdu} {octets : Octets} : a.apci = .uFrame .testFrAct →
      Proceeds m c (.arrival (.frame a)) [.wrote (.uFrame .testFrCon) octets] (heard m c)
  /-- The test frame is answered. -/
  | tested {a : Apdu} : a.apci = .uFrame .testFrCon → c.testDeadline ≠ none →
      Proceeds m c (.arrival (.frame a)) []
        { c with testDeadline := none, testDue := some (m.now + c.apci.t3) }
  | passOver {a : Apdu} {function : UFunction} : a.apci = .uFrame function →
      c.Unheeded function → Proceeds m c (.arrival (.frame a)) [] (heard m c)
  /-- The other end starts data transfer. -/
  | start {a : Apdu} {octets : Octets} : a.apci = .uFrame .startDtAct → c.role = .controlled →
      c.state ≠ .active →
      Proceeds m c (.arrival (.frame a)) [.wrote (.uFrame .startDtCon) octets, .reported .ready]
        (heard m c).restarted
  | startAgain {a : Apdu} {octets : Octets} : a.apci = .uFrame .startDtAct →
      c.role = .controlled → c.state = .active →
      Proceeds m c (.arrival (.frame a)) [.wrote (.uFrame .startDtCon) octets] (heard m c)
  /-- The other end stops data transfer. -/
  | stop {a : Apdu} {receipt : List (Output Apdu)} {c' : Connection} {octets : Octets} :
      a.apci = .uFrame .stopDtAct → c.role = .controlled → c.state = .active →
      Settles (heard m c) receipt c' →
      Proceeds m c (.arrival (.frame a))
        (receipt ++ [.wrote (.uFrame .stopDtCon) octets, .reported .transferStopped])
        { c' with state := .connected }
  | stopAgain {a : Apdu} {receipt : List (Output Apdu)} {c' : Connection} {octets : Octets} :
      a.apci = .uFrame .stopDtAct → c.role = .controlled → c.state ≠ .active →
      Settles (heard m c) receipt c' →
      Proceeds m c (.arrival (.frame a)) (receipt ++ [.wrote (.uFrame .stopDtCon) octets]) c'
  /-- The start that was asked for is confirmed. -/
  | started {a : Apdu} {handshake : Handshake} : a.apci = .uFrame .startDtCon →
      c.role = .controlling → c.handshake = some handshake → handshake.awaiting = .startDtCon →
      Proceeds m c (.arrival (.frame a))
        [.reported .ready, .answered handshake.request .done]
        { (heard m c).restarted with handshake := none }
  /-- The stop that was asked for is confirmed. -/
  | stopped {a : Apdu} {handshake : Handshake} : a.apci = .uFrame .stopDtCon →
      c.role = .controlling → c.handshake = some handshake → handshake.awaiting = .stopDtCon →
      Proceeds m c (.arrival (.frame a))
        [.reported .transferStopped, .answered handshake.request .done]
        { heard m c with state := .connected, handshake := none }
  | refuse {command : Command} {request : Nat} (fault : Fault) :
      command.request? = some request →
      Proceeds m c (.command command) [.answered request (.refused fault)] c
  | alreadyActive {request : Nat} : c.role = .controlling → c.state = .active →
      Proceeds m c (.command (.startTransfer request)) [.answered request .done] c
  | alreadyStopped {request : Nat} : c.role = .controlling → c.state = .connected →
      Proceeds m c (.command (.stopTransfer request)) [.answered request .done] c
  | askStart {request : Nat} {octets : Octets} : c.role = .controlling → c.state = .connected →
      Proceeds m c (.command (.startTransfer request)) [.wrote (.uFrame .startDtAct) octets]
        { c with
          state := .startPending
          handshake := some ⟨.startDtCon, m.now + c.apci.t1, request⟩ }
  | askStop {request : Nat} {receipt : List (Output Apdu)} {c' : Connection} {octets : Octets} :
      c.role = .controlling → c.state = .active → Settles c receipt c' →
      Proceeds m c (.command (.stopTransfer request))
        (receipt ++ [.wrote (.uFrame .stopDtAct) octets])
        { c' with
          state := .stopping
          handshake := some ⟨.stopDtCon, m.now + c'.apci.t1, request⟩ }
  | send {asdu : Asdu} {request number : Nat} {send : SendWindow} {octets : Octets} :
      c.state = .active → c.send.reserve m.now = .ok (number, send) →
      Proceeds m c (.command (.send asdu request))
        [.wrote (.iFrame number c.receive.nextNumber asdu) octets, .answered request .done]
        { c.acknowledged with send }
  | receipt {octets : Octets} :
      Proceeds m c (.timer .receipt) [.wrote (.sFrame c.receive.nextNumber) octets] c.acknowledged
  /-- Silence calls for a test frame. -/
  | probe {octets : Octets} :
      Proceeds m c (.timer .silence) [.wrote (.uFrame .testFrAct) octets]
        { c with testDue := none, testDeadline := some (m.now + c.apci.t1) }

variable {m : Moment} {c c' : Connection} {input : Input} {a : Apdu} {receipt : List (Output Apdu)}

lemma Settles.state (h : Settles c receipt c') : c'.state = c.state := by
  cases h <;> rfl

lemma Settles.role (h : Settles c receipt c') : c'.role = c.role := by
  cases h <;> rfl

lemma Settles.apci (h : Settles c receipt c') : c'.apci = c.apci := by
  cases h <;> rfl

lemma Settles.handshake (h : Settles c receipt c') : c'.handshake = c.handshake := by
  cases h <;> rfl

lemma Settles.testDue (h : Settles c receipt c') : c'.testDue = c.testDue := by
  cases h <;> rfl

lemma Settles.testDeadline (h : Settles c receipt c') : c'.testDeadline = c.testDeadline := by
  cases h <;> rfl

@[simp] lemma heard_role : (heard m c).role = c.role := by unfold heard; split <;> rfl

@[simp] lemma heard_apci : (heard m c).apci = c.apci := by unfold heard; split <;> rfl

@[simp] lemma heard_state : (heard m c).state = c.state := by unfold heard; split <;> rfl

@[simp] lemma heard_send : (heard m c).send = c.send := by unfold heard; split <;> rfl

@[simp] lemma heard_receive : (heard m c).receive = c.receive := by unfold heard; split <;> rfl

@[simp] lemma heard_handshake : (heard m c).handshake = c.handshake := by
  unfold heard; split <;> rfl

@[simp] lemma heard_receiptDue : (heard m c).receiptDue = c.receiptDue := by
  unfold heard; split <;> rfl

@[simp] lemma heard_testDeadline : (heard m c).testDeadline = c.testDeadline := by
  unfold heard; split <;> rfl

/-! An acknowledgment changes only what is outstanding. -/

@[simp] lemma onAcknowledgment_role (number : Nat) (c : Connection) :
    (c.onAcknowledgment number).role = c.role := by
  rw [onAcknowledgment_eq]

@[simp] lemma onAcknowledgment_apci (number : Nat) (c : Connection) :
    (c.onAcknowledgment number).apci = c.apci := by
  rw [onAcknowledgment_eq]

@[simp] lemma onAcknowledgment_state (number : Nat) (c : Connection) :
    (c.onAcknowledgment number).state = c.state := by
  rw [onAcknowledgment_eq]

@[simp] lemma onAcknowledgment_receive (number : Nat) (c : Connection) :
    (c.onAcknowledgment number).receive = c.receive := by
  rw [onAcknowledgment_eq]

@[simp] lemma onAcknowledgment_handshake (number : Nat) (c : Connection) :
    (c.onAcknowledgment number).handshake = c.handshake := by
  rw [onAcknowledgment_eq]

@[simp] lemma onAcknowledgment_receiptDue (number : Nat) (c : Connection) :
    (c.onAcknowledgment number).receiptDue = c.receiptDue := by
  rw [onAcknowledgment_eq]

@[simp] lemma onAcknowledgment_testDue (number : Nat) (c : Connection) :
    (c.onAcknowledgment number).testDue = c.testDue := by
  rw [onAcknowledgment_eq]

@[simp] lemma onAcknowledgment_testDeadline (number : Nat) (c : Connection) :
    (c.onAcknowledgment number).testDeadline = c.testDeadline := by
  rw [onAcknowledgment_eq]

/-! ### Writes -/

lemma write_goesOn (h : (write m a c).ending = none) :
    ∃ octets, write m a c = ⟨c, [.wrote a octets], none⟩ := by
  obtain ⟨octets, -, -, heq⟩ | ⟨fault, heq⟩ := Turn.write_cases m a (a.encode c.widths) c
  · exact ⟨octets, heq⟩
  · rw [write, heq] at h
    exact absurd h (Option.some_ne_none _)

lemma sendReceipt_goesOn (h : (sendReceipt m c).ending = none) :
    ∃ octets, sendReceipt m c =
      ⟨c.acknowledged, [.wrote (.sFrame c.receive.nextNumber) octets], none⟩ :=
  write_goesOn h

lemma sendReceiptIfOwed_goesOn (h : (sendReceiptIfOwed m c).ending = none) :
    Settles c (sendReceiptIfOwed m c).output (sendReceiptIfOwed m c).state := by
  unfold sendReceiptIfOwed at h ⊢
  split
  · next howed =>
    rw [if_pos howed] at h
    obtain ⟨octets, heq⟩ := sendReceipt_goesOn h
    rw [heq]
    exact .receipt howed
  · next howed => exact .nothing (by omega)

/-! ### Frames -/

lemma onData_goesOn {number acknowledgment : Nat} {asdu : Asdu}
    (h : (onData m number acknowledgment asdu (heard m c)).ending = none) :
    Proceeds m c (.arrival (.frame (.iFrame number acknowledgment asdu)))
      (onData m number acknowledgment asdu (heard m c)).output
      (onData m number acknowledgment asdu (heard m c)).state := by
  have hheeded := onAcknowledgment_eq acknowledgment (heard m c)
  generalize hc' : (heard m c).onAcknowledgment acknowledgment = c' at hheeded
  have hreceive : c'.receive = c.receive := by rw [hheeded]; exact heard_receive
  have hdue : c'.receiptDue.or (some (m.now + c'.apci.t2)) =
      c.receiptDue.or (some (m.now + c.apci.t2)) := by
    rw [hheeded]
    simp
  unfold onData at h ⊢
  by_cases hstate : c.InTransfer
  · rw [if_pos (by simpa [InTransfer] using hstate)] at h ⊢
    dsimp only at h ⊢
    rw [hc', hreceive] at h ⊢
    by_cases hnumber : number = c.receive.nextNumber
    · subst hnumber
      by_cases hfull : c.receive.w ≤ c.receive.unacked + 1
      · have haccept : c.receive.accept c.receive.nextNumber = .ok (true, c.receive.taken) := by
          simp [ReceiveWindow.accept, ReceiveWindow.taken, hfull]
        rw [haccept] at h ⊢
        dsimp only at h ⊢
        rw [if_pos rfl] at h ⊢
        obtain ⟨octets, heq⟩ := sendReceipt_goesOn (Turn.ending_of_andThen h).1
        rw [heq, Turn.andThen_of_none rfl, ← hc']
        exact .confirm acknowledgment hstate hfull
      · have haccept : c.receive.accept c.receive.nextNumber = .ok (false, c.receive.taken) := by
          simp [ReceiveWindow.accept, ReceiveWindow.taken, hfull]
        rw [haccept] at h ⊢
        dsimp only at h ⊢
        rw [if_neg (by decide), Turn.done_andThen, hdue, ← hc']
        exact .accept acknowledgment hstate (by omega)
    · have haccept : c.receive.accept number =
          .error (.protocol (.sendSequence number c.receive.nextNumber)) := by
        simp [ReceiveWindow.accept, hnumber]
      rw [haccept] at h
      exact absurd h (Option.some_ne_none _)
  · rw [if_neg (by simpa [InTransfer] using hstate)] at h
    exact absurd h (Option.some_ne_none _)

lemma onConfirmation_goesOn {function : UFunction} (hfunction : a.apci = .uFrame function)
    (hconfirms : function ∈ [.startDtCon, .stopDtCon]) (hrole : c.role = .controlling) :
    Proceeds m c (.arrival (.frame a)) (onConfirmation function (heard m c)).output
      (onConfirmation function (heard m c)).state := by
  unfold onConfirmation
  rw [heard_handshake]
  cases hhandshake : c.handshake with
  | none =>
    exact .passOver hfunction (.unasked hconfirms fun _ => by simp [hhandshake])
  | some handshake =>
    dsimp only
    by_cases hawaiting : handshake.awaiting = function
    · rw [if_pos hawaiting]
      obtain rfl | rfl : function = .startDtCon ∨ function = .stopDtCon := by
        simpa using hconfirms
      · exact .started hfunction hrole hhandshake hawaiting
      · exact .stopped hfunction hrole hhandshake hawaiting
    · rw [if_neg hawaiting]
      exact .passOver hfunction (.unasked hconfirms fun _ => by simpa [hhandshake] using hawaiting)

lemma onStopDtAct_goesOn (hfunction : a.apci = .uFrame .stopDtAct) (hrole : c.role = .controlled)
    {t : Turn} (ht : t = (sendReceiptIfOwed m (heard m c)).andThen fun c =>
      (write m (.uFrame .stopDtCon) c).andThen fun c =>
        if c.state = .active then stop c else done c)
    (h : t.ending = none) : Proceeds m c (.arrival (.frame a)) t.output t.state := by
  rw [ht] at h ⊢
  obtain ⟨hreceipt, hwrite⟩ := Turn.ending_of_andThen h
  have hsettles := sendReceiptIfOwed_goesOn hreceipt
  rw [Turn.andThen_of_none hreceipt]
  generalize (sendReceiptIfOwed m (heard m c)).output = receipt at hsettles ⊢
  generalize (sendReceiptIfOwed m (heard m c)).state = c' at hsettles hwrite ⊢
  obtain ⟨octets, hwrote⟩ := write_goesOn (Turn.ending_of_andThen hwrite).1
  dsimp only
  rw [hwrote, Turn.andThen_of_none rfl]
  dsimp only
  rw [hsettles.state, heard_state]
  by_cases hstate : c.state = .active
  · rw [if_pos hstate]
    exact .stop hfunction hrole hstate hsettles
  · rw [if_neg hstate]
    exact .stopAgain hfunction hrole hstate hsettles

lemma onUFunction_goesOn {function : UFunction} (hfunction : a.apci = .uFrame function)
    (h : (onUFunction m function (heard m c)).ending = none) :
    Proceeds m c (.arrival (.frame a)) (onUFunction m function (heard m c)).output
      (onUFunction m function (heard m c)).state := by
  revert h
  unfold onUFunction
  split
  · intro h
    obtain ⟨octets, heq⟩ := write_goesOn h
    rw [heq]
    exact .answerTest hfunction
  · intro _
    rw [heard_testDeadline]
    cases htest : c.testDeadline with
    | none => exact .passOver hfunction (.untested htest)
    | some deadline =>
      have hheard : heard m c = c := by simp [heard, htest]
      rw [hheard]
      exact .tested hfunction (by simp [htest])
  · next hrole =>
    intro h
    obtain ⟨octets, hwrite⟩ := write_goesOn (Turn.ending_of_andThen h).1
    rw [hwrite, Turn.andThen_of_none rfl]
    dsimp only
    rw [heard_state]
    by_cases hstate : c.state = .active
    · rw [if_pos hstate]
      exact .startAgain hfunction (heard_role.symm.trans hrole) hstate
    · rw [if_neg hstate]
      exact .start hfunction (heard_role.symm.trans hrole) hstate
  · next hrole => exact onStopDtAct_goesOn hfunction (heard_role.symm.trans hrole) rfl
  · next hrole =>
    exact fun _ => onConfirmation_goesOn hfunction (by simp) (heard_role.symm.trans hrole)
  · next hrole =>
    exact fun _ => onConfirmation_goesOn hfunction (by simp) (heard_role.symm.trans hrole)
  · next function _ _ htestAct htestCon hstart hstop hstartCon hstopCon =>
    refine fun _ => .passOver hfunction ?_
    rw [heard_role] at hstart hstop hstartCon hstopCon
    cases hrole : c.role with
    | controlling =>
      have hactivates : function ∈ [UFunction.startDtAct, .stopDtAct] := by
        cases function <;> simp_all
      exact .misdirected hactivates hrole
    | controlled =>
      have hconfirms : function ∈ [UFunction.startDtCon, .stopDtCon] := by
        cases function <;> simp_all
      exact .unasked hconfirms fun h => by simp [hrole] at h

lemma onApdu_goesOn (h : (onApdu m a c).ending = none) :
    Proceeds m c (.arrival (.frame a)) (onApdu m a c).output (onApdu m a c).state := by
  obtain ⟨apci, data⟩ := a
  unfold onApdu at h ⊢
  cases apci with
  | iFrame number acknowledgment =>
    cases data with
    | some asdu => exact onData_goesOn h
    | none => exact nomatch h
  | sFrame number => exact .heed rfl
  | uFrame function => exact onUFunction_goesOn rfl h

/-! ### Commands -/

lemma startTransfer_goesOn {request : Nat} (h : (startTransfer m request c).ending = none) :
    Proceeds m c (.command (.startTransfer request)) (startTransfer m request c).output
      (startTransfer m request c).state := by
  revert h
  unfold startTransfer
  split
  · exact fun _ => .refuse _ rfl
  · next hrole hstate => exact fun _ => .alreadyActive hrole hstate
  · next hrole hstate =>
    intro h
    obtain ⟨octets, heq⟩ := write_goesOn h
    rw [beginHandshake, heq]
    exact .askStart hrole hstate
  · exact fun _ => .refuse _ rfl

lemma orRefuse_goesOn {request : Nat} {t : Turn} (h : (orRefuse request t).ending = none) :
    t.ending = none ∧ orRefuse request t = t := by
  cases ht : t.ending with
  | none => exact ⟨rfl, by simp only [orRefuse, ht]⟩
  | some reason => simp [orRefuse, ht] at h

lemma stopTransfer_goesOn {request : Nat} (h : (stopTransfer m request c).ending = none) :
    Proceeds m c (.command (.stopTransfer request)) (stopTransfer m request c).output
      (stopTransfer m request c).state := by
  revert h
  unfold stopTransfer
  split
  · exact fun _ => .refuse _ rfl
  · next hrole hstate => exact fun _ => .alreadyStopped hrole hstate
  · next hrole hstate =>
    intro h
    obtain ⟨hreceipt, hwrite⟩ := Turn.ending_of_andThen h
    obtain ⟨hreceipt, heq⟩ := orRefuse_goesOn hreceipt
    have hsettles := sendReceiptIfOwed_goesOn hreceipt
    rw [heq] at hwrite ⊢
    rw [Turn.andThen_of_none hreceipt]
    generalize (sendReceiptIfOwed m c).output = receipt at hsettles ⊢
    generalize (sendReceiptIfOwed m c).state = c' at hsettles hwrite ⊢
    obtain ⟨octets, hwrote⟩ := write_goesOn hwrite
    rw [beginHandshake, hwrote]
    exact .askStop hrole hstate hsettles
  · exact fun _ => .refuse _ rfl

lemma sendData_goesOn {asdu : Asdu} {request : Nat}
    (h : (sendData m asdu request c).ending = none) :
    Proceeds m c (.command (.send asdu request)) (sendData m asdu request c).output
      (sendData m asdu request c).state := by
  revert h
  unfold sendData
  split
  · exact fun _ => .refuse _ rfl
  · next number send hready =>
    obtain ⟨⟨⟩, hsendable, hreserve⟩ := bind_eq_ok hready
    dsimp only
    split
    · exact fun _ => .send (encode_of_checkSendable hsendable).1 hreserve
    · exact fun h => nomatch h

/-- A turn that does not end the connection is one of those that are listed. -/
theorem step_proceeds (h : (c.step m input).ending = none) :
    Proceeds m c input (c.step m input).output (c.step m input).state := by
  cases input with
  | arrival arrival =>
    cases arrival with
    | frame a => exact onApdu_goesOn h
    | fault f => exact nomatch h
    | ended => exact nomatch h
  | command command =>
    cases command with
    | startTransfer request => exact startTransfer_goesOn h
    | stopTransfer request => exact stopTransfer_goesOn h
    | send asdu request => exact sendData_goesOn h
    | close => exact nomatch h
  | timer timer =>
    cases timer with
    | receipt =>
      obtain ⟨octets, heq⟩ := sendReceipt_goesOn h
      change Proceeds m c _ (sendReceipt m c).output (sendReceipt m c).state
      rw [heq]
      exact .receipt
    | silence =>
      obtain ⟨octets, heq⟩ := write_goesOn h
      change Proceeds m c _ (write m _ _).output (write m _ _).state
      rw [heq]
      exact .probe
    | acknowledgment => exact nomatch h
    | confirmation => exact nomatch h
    | test => exact nomatch h
  | abandoned => exact nomatch h

lemma Proceeds.role_apci {output : List (Output Apdu)} (h : Proceeds m c input output c') :
    c'.role = c.role ∧ c'.apci = c.apci := by
  have hheeded (number : Nat) : ((heard m c).onAcknowledgment number).role = c.role ∧
      ((heard m c).onAcknowledgment number).apci = c.apci :=
    ⟨(onAcknowledgment_role ..).trans heard_role, (onAcknowledgment_apci ..).trans heard_apci⟩
  cases h with
  | heed => exact hheeded _
  | accept number => exact hheeded number
  | confirm number => exact hheeded number
  | stop _ _ _ hsettles =>
    exact ⟨hsettles.role.trans heard_role, hsettles.apci.trans heard_apci⟩
  | stopAgain _ _ _ hsettles =>
    exact ⟨hsettles.role.trans heard_role, hsettles.apci.trans heard_apci⟩
  | askStop _ _ hsettles => exact ⟨hsettles.role, hsettles.apci⟩
  | answerTest | passOver | start | startAgain | started | stopped =>
    exact ⟨heard_role, heard_apci⟩
  | _ => exact ⟨rfl, rfl⟩

end Connection

end Telecontrol
