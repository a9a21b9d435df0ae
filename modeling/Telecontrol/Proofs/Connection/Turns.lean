import Telecontrol.Proofs.Apci.Window
import Telecontrol.Proofs.Connection.Transfer
import Telecontrol.Proofs.Fallible
import Telecontrol.Proofs.Output

/-!
# Turns of a connection as moves

A turn either ends the connection, and then nothing of it is seen outside, or it goes on and is a
chain of moves. A turn can fail halfway only when the line fails, and a line that fails fails at the
first write.
-/

namespace Telecontrol

/-- The other end is to blame: it has sent something that may not be sent. -/
def CloseReason.Blames : CloseReason → Prop
  | framing _ | protocol _ => True
  | _ => False

namespace Connection

open Telecontrol.Turn (done fail report answer)

/-- The turn goes on: it reads the given frames, hands out what they carry, and sends the given
data. -/
structure Performs (c : Connection) (read : List Apdu) (sent : List Asdu) (t : Turn) : Prop where
  ending : t.ending = none
  role : t.state.role = c.role
  widths : t.state.widths = c.widths
  moves : Transfer.Moves c.role c.transfer read t.state.transfer t.frames
  encoded : ∀ frame octets, .wrote frame octets ∈ t.output → frame.encode c.widths = .ok octets
  asdus : t.asdus = Apdu.data read
  sent : Apdu.data t.frames = sent

/-- The turn ends the connection. Nothing is written, handed out or granted, and nobody is blamed. -/
def Ends (t : Turn) : Prop :=
  (∃ reason, t.ending = some reason ∧ ¬reason.Blames) ∧
    ∀ output ∈ t.output, ∃ request fault, output = .answered request (.refused fault)

variable {c c' : Connection} {read read' : List Apdu} {sent sent' : List Asdu} {t : Turn}
  {m : Moment} {text : String}

lemma Performs.andThen {next : Connection → Turn} (h : Performs c read sent t)
    (h' : Performs t.state read' sent' (next t.state)) :
    Performs c (read ++ read') (sent ++ sent') (t.andThen next) := by
  have heq : t.andThen next =
      ⟨(next t.state).state, t.output ++ (next t.state).output, (next t.state).ending⟩ := by
    simp only [Turn.andThen, h.ending]
  have hframes : (t.andThen next).frames = t.frames ++ (next t.state).frames := by
    rw [heq, Turn.frames, List.filterMap_append]
    rfl
  have hdata : Apdu.data (t.frames ++ (next t.state).frames) = sent ++ sent' := by
    rw [Apdu.data, List.filterMap_append, ← h.sent, ← h'.sent]
    rfl
  refine ⟨?_, ?_, ?_, ?_, ?_, ?_, ?_⟩
  · rw [heq]
    exact h'.ending
  · rw [heq]
    exact h'.role.trans h.role
  · rw [heq]
    exact h'.widths.trans h.widths
  · rw [hframes, heq]
    have hmoves := h'.moves
    rw [h.role] at hmoves
    exact h.moves.append hmoves
  · intro frame octets hmem
    rw [heq, List.mem_append] at hmem
    obtain hmem | hmem := hmem
    · exact h.encoded frame octets hmem
    · rw [← h.widths]
      exact h'.encoded frame octets hmem
  · rw [heq, Turn.asdus, List.filterMap_append, Apdu.data, List.filterMap_append]
    change t.asdus ++ (next t.state).asdus = Apdu.data read ++ Apdu.data read'
    rw [h.asdus, h'.asdus]
  · rw [hframes, hdata]

lemma Ends.andThen {next : Connection → Turn} (h : Ends t) : Ends (t.andThen next) := by
  obtain ⟨⟨reason, hending, hblames⟩, houtput⟩ := h
  have heq : t.andThen next = t := by simp only [Turn.andThen, hending]
  rw [heq]
  exact ⟨⟨reason, hending, hblames⟩, houtput⟩

lemma ends_fail {reason : CloseReason} (h : ¬reason.Blames) : Ends (fail reason c) :=
  ⟨⟨reason, rfl, h⟩, by simp [fail]⟩

lemma performs_answer (request : Nat) (a : Answer) (c : Connection) :
    Performs c [] [] (answer request a c) where
  ending := rfl
  role := rfl
  widths := rfl
  moves := .none c.transfer
  encoded := by simp [answer]
  asdus := rfl
  sent := rfl

lemma performs_read (hrole : c'.role = c.role) (hwidths : c'.widths = c.widths)
    (hread : Apdu.data read = []) (hmove : Transfer.Move c.role c.transfer read c'.transfer []) :
    Performs c read [] (done c') where
  ending := rfl
  role := hrole
  widths := hwidths
  moves := hmove.only
  encoded := by simp [done]
  asdus := hread.symm
  sent := rfl

lemma Performs.report {event : Event} (h : Performs c read sent (done c'))
    (hevent : (Output.reported event : Output Apdu).asdu? = none) :
    Performs c read sent (Turn.report event c') where
  ending := rfl
  role := h.role
  widths := h.widths
  moves := h.moves
  encoded := by simp [Turn.report]
  asdus := by
    rw [← h.asdus]
    exact List.filterMap_cons_none hevent
  sent := h.sent

lemma performs_write {frame : Apdu} {octets : Octets} (hm : m.writeFault = none)
    (hencode : frame.encode c'.widths = .ok octets) (hrole : c'.role = c.role)
    (hwidths : c'.widths = c.widths) (hread : Apdu.data read = [])
    (hsent : Apdu.data [frame] = sent)
    (hmove : Transfer.Move c.role c.transfer read c'.transfer [frame]) :
    Performs c read sent (write m frame c') := by
  have heq : write m frame c' = ⟨c', [.wrote frame octets], none⟩ := by
    rw [write, hencode, Turn.write_sound c' hm]
  rw [heq]
  refine ⟨rfl, hrole, hwidths, hmove.only, ?_, hread.symm, hsent⟩
  intro frame' octets' hmem
  obtain ⟨rfl, rfl⟩ : frame' = frame ∧ octets' = octets := by simpa using hmem
  rw [← hwidths]
  exact hencode

lemma ends_write {frame : Apdu} {octets : Octets} (hm : m.writeFault ≠ none)
    (hencode : frame.encode c.widths = .ok octets) : Ends (write m frame c) := by
  obtain ⟨text, htext⟩ := Option.ne_none_iff_exists'.1 hm
  rw [write, hencode, Turn.write_broken c htext]
  exact ends_fail (by simp [CloseReason.Blames])

/-- What becomes of a turn: it goes on, or the line fails and it ends the connection. -/
def Outcome (m : Moment) (c : Connection) (read : List Apdu) (sent : List Asdu) (t : Turn) :
    Prop :=
  Performs c read sent t ∨ m.writeFault ≠ none ∧ Ends t

lemma write_outcome {frame : Apdu} {octets : Octets}
    (hencode : frame.encode c'.widths = .ok octets) (hrole : c'.role = c.role)
    (hwidths : c'.widths = c.widths) (hread : Apdu.data read = [])
    (hsent : Apdu.data [frame] = sent)
    (hmove : Transfer.Move c.role c.transfer read c'.transfer [frame]) :
    Outcome m c read sent (write m frame c') := by
  by_cases hm : m.writeFault = none
  · exact .inl (performs_write hm hencode hrole hwidths hread hsent hmove)
  · exact .inr ⟨hm, ends_write hm hencode⟩

/-! ### Receipts -/

lemma sendReceipt_outcome (m : Moment) (hstate : c.role = .controlling → c.state ≠ .startPending) :
    Outcome m c [] [] (sendReceipt m c) :=
  write_outcome rfl rfl rfl rfl rfl (.receipt c.transfer hstate)

lemma sendReceipt_sound (hm : m.writeFault = none) :
    sendReceipt m c = ⟨{ c with receiptDue := none, receive := c.receive.acknowledgeAll },
      [.wrote (.sFrame c.receive.nextNumber) ((Apci.sFrame c.receive.nextNumber).header 0)],
      none⟩ := by
  rw [sendReceipt, write, show (Apdu.sFrame _).encode _ = .ok _ from rfl, Turn.write_sound _ hm]
  rfl

lemma receiptIfOwed_outcome {next : Connection → Turn}
    (hstate : c.role = .controlling → c.state ≠ .startPending)
    (hsound : m.writeFault = none → ∀ c', c'.role = c.role → c'.state = c.state →
      Performs c' read sent (next c'))
    (hbroken : m.writeFault ≠ none → Ends (next c)) :
    Outcome m c read sent ((sendReceiptIfOwed m c).andThen next) := by
  unfold sendReceiptIfOwed
  by_cases hm : m.writeFault = none
  · left
    split
    · have hreceipt : Performs c [] [] (sendReceipt m c) :=
        performs_write hm rfl rfl rfl rfl rfl (.receipt c.transfer hstate)
      refine hreceipt.andThen (hsound hm _ hreceipt.role ?_)
      rw [sendReceipt_sound hm]
    · rw [Turn.done_andThen]
      exact hsound hm c rfl rfl
  · refine .inr ⟨hm, ?_⟩
    split
    · exact Ends.andThen (ends_write hm rfl)
    · rw [Turn.done_andThen]
      exact hbroken hm

/-! ### Functions -/

lemma performs_confirm {confirmation function : UFunction} {next : Connection → Turn}
    (hm : m.writeFault = none) (hrole : c'.role = c.role) (hwidths : c'.widths = c.widths)
    (hnext : next c = done c' ∨
      ∃ event, (Output.reported event : Output Apdu).asdu? = none ∧ next c = report event c')
    (hmove : Transfer.Move c.role c.transfer [.uFrame function] c'.transfer
      [.uFrame confirmation]) :
    Performs c [.uFrame function] [] ((write m (.uFrame confirmation) c).andThen next) := by
  have heq : write m (.uFrame confirmation) c =
      ⟨c, [.wrote (.uFrame confirmation) ((Apci.uFrame confirmation).header 0)], none⟩ := by
    rw [write, show (Apdu.uFrame confirmation).encode _ = .ok _ from rfl, Turn.write_sound c hm]
    rfl
  rw [heq]
  obtain hdone | ⟨event, hevent, hreport⟩ := hnext
  · simp only [Turn.andThen, hdone]
    refine ⟨rfl, hrole, hwidths, hmove.only, ?_, rfl, rfl⟩
    intro frame octets hmem
    obtain ⟨rfl, rfl⟩ := by simpa [done] using hmem
    rfl
  · simp only [Turn.andThen, hreport]
    refine ⟨rfl, hrole, hwidths, hmove.only, ?_, ?_, rfl⟩
    · intro frame octets hmem
      obtain ⟨rfl, rfl⟩ := by simpa [report] using hmem
      rfl
    · exact List.filterMap_cons_none hevent

lemma onConfirmation_performs {function : UFunction} (hrole : c.role = .controlling)
    (hfunction : function ∈ [.startDtCon, .stopDtCon]) :
    Performs c [.uFrame function] [] (onConfirmation function c) := by
  have hignored (hawaiting : c.transfer.awaiting ≠ some function) :
      Transfer.Move c.role c.transfer [.uFrame function] c.transfer [] :=
    .passOver (.inr (.inr (.inr ⟨hrole, hfunction, hawaiting⟩)))
  unfold onConfirmation
  split
  · next hhandshake =>
    exact performs_read rfl rfl rfl (hignored (by simp [transfer, hhandshake]))
  · next handshake hhandshake =>
    split
    · next hawaiting =>
      have hexpected : c.transfer.awaiting = some function := by
        simp [transfer, hhandshake, hawaiting]
      have hanswer (c₁ : Connection) := performs_answer handshake.request .done c₁
      obtain rfl | rfl : function = .startDtCon ∨ function = .stopDtCon := by
        simpa using hfunction
      · dsimp only
        rw [if_pos rfl]
        have hstarted : Performs c [.uFrame .startDtCon] [] (activate { c with handshake := none }) :=
          Performs.report (performs_read rfl rfl rfl (.started hrole hexpected)) rfl
        exact hstarted.andThen (hanswer _)
      · dsimp only
        rw [if_neg (by decide)]
        have hstopped : Performs c [.uFrame .stopDtCon] [] (stop { c with handshake := none }) :=
          Performs.report (performs_read rfl rfl rfl (.stopped hrole hexpected)) rfl
        exact hstopped.andThen (hanswer _)
    · next hawaiting =>
      exact performs_read rfl rfl rfl (hignored (by simpa [transfer, hhandshake] using hawaiting))

lemma ends_confirm {confirmation : UFunction} {next : Connection → Turn}
    (hm : m.writeFault ≠ none) : Ends ((write m (.uFrame confirmation) c).andThen next) :=
  Ends.andThen (ends_write hm rfl)

lemma onStartDtAct_outcome (m : Moment) (hrole : c.role = .controlled) :
    Outcome m c [.uFrame .startDtAct] [] ((write m (.uFrame .startDtCon) c).andThen fun c =>
      if c.state = .active then done c else activate c) := by
  by_cases hm : m.writeFault = none
  · left
    by_cases hstate : c.state = .active
    · have hnext : (if c.state = .active then done c else activate c) = done c := if_pos hstate
      exact performs_confirm hm rfl rfl (.inl hnext) (.startAgain hrole hstate)
    · have hnext : (if c.state = .active then done c else activate c) = activate c := if_neg hstate
      refine performs_confirm hm ?_ ?_ (.inr ⟨.ready, rfl, hnext⟩) (.start hrole hstate)
      · rfl
      · rfl
  · exact .inr ⟨hm, ends_confirm hm⟩

lemma onStopDtAct_performs (hm : m.writeFault = none) (hrole : c.role = .controlled) :
    Performs c [.uFrame .stopDtAct] [] ((write m (.uFrame .stopDtCon) c).andThen fun c =>
      if c.state = .active then stop c else done c) := by
  by_cases hstate : c.state = .active
  · have hnext : (if c.state = .active then stop c else done c) = stop c := if_pos hstate
    refine performs_confirm hm ?_ ?_ (.inr ⟨.transferStopped, rfl, hnext⟩) (.stop hrole hstate)
    · rfl
    · rfl
  · have hnext : (if c.state = .active then stop c else done c) = done c := if_neg hstate
    exact performs_confirm hm rfl rfl (.inl hnext) (.stopAgain hrole hstate)

lemma onUFunction_outcome (m : Moment) (function : UFunction) (c : Connection) :
    Outcome m c [.uFrame function] [] (onUFunction m function c) := by
  have hmove := @Transfer.Move.passOver c.role c.transfer function
  unfold onUFunction
  split
  · exact write_outcome rfl rfl rfl rfl rfl (.answerTest c.transfer)
  · split
    · exact .inl (performs_read rfl rfl rfl (hmove (.inl rfl)))
    · exact .inl (performs_read rfl rfl rfl (hmove (.inl rfl)))
  · next hrole => exact onStartDtAct_outcome m hrole
  · next hrole =>
    refine receiptIfOwed_outcome (by simp [hrole]) ?_ ends_confirm
    intro hm c' hrole' _
    exact onStopDtAct_performs hm (hrole'.trans hrole)
  · next hrole => exact .inl (onConfirmation_performs hrole (by simp))
  · next hrole => exact .inl (onConfirmation_performs hrole (by simp))
  · next function _ _ htestAct htestCon hstart hstop hstartCon hstopCon =>
    refine .inl (performs_read rfl rfl rfl (hmove ?_))
    cases hrole : c.role <;> cases function <;> simp_all

/-! ### Data -/

lemma transfer_onAcknowledgment (number : Nat) (c : Connection) :
    (c.onAcknowledgment number).transfer = c.transfer.heed number := by
  cases h : c.send.acknowledge number with
  | none => simp [onAcknowledgment, Transfer.heed, transfer, h]
  | some found => simp [onAcknowledgment, Transfer.heed, transfer, h]

lemma onAcknowledgment_eq (number : Nat) (c : Connection) :
    c.onAcknowledgment number = { c with send := (c.onAcknowledgment number).send } := by
  unfold onAcknowledgment
  split <;> rfl

lemma onData_outcome (m : Moment) (acknowledged : Nat) (asdu : Asdu)
    (hstate : c.state = .active ∨ c.state = .stopping) :
    Outcome m c [.iFrame c.receive.nextNumber acknowledged asdu] []
      (onData m c.receive.nextNumber acknowledged asdu c) := by
  obtain ⟨due, receive, haccept⟩ := ReceiveWindow.accept_next c.receive
  have hrest := onAcknowledgment_eq acknowledged c
  have hheed := transfer_onAcknowledgment acknowledged c
  unfold onData
  rw [if_pos hstate]
  dsimp only
  generalize c.onAcknowledgment acknowledged = c₁ at hrest hheed ⊢
  have hreceive : c₁.receive = c.receive := by rw [hrest]
  have hrole : c₁.role = c.role := by rw [hrest]
  have hwidths : c₁.widths = c.widths := by rw [hrest]
  have hpending : c₁.role = .controlling → c₁.state ≠ .startPending := by
    rw [hrest]
    rcases hstate with h | h <;> simp [h]
  have hmove : Transfer.Move c.role c.transfer [.iFrame c.receive.nextNumber acknowledged asdu]
      { c₁ with receive }.transfer [] := by
    have h : Transfer.Move c.role c.transfer _ { c.transfer.heed acknowledged with receive } [] :=
      .accept acknowledged asdu hstate haccept
    rw [← hheed] at h
    exact h
  rw [hreceive, haccept]
  dsimp only
  cases due with
  | false =>
    left
    refine ⟨rfl, hrole, hwidths, hmove.only, ?_, rfl, rfl⟩
    simp [done, report, Turn.andThen]
  | true =>
    rw [if_pos rfl]
    by_cases hm : m.writeFault = none
    · left
      rw [sendReceipt_sound hm]
      have hreceipt : Transfer.Move c.role { c₁ with receive }.transfer [] _ _ :=
        .receipt _ fun h => hpending (hrole.trans h)
      refine ⟨rfl, hrole, hwidths, hmove.only.append hreceipt.only, ?_, rfl, rfl⟩
      intro frame octets hmem
      obtain ⟨rfl, rfl⟩ := by simpa [report, Turn.andThen] using hmem
      rfl
    · exact .inr ⟨hm, Ends.andThen (ends_write hm rfl)⟩

/-! ### Commands -/

lemma startTransfer_outcome (m : Moment) (request : Nat) (c : Connection) :
    Outcome m c [] [] (startTransfer m request c) := by
  unfold startTransfer
  split
  · exact .inl (performs_answer ..)
  · exact .inl (performs_answer ..)
  · next hrole hstate => exact write_outcome rfl rfl rfl rfl rfl (.askStart hrole hstate)
  · exact .inl (performs_answer ..)

lemma Outcome.orRefuse {next : Connection → Turn} (request : Nat)
    (h : Outcome m c read sent (t.andThen next)) :
    Outcome m c read sent ((orRefuse request t).andThen next) := by
  cases hending : t.ending with
  | none =>
    have heq : Connection.orRefuse request t = t := by simp only [Connection.orRefuse, hending]
    rwa [heq]
  | some reason =>
    have heq : t.andThen next = t := by simp only [Turn.andThen, hending]
    rw [heq] at h
    obtain hperforms | ⟨hm, ⟨reason', hreason, hblames⟩, houtput⟩ := h
    · exact absurd (hending.symm.trans hperforms.ending) (by simp)
    · refine .inr ⟨hm, Ends.andThen ⟨⟨reason', ?_, hblames⟩, ?_⟩⟩
      · simp only [Connection.orRefuse, hending, ← hreason]
      · intro output hmem
        simp only [Connection.orRefuse, hending, List.mem_append, List.mem_singleton] at hmem
        obtain hmem | rfl := hmem
        · exact houtput output hmem
        · exact ⟨request, _, rfl⟩

lemma stopTransfer_outcome (m : Moment) (request : Nat) (c : Connection) :
    Outcome m c [] [] (stopTransfer m request c) := by
  unfold stopTransfer
  split
  · exact .inl (performs_answer ..)
  · exact .inl (performs_answer ..)
  · next hrole hstate =>
    apply Outcome.orRefuse
    refine receiptIfOwed_outcome (by simp [hstate]) ?_ (fun hm => ends_write hm rfl)
    intro hm c' hrole' hstate'
    exact performs_write hm rfl rfl rfl rfl rfl
      (.askStop (hrole'.trans hrole) (hstate'.trans hstate))
  · exact .inl (performs_answer ..)

lemma encode_of_checkSendable {asdu : Asdu} (h : checkSendable asdu c = .ok ()) :
    c.state = .active ∧ ∀ send receive, ∃ octets,
      (Apdu.iFrame send receive asdu).encode c.widths = .ok octets := by
  unfold checkSendable at h
  dsimp only at h
  by_cases hstate : c.state = .active
  · rw [if_neg (Decidable.not_not.2 hstate)] at h
    obtain ⟨⟨⟩, hvalid, h⟩ := bind_eq_ok h
    by_cases hlong : Apci.maxAsduLength < asdu.encodedLength c.widths
    · rw [if_pos hlong] at h
      exact nomatch h
    · refine ⟨hstate, fun send receive => ?_⟩
      simp [Apdu.encode, Apdu.iFrame, Apci.isIFrame, hlong, Asdu.encode, hvalid]
  · rw [if_pos hstate] at h
    exact nomatch h

/-- The turn grants a request. -/
def Grants (request : Nat) (t : Turn) : Prop := .answered request .done ∈ t.output
deriving Decidable

lemma sendData_cases (m : Moment) (asdu : Asdu) (request : Nat) (c : Connection) :
    (Performs c [] [asdu] (sendData m asdu request c) ∧
        Grants request (sendData m asdu request c)) ∨
      (Performs c [] [] (sendData m asdu request c) ∧
        ¬Grants request (sendData m asdu request c)) ∨
      m.writeFault ≠ none ∧ Ends (sendData m asdu request c) := by
  unfold sendData
  split
  · exact .inr (.inl ⟨performs_answer .., by simp [Grants, answer]⟩)
  · next number send hready =>
    obtain ⟨⟨⟩, hsendable, hreserve⟩ := bind_eq_ok hready
    obtain ⟨hstate, hencode⟩ := encode_of_checkSendable hsendable
    obtain ⟨octets, hoctets⟩ := hencode number c.receive.acknowledgeAll.nextNumber
    dsimp only
    rw [hoctets]
    by_cases hm : m.writeFault = none
    · left
      have hsound : m.transmit (.ok octets) = .ok octets := by
        simp [Moment.transmit, hm, bind, Except.bind, pure, Except.pure]
      rw [hsound]
      refine ⟨⟨rfl, rfl, rfl, (Transfer.Move.send asdu hstate hreserve).only, ?_, rfl, rfl⟩,
        by simp [Grants]⟩
      intro frame octets' hmem
      obtain ⟨rfl, rfl⟩ := by simpa using hmem
      exact hoctets
    · refine .inr (.inr ⟨hm, ?_⟩)
      obtain ⟨text, htext⟩ := Option.ne_none_iff_exists'.1 hm
      have hbroken : m.transmit (.ok octets) = .error (.io text) := by
        simp [Moment.transmit, htext, bind, Except.bind, throw, throwThe, MonadExceptOf.throw]
      rw [hbroken]
      exact ⟨⟨_, rfl, by simp [CloseReason.ofFault, CloseReason.Blames]⟩, by simp⟩

lemma Ends.not_grants {request : Nat} (h : Ends t) : ¬Grants request t := by
  intro hgrants
  obtain ⟨request', fault, heq⟩ := h.2 _ hgrants
  simp at heq

/-! ### Inputs -/

/-- The frames that an input hands over. -/
def Input.frames : Input → List Apdu
  | .arrival (.frame a) => [a]
  | _ => []

/-- The data that a turn for an input accepts for sending. -/
def Input.accepted (input : Input) (t : Turn) : List Asdu :=
  match input with
  | .command (.send asdu request) => if Grants request t then [asdu] else []
  | _ => []

/-- The other end keeps to the rules: data comes when and with the number it may. -/
def Input.Proper (c : Connection) : Input → Prop
  | .arrival (.frame a) =>
    (∃ function, a = .uFrame function) ∨ (∃ number, a = .sFrame number) ∨
      ∃ number asdu, a = .iFrame c.receive.nextNumber number asdu ∧
        (c.state = .active ∨ c.state = .stopping)
  | .arrival (.fault f) => ∃ text, f = .io text
  | _ => True

lemma Ends.silent (h : Ends t) :
    t.octets = [] ∧ t.asdus = [] ∧ ∀ input : Input, input.accepted t = [] := by
  refine ⟨?_, ?_, ?_⟩
  · rw [Turn.octets, List.flatMap_eq_nil_iff]
    intro output hmem
    obtain ⟨request, fault, rfl⟩ := h.2 output hmem
    rfl
  · rw [Turn.asdus, List.filterMap_eq_nil_iff]
    intro output hmem
    obtain ⟨request, fault, rfl⟩ := h.2 output hmem
    rfl
  · intro input
    unfold Input.accepted
    split
    · exact if_neg h.not_grants
    · rfl

/-- A receipt falls due while the start of data transfer waits for its confirmation. -/
def Input.Late (c : Connection) (input : Input) : Prop :=
  input = .timer .receipt ∧ c.role = .controlling ∧ c.state = .startPending

lemma Outcome.of_transfer {c₁ : Connection} (h : Outcome m c₁ read sent t)
    (hrole : c₁.role = c.role) (hwidths : c₁.widths = c.widths)
    (htransfer : c₁.transfer = c.transfer) : Outcome m c read sent t := by
  refine h.imp_left fun hperforms => ?_
  obtain ⟨hending, hrole', hwidths', hmoves, hencoded, hasdus, hsent⟩ := hperforms
  rw [hrole] at hrole' hmoves
  rw [hwidths] at hwidths' hencoded
  rw [htransfer] at hmoves
  exact ⟨hending, hrole', hwidths', hmoves, hencoded, hasdus, hsent⟩

lemma onApdu_outcome (m : Moment) {a : Apdu} (h : Input.Proper c (.arrival (.frame a))) :
    Outcome m c [a] [] (onApdu m a c) := by
  have hheard : (heard m c).role = c.role ∧ (heard m c).widths = c.widths ∧
      (heard m c).transfer = c.transfer ∧ (heard m c).receive = c.receive ∧
      (heard m c).state = c.state := by
    unfold heard
    split <;> exact ⟨rfl, rfl, rfl, rfl, rfl⟩
  unfold onApdu
  dsimp only
  generalize heard m c = c₁ at hheard ⊢
  obtain ⟨hrole, hwidths, htransfer, hreceive, hstate⟩ := hheard
  apply Outcome.of_transfer _ hrole hwidths htransfer
  obtain ⟨function, rfl⟩ | ⟨number, rfl⟩ | ⟨number, asdu, rfl, hactive⟩ := h
  · exact onUFunction_outcome m function c₁
  · have heq := onAcknowledgment_eq number c₁
    have hmove : Transfer.Move c₁.role c₁.transfer [.sFrame number] (c₁.transfer.heed number) [] :=
      .heed c₁.transfer number
    rw [← transfer_onAcknowledgment] at hmove
    refine .inl (performs_read ?_ ?_ rfl hmove)
    · rw [heq]
    · rw [heq]
  · rw [← hreceive]
    rw [← hstate] at hactive
    exact onData_outcome m number asdu hactive

theorem step_frame {m : Moment} {a : Apdu} (hm : m.writeFault = none)
    (hproper : Input.Proper c (.arrival (.frame a))) :
    Performs c [a] [] (c.step m (.arrival (.frame a))) := by
  obtain hperforms | ⟨hbroken, -⟩ := onApdu_outcome m hproper
  · exact hperforms
  · exact absurd hm hbroken

/-- Every turn goes on as a chain of moves or ends the connection without a trace, as long as the
other end keeps to the rules. -/
theorem step_outcome (m : Moment) {input : Input} (hproper : input.Proper c)
    (hlate : ¬input.Late c) :
    Performs c input.frames (input.accepted (c.step m input)) (c.step m input) ∨
      Ends (c.step m input) := by
  have hof {read : List Apdu} {sent : List Asdu} {t : Turn} (h : Outcome m c read sent t) :
      Performs c read sent t ∨ Ends t := h.imp_right And.right
  have hfail {reason : CloseReason} (h : ¬reason.Blames) :
      Performs c [] [] (fail reason c) ∨ Ends (fail reason c) := .inr (ends_fail h)
  cases input with
  | arrival arrival =>
    cases arrival with
    | frame a => exact hof (onApdu_outcome m hproper)
    | fault f =>
      obtain ⟨text, rfl⟩ := hproper
      exact hfail id
    | ended => exact hfail id
  | command command =>
    cases command with
    | startTransfer request => exact hof (startTransfer_outcome m request c)
    | stopTransfer request => exact hof (stopTransfer_outcome m request c)
    | close => exact hfail id
    | send asdu request =>
      obtain ⟨hperforms, hgrants⟩ | ⟨hperforms, hgrants⟩ | ⟨-, hends⟩ :=
        sendData_cases m asdu request c
      · left
        change Performs c [] (if Grants request (sendData m asdu request c) then _ else _) _
        rw [if_pos hgrants]
        exact hperforms
      · left
        change Performs c [] (if Grants request (sendData m asdu request c) then _ else _) _
        rw [if_neg hgrants]
        exact hperforms
      · exact .inr hends
  | timer timer =>
    cases timer with
    | acknowledgment => exact hfail id
    | confirmation => exact hfail id
    | test => exact hfail id
    | receipt => exact hof (sendReceipt_outcome m fun hrole hstate => hlate ⟨rfl, hrole, hstate⟩)
    | silence => exact hof (write_outcome rfl rfl rfl rfl rfl (.probe c.transfer))
  | abandoned => exact hfail id

end Connection

end Telecontrol
