import Telecontrol.Proofs.Connection.Proceeds

/-!
# Turns that end a connection

A turn that ends the connection puts out nothing but a refusal of the request that it was to serve.
If it was to begin a handshake, the request waits with the handshake until the connection is closed.
-/

namespace Telecontrol.Connection

open Telecontrol.Turn (done fail report answer)

/-- The request that an input asks to serve. -/
def Input.request? : Input → Option Nat
  | .command asked => asked.request?
  | _ => none

/-- A turn that ends the connection: what it puts out, and the connection that is left to be
closed. The request that the turn was to serve is refused, or waits for a confirmation. -/
inductive Fails (c : Connection) : Input → List (Output Apdu) → Connection → Prop
  | idle {input : Input} {c' : Connection} : input.request? = none →
      c'.handshake = c.handshake → Fails c input [] c'
  | refused {command : Command} {request : Nat} {c' : Connection} (fault : Fault) :
      command.request? = some request → c'.handshake = c.handshake →
      Fails c (.command command) [.answered request (.refused fault)] c'
  | waiting {command : Command} {request : Nat} {c' : Connection} {handshake : Handshake} :
      command.request? = some request → c.state = .connected ∨ c.state = .active →
      c'.handshake = some handshake → handshake.request = request →
      Fails c (.command command) [] c'

variable {m : Moment} {c c' : Connection} {input : Input} {a : Apdu} {reason : CloseReason}

lemma write_ends {octets : Octets} (hencode : a.encode c.widths = .ok octets)
    (h : (write m a c).ending = some reason) :
    m.writeFault ≠ none ∧ write m a c = fail reason c := by
  constructor
  · intro hm
    rw [write, hencode, Turn.write_sound c hm] at h
    exact absurd h.symm (Option.some_ne_none _)
  · obtain ⟨octets, -, -, heq⟩ | ⟨fault, heq⟩ := Turn.write_cases m a (a.encode c.widths) c
    · rw [write, heq] at h
      exact absurd h.symm (Option.some_ne_none _)
    · rw [write, heq] at h ⊢
      obtain rfl : CloseReason.ofFault fault = reason := by simpa [fail] using h
      rfl

/-- Nothing is put out, and a handshake goes on waiting. -/
def Idle (c : Connection) (t : Turn) : Prop := t.output = [] ∧ t.state.handshake = c.handshake

lemma sendReceipt_ends (h : (sendReceipt m c).ending = some reason) :
    m.writeFault ≠ none ∧ sendReceipt m c = fail reason c.acknowledged :=
  write_ends rfl h

lemma sendReceiptIfOwed_ends (h : (sendReceiptIfOwed m c).ending = some reason) :
    Idle c (sendReceiptIfOwed m c) := by
  unfold sendReceiptIfOwed at h ⊢
  split at h
  · next howed =>
    rw [if_pos howed, (sendReceipt_ends h).2]
    exact ⟨rfl, rfl⟩
  · exact nomatch h

lemma sendReceiptIfOwed_quiet (h : (sendReceiptIfOwed m c).ending = none)
    (hm : m.writeFault ≠ none) : sendReceiptIfOwed m c = done c := by
  unfold sendReceiptIfOwed at h ⊢
  split
  · next howed =>
    rw [if_pos howed] at h
    obtain ⟨octets, -, hsound, -⟩ | ⟨fault, heq⟩ := Turn.write_cases m
      (Apdu.sFrame c.receive.nextNumber) ((Apdu.sFrame c.receive.nextNumber).encode c.widths)
      c.acknowledged
    · exact absurd hsound hm
    · change (Turn.write _ _ _ c.acknowledged).ending = none at h
      rw [heq] at h
      exact nomatch h
  · rfl

lemma onData_ends {number acknowledgment : Nat} {asdu : Asdu}
    (h : (onData m number acknowledgment asdu c).ending = some reason) :
    Idle c (onData m number acknowledgment asdu c) := by
  revert h
  unfold onData
  split
  · dsimp only
    split
    · exact fun _ => ⟨rfl, onAcknowledgment_handshake acknowledgment c⟩
    · next due receive _ =>
      cases due with
      | false => exact fun h => nomatch h
      | true =>
        rw [if_pos rfl]
        intro h
        cases hreceipt : (sendReceipt m
            { c.onAcknowledgment acknowledgment with receive }).ending with
        | none =>
          rw [Turn.andThen_of_none hreceipt] at h
          exact nomatch h
        | some reason' =>
          rw [Turn.andThen_of_ending hreceipt, (sendReceipt_ends hreceipt).2]
          exact ⟨rfl, onAcknowledgment_handshake acknowledgment c⟩
  · exact fun _ => ⟨rfl, rfl⟩

lemma confirm_ends {confirmation : UFunction} {next : Connection → Turn}
    (hnext : (next c).ending = none)
    (h : ((write m (.uFrame confirmation) c).andThen next).ending = some reason) :
    m.writeFault ≠ none ∧ (write m (.uFrame confirmation) c).andThen next = fail reason c := by
  cases hwrite : (write m (.uFrame confirmation) c).ending with
  | some reason' =>
    rw [Turn.andThen_of_ending hwrite] at h ⊢
    exact write_ends rfl h
  | none =>
    obtain ⟨octets, heq⟩ := write_goesOn hwrite
    rw [heq, Turn.andThen_of_none rfl] at h
    exact nomatch hnext.symm.trans h

lemma onConfirmation_ending (function : UFunction) (c : Connection) :
    (onConfirmation function c).ending = none := by
  unfold onConfirmation
  split
  · rfl
  · split
    · split <;> rfl
    · rfl

lemma onUFunction_ends {function : UFunction}
    (h : (onUFunction m function c).ending = some reason) : Idle c (onUFunction m function c) := by
  revert h
  unfold onUFunction
  split
  · intro h
    rw [(write_ends rfl h).2]
    exact ⟨rfl, rfl⟩
  · split <;> exact fun h => nomatch h
  · intro h
    rw [(confirm_ends (by split <;> rfl) h).2]
    exact ⟨rfl, rfl⟩
  · intro h
    cases hreceipt : (sendReceiptIfOwed m c).ending with
    | some reason' =>
      rw [Turn.andThen_of_ending hreceipt]
      exact sendReceiptIfOwed_ends hreceipt
    | none =>
      have hlater := h
      rw [Turn.andThen_of_none hreceipt] at hlater
      have hm := (confirm_ends (by split <;> rfl) hlater).1
      rw [sendReceiptIfOwed_quiet hreceipt hm, Turn.done_andThen] at h ⊢
      rw [(confirm_ends (by split <;> rfl) h).2]
      exact ⟨rfl, rfl⟩
  · exact fun h => nomatch (onConfirmation_ending _ c).symm.trans h
  · exact fun h => nomatch (onConfirmation_ending _ c).symm.trans h
  · exact fun h => nomatch h

lemma onApdu_ends (h : (onApdu m a c).ending = some reason) : Idle c (onApdu m a c) := by
  have hheard {t : Turn} (h : Idle (heard m c) t) : Idle c t := ⟨h.1, h.2.trans heard_handshake⟩
  obtain ⟨apci, data⟩ := a
  unfold onApdu at h ⊢
  cases apci with
  | iFrame number acknowledgment =>
    cases data with
    | some asdu => exact hheard (onData_ends h)
    | none => exact hheard ⟨rfl, rfl⟩
  | sFrame number => exact nomatch h
  | uFrame function => exact hheard (onUFunction_ends h)

lemma Idle.fails {t : Turn} (h : Idle c t) (hrequest : input.request? = none) :
    Fails c input t.output t.state := by
  rw [h.1]
  exact .idle hrequest h.2

lemma startTransfer_ends {request : Nat} (h : (startTransfer m request c).ending = some reason) :
    Fails c (.command (.startTransfer request)) (startTransfer m request c).output
      (startTransfer m request c).state := by
  revert h
  unfold startTransfer
  split
  · exact fun h => absurd h.symm (Option.some_ne_none _)
  · exact fun h => absurd h.symm (Option.some_ne_none _)
  · next hrole hstate =>
    intro h
    rw [beginHandshake, (write_ends rfl h).2]
    exact .waiting rfl (.inl hstate) rfl rfl
  · exact fun h => absurd h.symm (Option.some_ne_none _)

lemma stopTransfer_ends {request : Nat} (h : (stopTransfer m request c).ending = some reason) :
    Fails c (.command (.stopTransfer request)) (stopTransfer m request c).output
      (stopTransfer m request c).state := by
  revert h
  unfold stopTransfer
  split
  · exact fun h => absurd h.symm (Option.some_ne_none _)
  · exact fun h => absurd h.symm (Option.some_ne_none _)
  · next hrole hstate =>
    intro h
    cases hreceipt : (sendReceiptIfOwed m c).ending with
    | some reason' =>
      obtain ⟨houtput, hhandshake⟩ := sendReceiptIfOwed_ends hreceipt
      have hrefused : (orRefuse request (sendReceiptIfOwed m c)).ending = some reason' := by
        simp only [orRefuse, hreceipt]
      rw [Turn.andThen_of_ending hrefused]
      simp only [orRefuse, hreceipt, houtput, List.nil_append]
      exact .refused _ rfl hhandshake
    | none =>
      have heq : orRefuse request (sendReceiptIfOwed m c) = sendReceiptIfOwed m c := by
        simp only [orRefuse, hreceipt]
      rw [heq] at h ⊢
      have hlater := h
      rw [Turn.andThen_of_none hreceipt] at hlater
      have hm := (write_ends rfl hlater).1
      rw [sendReceiptIfOwed_quiet hreceipt hm, Turn.done_andThen, beginHandshake] at h ⊢
      rw [(write_ends rfl h).2]
      exact .waiting rfl (.inr hstate) rfl rfl
  · exact fun h => absurd h.symm (Option.some_ne_none _)

lemma sendData_ends {asdu : Asdu} {request : Nat}
    (h : (sendData m asdu request c).ending = some reason) :
    Fails c (.command (.send asdu request)) (sendData m asdu request c).output
      (sendData m asdu request c).state := by
  revert h
  unfold sendData
  split
  · exact fun h => nomatch h
  · dsimp only
    split
    · exact fun h => nomatch h
    · exact fun _ => .refused _ rfl rfl

theorem step_fails (h : (c.step m input).ending = some reason) :
    Fails c input (c.step m input).output (c.step m input).state := by
  have hfail (reason : CloseReason) : Idle c (fail reason c) := ⟨rfl, rfl⟩
  cases input with
  | arrival arrival =>
    cases arrival with
    | frame a => exact (onApdu_ends h).fails rfl
    | fault f => exact (hfail _).fails rfl
    | ended => exact (hfail _).fails rfl
  | command command =>
    cases command with
    | startTransfer request => exact startTransfer_ends h
    | stopTransfer request => exact stopTransfer_ends h
    | send asdu request => exact sendData_ends h
    | close => exact (hfail _).fails rfl
  | timer timer =>
    cases timer with
    | receipt =>
      change Fails c _ (sendReceipt m c).output (sendReceipt m c).state
      rw [(sendReceipt_ends h).2]
      exact .idle rfl rfl
    | silence =>
      change Fails c _ (write m _ _).output (write m _ _).state
      rw [(write_ends rfl h).2]
      exact .idle rfl rfl
    | acknowledgment => exact (hfail _).fails rfl
    | confirmation => exact (hfail _).fails rfl
    | test => exact (hfail _).fails rfl
  | abandoned => exact (hfail _).fails rfl

end Telecontrol.Connection
