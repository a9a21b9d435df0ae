import Mathlib.Data.List.Induction
import Telecontrol.Proofs.Connection.Life

/-!
# Numbers of a data transfer period

A data transfer period begins when data transfer becomes active and lasts until it does so again.
Within a period, sent I-frames are numbered from zero, never more than `k` of them are outstanding,
and each I- and S-frame says how many I-frames have been accepted. What is handed out are the ASDUs
of the I-frames that arrive with the numbers from zero on; the first one that does not, or that
comes outside data transfer, ends the connection (`transfer_numbered`). The other end may send what
it likes, acknowledgments of frames never sent included.

A tally is kept of what is seen of the current period. Each thing that happens is one that the tally
allows, and the windows of the connection agree with the tally between turns.
-/

namespace Telecontrol.Connection

/-- What has been seen of the current data transfer period. -/
structure Tally where
  /-- The numbers of the I-frames that have been written. -/
  numbers : List Nat := []
  /-- How many of them are acknowledged. -/
  acknowledged : Nat := 0
  /-- What the I-frames carried that arrived in transfer with the numbers from zero on. -/
  accepted : List Asdu := []
  /-- An I-frame has arrived that is not one of those. -/
  refused : Bool := false
  handedOut : List Asdu := []
deriving DecidableEq

/-- A turn or a period begins. -/
def Happening.opens : Happening → Bool
  | .met _ _ => true
  | .put (.reported .ready) => true
  | _ => false

namespace Tally

/-- An acknowledgment holds if it lies between the oldest frame outstanding and the last one. -/
def heed (number : Nat) (t : Tally) : Tally :=
  let ahead := Sequence.distance t.acknowledged number
  if t.acknowledged + ahead ≤ t.numbers.length then
    { t with acknowledged := t.acknowledged + ahead }
  else t

/-- Data arrives. -/
def take (state : TransferState) (number : Nat) (asdu : Asdu) (t : Tally) : Tally :=
  if (state = .active ∨ state = .stopping) ∧ number = t.accepted.length % sequenceModulus then
    { t with accepted := t.accepted ++ [asdu] }
  else { t with refused := true }

def read (state : TransferState) (a : Apdu) (t : Tally) : Tally :=
  match a.apci, a.asdu with
  | .iFrame number acknowledgment, some asdu => (t.heed acknowledgment).take state number asdu
  | .sFrame acknowledgment, _ => t.heed acknowledgment
  | _, _ => t

def next (t : Tally) : Happening → Tally
  | .met state (.arrival (.frame a)) => t.read state a
  | .put (.wrote ⟨.iFrame number _, _⟩ _) => { t with numbers := t.numbers ++ [number] }
  | .put (.reported .ready) => {}
  | .put (.reported (.asduReceived asdu)) => { t with handedOut := t.handedOut ++ [asdu] }
  | _ => t

/-- A frame carries the next number if it is an I-frame, one more frame may be outstanding then,
and an acknowledgment is that of all data accepted. -/
def AllowsFrame (k : Nat) (t : Tally) : Apci → Prop
  | .iFrame number acknowledgment =>
    number = t.numbers.length % sequenceModulus ∧ t.numbers.length < t.acknowledged + k ∧
      acknowledgment = t.accepted.length % sequenceModulus
  | .sFrame acknowledgment => acknowledgment = t.accepted.length % sequenceModulus
  | .uFrame _ => True

/-- What may happen next. After an arrival that is refused nothing is written, and nothing is
reported but the end. -/
def Allows (k : Nat) (t : Tally) : Happening → Prop
  | .asked _ => True
  | .met _ _ => t.refused = false ∧ t.handedOut = t.accepted
  | .put (.wrote a _) => t.refused = false ∧ t.AllowsFrame k a.apci
  | .put (.reported .ready) => t.refused = false ∧ t.handedOut = t.accepted
  | .put (.reported (.asduReceived asdu)) =>
    t.refused = false ∧ t.accepted = t.handedOut ++ [asdu]
  | .put (.reported (.lost _)) => True
  | .put (.reported _) => t.refused = false
  | .put (.answered _ _) => True

end Tally

/-- Things that may happen one behind the other, and the tally that they lead to. -/
inductive Tally.Permits (k : Nat) : Tally → List Happening → Tally → Prop
  | nothing (t : Tally) : Permits k t [] t
  | next {t t' : Tally} {x : Happening} {rest : List Happening} : t.Allows k x →
      Permits k (t.next x) rest t' → Permits k t (x :: rest) t'

namespace Tally

variable {k : Nat} {t t' t'' : Tally} {happenings rest : List Happening}

lemma Permits.append (h : Permits k t happenings t') (h' : Permits k t' rest t'') :
    Permits k t (happenings ++ rest) t'' := by
  induction h with
  | nothing => exact h'
  | next hallows _ ih => exact .next hallows (ih h')

lemma Permits.silent (h : ∀ x ∈ happenings, t.Allows k x ∧ t.next x = t) :
    Permits k t happenings t := by
  induction happenings with
  | nil => exact .nothing t
  | cons x rest ih =>
    obtain ⟨⟨hallows, hsame⟩, hrest⟩ := List.forall_mem_cons.1 h
    refine .next hallows ?_
    rw [hsame]
    exact ih hrest

end Tally

/-- The tally of the period that a history has come to. -/
def History.tally (h : History) : Tally := h.foldl (fun t entry => t.next entry.2) {}

/-- Everything that happened is what the tally of its period allowed. -/
def History.Numbered (k : Nat) (h : History) : Prop :=
  h.Each fun before x => before.tally.Allows k x

lemma History.Numbered.note {h : History} {k : Nat} {happenings : List Happening} {t : Tally}
    (hh : h.Numbered k) (now : Nat) (hpermits : Tally.Permits k h.tally happenings t) :
    (h.note now happenings).Numbered k ∧ (h.note now happenings).tally = t := by
  generalize htally : h.tally = t₁ at hpermits
  induction hpermits generalizing h with
  | nothing => simpa [History.note] using ⟨hh, htally⟩
  | @next t₁ _ x _ hallows _ ih =>
    rw [History.note_cons]
    refine ih (Each.snoc hh (htally ▸ hallows)) ?_
    rw [← htally]
    simp [History.tally, History.note, List.foldl_append]

/-! ### Turns and the numbers they use -/

/-- An output that is no I-frame and says nothing about data, when `number` is expected next. -/
inductive Plain (number : Nat) : Output Apdu → Prop
  | function (function : UFunction) (octets : Octets) :
      Plain number (.wrote (.uFrame function) octets)
  | receipt (octets : Octets) : Plain number (.wrote (.sFrame number) octets)
  | stopped : Plain number (.reported .transferStopped)
  | answered (request : Nat) (answer : Answer) : Plain number (.answered request answer)

/-- An input that leaves a tally alone. -/
def Input.Plain (input : Input) : Prop :=
  ∀ (t : Tally) (state : TransferState), t.next (.met state input) = t

/-- What a turn has to do with numbers. -/
inductive Numbers (m : Moment) (c : Connection) : Input → List (Output Apdu) → Connection → Prop
  | none {input : Input} {output : List (Output Apdu)} {c' : Connection} : input.Plain →
      (∀ o ∈ output, Plain c.receive.nextNumber o) → c'.send = c.send →
      c'.receive.nextNumber = c.receive.nextNumber → Numbers m c input output c'
  | heed {a : Apdu} {number : Nat} {c' : Connection} : a.apci = .sFrame number →
      c'.send = (c.onAcknowledgment number).send → c'.receive = c.receive →
      Numbers m c (.arrival (.frame a)) [] c'
  | accept (number : Nat) (receipt : List (Output Apdu)) {asdu : Asdu} {c' : Connection} :
      c.InTransfer → (∀ o ∈ receipt, Plain c'.receive.nextNumber o) →
      c'.send = (c.onAcknowledgment number).send →
      c'.receive.nextNumber = Sequence.next c.receive.nextNumber →
      Numbers m c (.arrival (.frame (.iFrame c.receive.nextNumber number asdu)))
        (receipt ++ [.reported (.asduReceived asdu)]) c'
  | restart (before after : List (Output Apdu)) {input : Input} {c' : Connection} : input.Plain →
      (∀ o ∈ before, Plain c.receive.nextNumber o) → (∀ o ∈ after, Plain 0 o) →
      c'.send = c.send.reset → c'.receive.nextNumber = 0 →
      Numbers m c input (before ++ .reported .ready :: after) c'
  | send {asdu : Asdu} {request number : Nat} {octets : Octets} {c' : Connection} :
      c.send.reserve m.now = .ok (number, c'.send) →
      c'.receive.nextNumber = c.receive.nextNumber →
      Numbers m c (.command (.send asdu request))
        [.wrote (.iFrame number c.receive.nextNumber asdu) octets, .answered request .done] c'

variable {m : Moment} {c c' : Connection} {input : Input} {output : List (Output Apdu)}

lemma plain_function {a : Apdu} {function : UFunction} (h : a.apci = .uFrame function) :
    Input.Plain (.arrival (.frame a)) := by
  intro t state
  simp only [Tally.next, Tally.read, h]

lemma onAcknowledgment_heard (number : Nat) :
    ((heard m c).onAcknowledgment number).send = (c.onAcknowledgment number).send := by
  unfold onAcknowledgment
  rw [heard_send]
  cases c.send.acknowledge number with
  | none => exact heard_send
  | some _ => rfl

lemma plain_one {number : Nat} {o : Output Apdu} (h : Plain number o) :
    ∀ o' ∈ [o], Plain number o' :=
  List.forall_mem_singleton.2 h

lemma Settles.plain {receipt : List (Output Apdu)} (h : Settles c receipt c') :
    (∀ o ∈ receipt, Plain c.receive.nextNumber o) ∧ c'.send = c.send ∧
      c'.receive.nextNumber = c.receive.nextNumber := by
  cases h with
  | nothing => exact ⟨List.forall_mem_nil _, rfl, rfl⟩
  | receipt => exact ⟨plain_one (.receipt _), rfl, rfl⟩

lemma Settles.numbers {c₁ c₂ : Connection} {receipt rest : List (Output Apdu)}
    (h : Settles c₁ receipt c₂) (hinput : input.Plain) (hsend : c₁.send = c.send)
    (hreceive : c₁.receive = c.receive) (hsend' : c'.send = c₂.send)
    (hreceive' : c'.receive = c₂.receive) (hrest : ∀ o ∈ rest, Plain c.receive.nextNumber o) :
    Numbers m c input (receipt ++ rest) c' := by
  obtain ⟨hplain, hsame, hnext⟩ := h.plain
  rw [hreceive] at hplain hnext
  refine .none hinput ?_ (hsend'.trans (hsame.trans hsend)) (hreceive' ▸ hnext)
  exact List.forall_mem_append.2 ⟨hplain, hrest⟩

lemma Proceeds.numbers (h : Proceeds m c input output c') : Numbers m c input output c' := by
  have hnext : (heard m c).receive.nextNumber = c.receive.nextNumber := by rw [heard_receive]
  cases h with
  | heed hnumber =>
    refine .heed hnumber (onAcknowledgment_heard _) ?_
    rw [onAcknowledgment_eq]
    exact heard_receive
  | accept number hstate =>
    exact .accept number [] hstate (List.forall_mem_nil _) (onAcknowledgment_heard number) rfl
  | confirm number hstate =>
    exact .accept number [_] hstate (plain_one (.receipt _)) (onAcknowledgment_heard number) rfl
  | answerTest hapci =>
    exact .none (plain_function hapci) (plain_one (.function ..)) heard_send hnext
  | tested hapci => exact .none (plain_function hapci) (List.forall_mem_nil _) rfl rfl
  | passOver hapci =>
    exact .none (plain_function hapci) (List.forall_mem_nil _) heard_send hnext
  | start hapci =>
    exact .restart [_] [] (plain_function hapci) (plain_one (.function ..)) (List.forall_mem_nil _)
      (congrArg SendWindow.reset heard_send) rfl
  | started hapci =>
    exact .restart [] [_] (plain_function hapci) (List.forall_mem_nil _) (plain_one (.answered ..))
      (congrArg SendWindow.reset heard_send) rfl
  | startAgain hapci =>
    exact .none (plain_function hapci) (plain_one (.function ..)) heard_send hnext
  | stop hapci _ _ hsettles =>
    exact hsettles.numbers (plain_function hapci) heard_send heard_receive rfl rfl
      (List.forall_mem_cons.2 ⟨.function .., plain_one .stopped⟩)
  | stopAgain hapci _ _ hsettles =>
    exact hsettles.numbers (plain_function hapci) heard_send heard_receive rfl rfl
      (plain_one (.function ..))
  | stopped hapci =>
    exact .none (plain_function hapci) (List.forall_mem_cons.2 ⟨.stopped, plain_one (.answered ..)⟩)
      heard_send hnext
  | askStart => exact .none (fun _ _ => rfl) (plain_one (.function ..)) rfl rfl
  | askStop _ _ hsettles =>
    exact hsettles.numbers (fun _ _ => rfl) rfl rfl rfl rfl (plain_one (.function ..))
  | send hstate hreserve => exact .send hreserve rfl
  | receipt => exact .none (fun _ _ => rfl) (plain_one (.receipt _)) rfl rfl
  | probe => exact .none (fun _ _ => rfl) (plain_one (.function ..)) rfl rfl
  | refuse | alreadyActive | alreadyStopped =>
    exact .none (fun _ _ => rfl) (plain_one (.answered ..)) rfl rfl

/-! ### Windows and the tally -/

/-- The windows agree with what has been seen. -/
structure Agrees (k : Nat) (c : Connection) (t : Tally) : Prop where
  limit : c.send.k = k
  number : c.send.nextNumber = t.numbers.length % sequenceModulus
  outstanding : t.acknowledged + c.send.unacked = t.numbers.length
  few : c.send.unacked ≤ k
  expected : c.receive.nextNumber = t.accepted.length % sequenceModulus
  handed : t.handedOut = t.accepted
  clean : t.refused = false

section Tally

variable {k now : Nat} {t : Tally} {h : History}

lemma Tally.heed_cases (number : Nat) (t : Tally) :
    t.heed number = t ∨ ∃ count, t.acknowledged ≤ count ∧ count ≤ t.numbers.length ∧
      count % sequenceModulus = number % sequenceModulus ∧
      t.heed number = { t with acknowledged := count } := by
  unfold Tally.heed
  dsimp only
  split
  · next hwithin =>
    refine .inr ⟨_, Nat.le_add_right .., hwithin, ?_, rfl⟩
    unfold Sequence.distance sequenceModulus
    omega
  · exact .inl rfl

lemma Tally.heed_eq (number : Nat) (t : Tally) :
    t.heed number = { t with acknowledged := (t.heed number).acknowledged } := by
  obtain heq | ⟨count, -, -, -, heq⟩ := t.heed_cases number <;> rw [heq]

@[simp] lemma Tally.heed_numbers (number : Nat) (t : Tally) :
    (t.heed number).numbers = t.numbers := by
  rw [Tally.heed_eq]

@[simp] lemma Tally.heed_accepted (number : Nat) (t : Tally) :
    (t.heed number).accepted = t.accepted := by
  rw [Tally.heed_eq]

@[simp] lemma Tally.heed_handedOut (number : Nat) (t : Tally) :
    (t.heed number).handedOut = t.handedOut := by
  rw [Tally.heed_eq]

@[simp] lemma Tally.heed_refused (number : Nat) (t : Tally) :
    (t.heed number).refused = t.refused := by
  rw [Tally.heed_eq]

lemma Agrees.heed (hc : Agrees k c t) (number : Nat)
    (hsend : c'.send = (c.onAcknowledgment number).send)
    (hreceive : c'.receive.nextNumber = c.receive.nextNumber) : Agrees k c' (t.heed number) := by
  have hack := SendWindow.acknowledge_any hc.number hc.outstanding number
  have hheed : c'.send.k = k ∧ c'.send.nextNumber = c.send.nextNumber ∧
      (t.heed number).acknowledged + c'.send.unacked = t.numbers.length ∧
      c'.send.unacked ≤ c.send.unacked := by
    unfold Tally.heed
    unfold onAcknowledgment at hsend
    dsimp only
    split at hack
    · next hwithin =>
      rw [hack] at hsend
      obtain ⟨hlimit, hnext, hcount⟩ := SendWindow.acknowledge_eq_some hack
      rw [if_pos hwithin, hsend]
      have houtstanding := hc.outstanding
      dsimp only at hcount ⊢
      exact ⟨hlimit.trans hc.limit, hnext, by omega, by omega⟩
    · next hbeyond =>
      rw [hack] at hsend
      rw [if_neg hbeyond, hsend]
      exact ⟨hc.limit, rfl, hc.outstanding, Nat.le_refl _⟩
  obtain ⟨hlimit, hnext, hcount, hless⟩ := hheed
  exact {
    limit := hlimit
    number := by rw [hnext, Tally.heed_numbers, hc.number]
    outstanding := by rw [hcount, Tally.heed_numbers]
    few := Nat.le_trans hless hc.few
    expected := by rw [hreceive, Tally.heed_accepted, hc.expected]
    handed := by rw [Tally.heed_handedOut, Tally.heed_accepted, hc.handed]
    clean := by rw [Tally.heed_refused, hc.clean] }

lemma Plain.silent {number : Nat} {o : Output Apdu} (ho : Plain number o)
    (hnumber : number = t.accepted.length % sequenceModulus) (hclean : t.refused = false) :
    t.Allows k (.put o) ∧ t.next (.put o) = t := by
  cases ho with
  | function => exact ⟨⟨hclean, trivial⟩, rfl⟩
  | receipt => exact ⟨⟨hclean, hnumber⟩, rfl⟩
  | stopped => exact ⟨hclean, rfl⟩
  | answered => exact ⟨trivial, rfl⟩

lemma permits_plain {number : Nat} (houtput : ∀ o ∈ output, Plain number o)
    (hnumber : number = t.accepted.length % sequenceModulus) (hclean : t.refused = false) :
    Tally.Permits k t (output.map .put) t := by
  refine .silent ?_
  rw [List.forall_mem_map]
  exact fun o ho => (houtput o ho).silent hnumber hclean

lemma Agrees.accept {number : Nat} {asdu : Asdu} {receipt : List (Output Apdu)}
    (hc : Agrees k c t) (hstate : c.InTransfer)
    (hreceipt : ∀ o ∈ receipt, Plain c'.receive.nextNumber o)
    (hsend : c'.send = (c.onAcknowledgment number).send)
    (hnext : c'.receive.nextNumber = Sequence.next c.receive.nextNumber) :
    ∃ t', Tally.Permits k t (.met c.state (.arrival (.frame
        (.iFrame c.receive.nextNumber number asdu))) ::
          (receipt ++ [Output.reported (.asduReceived asdu)]).map .put) t' ∧ Agrees k c' t' := by
  have hheard : Agrees k { c' with receive := c.receive } (t.heed number) :=
    hc.heed number hsend rfl
  have htaken : t.next (.met c.state (.arrival (.frame
      (.iFrame c.receive.nextNumber number asdu)))) =
      { t.heed number with accepted := t.accepted ++ [asdu] } := by
    have hexpected := hheard.expected
    simp only [Tally.next, Tally.read, Apdu.iFrame, Tally.take]
    rw [if_pos ⟨hstate, hexpected⟩, Tally.heed_accepted]
  have hcount : c'.receive.nextNumber = (t.accepted ++ [asdu]).length % sequenceModulus := by
    rw [hnext, hc.expected, Sequence.next_mod, List.length_append]
    rfl
  refine ⟨{ t.heed number with
    accepted := t.accepted ++ [asdu], handedOut := t.accepted ++ [asdu] }, ?_, ?_⟩
  · refine .next ⟨hc.clean, hc.handed⟩ ?_
    rw [htaken, List.map_append]
    refine Tally.Permits.append (permits_plain hreceipt hcount hheard.clean) (.next ?_ ?_)
    · exact ⟨hheard.clean, by simp [hc.handed]⟩
    · simp only [Tally.next, Tally.heed_handedOut, hc.handed]
      exact .nothing _
  · exact {
      limit := hheard.limit
      number := hheard.number
      outstanding := hheard.outstanding
      few := hheard.few
      expected := hcount
      handed := rfl
      clean := hheard.clean }

lemma Agrees.restart (hc : Agrees k c t) (hsend : c'.send = c.send.reset)
    (hnext : c'.receive.nextNumber = 0) : Agrees k c' {} where
  limit := by rw [hsend]; exact hc.limit
  number := by rw [hsend]; rfl
  outstanding := by rw [hsend]; rfl
  few := by rw [hsend]; exact Nat.zero_le k
  expected := hnext
  handed := rfl
  clean := rfl

lemma Agrees.send {number : Nat} {asdu : Asdu} {octets : Octets} (hc : Agrees k c t)
    (hreserve : c.send.reserve now = .ok (number, c'.send))
    (hnext : c'.receive.nextNumber = c.receive.nextNumber) :
    t.Allows k (.put (.wrote (.iFrame number c.receive.nextNumber asdu) octets)) ∧
      Agrees k c' { t with numbers := t.numbers ++ [number] } := by
  obtain ⟨rfl, hroom, hlimit, hsent, hcount⟩ := SendWindow.reserve_eq_ok hreserve
  have houtstanding := hc.outstanding
  have hk := hc.limit
  refine ⟨⟨hc.clean, hc.number, by omega, hc.expected⟩, ?_⟩
  exact {
    limit := hlimit.trans hc.limit
    number := by rw [hsent, hc.number, Sequence.next_mod, List.length_append]; rfl
    outstanding := by rw [List.length_append, hcount]; dsimp only [List.length_singleton]; omega
    few := by omega
    expected := hnext.trans hc.expected
    handed := hc.handed
    clean := hc.clean }

/-- A turn that goes on does what the tally allows, and the windows agree with the tally again. -/
lemma Agrees.proceeds {fault : Option String} (hc : Agrees k c t)
    (hproceeds : Proceeds ⟨now, fault⟩ c input output c') :
    ∃ t', Tally.Permits k t (.met c.state input :: output.map .put) t' ∧ Agrees k c' t' := by
  have hmet : t.Allows k (.met c.state input) := ⟨hc.clean, hc.handed⟩
  cases hproceeds.numbers with
  | none hinput houtput hsend hnext =>
    refine ⟨t, .next hmet ?_, ⟨hsend ▸ hc.limit, hsend ▸ hc.number, hsend ▸ hc.outstanding,
      hsend ▸ hc.few, hnext ▸ hc.expected, hc.handed, hc.clean⟩⟩
    rw [hinput]
    exact permits_plain houtput hc.expected hc.clean
  | @heed a number _ hapci hsend hreceive =>
    refine ⟨t.heed number, .next hmet ?_, hc.heed _ hsend (by rw [hreceive])⟩
    simp only [Tally.next, Tally.read, hapci]
    exact .nothing _
  | accept number receipt hstate hreceipt hsend hnext =>
    exact hc.accept hstate hreceipt hsend hnext
  | restart before after hinput hbefore hafter hsend hnext =>
    refine ⟨{}, .next hmet ?_, hc.restart hsend hnext⟩
    rw [hinput, List.map_append, List.map_cons]
    refine (permits_plain hbefore hc.expected hc.clean).append (.next ⟨hc.clean, hc.handed⟩ ?_)
    exact permits_plain hafter rfl rfl
  | send hreserve hnext =>
    obtain ⟨hallows, hagrees⟩ := hc.send hreserve hnext
    exact ⟨_, .next hmet (.next hallows (.next trivial (.nothing _))), hagrees⟩

lemma step_data {number acknowledgment : Nat} {asdu : Asdu} {reason : CloseReason}
    (hm : m.writeFault = none)
    (h : (c.step m (.arrival (.frame (.iFrame number acknowledgment asdu)))).ending =
      some reason) :
    ¬(c.InTransfer ∧ number = c.receive.nextNumber) ∧ ∃ fault, reason = .protocol fault := by
  have hexpected : ¬(c.InTransfer ∧ number = c.receive.nextNumber) := by
    rintro ⟨hstate, rfl⟩
    have hproper : Input.Proper c
        (.arrival (.frame (.iFrame c.receive.nextNumber acknowledgment asdu))) :=
      .inr (.inr ⟨acknowledgment, asdu, rfl, hstate⟩)
    exact nomatch (step_frame hm hproper).ending.symm.trans h
  refine ⟨hexpected, ?_⟩
  change (onData m number acknowledgment asdu (heard m c)).ending = some reason at h
  unfold onData at h
  split at h
  · next hstate =>
    have hnumber : number ≠ c.receive.nextNumber := fun heq => by
      rw [heard_state] at hstate
      exact hexpected ⟨hstate, heq⟩
    have hreceive : ((heard m c).onAcknowledgment acknowledgment).receive = c.receive := by
      rw [onAcknowledgment_eq]
      exact heard_receive
    have hreject : c.receive.accept number =
        .error (.protocol (.sendSequence number c.receive.nextNumber)) := by
      simp [ReceiveWindow.accept, hnumber]
    dsimp only at h
    rw [hreceive, hreject] at h
    exact ⟨_, (Option.some.inj h).symm⟩
  · exact ⟨_, (Option.some.inj h).symm⟩

lemma Tally.read_cases (state : TransferState) (a : Apdu) (t : Tally) :
    (∃ number acknowledgment asdu, a = .iFrame number acknowledgment asdu) ∨
      (t.read state a).accepted = t.accepted ∧ (t.read state a).refused = t.refused ∧
        (t.read state a).handedOut = t.handedOut := by
  obtain ⟨apci, data⟩ := a
  cases apci with
  | iFrame number acknowledgment =>
    cases data with
    | some asdu => exact .inl ⟨number, acknowledgment, asdu, rfl⟩
    | none => exact .inr ⟨rfl, rfl, rfl⟩
  | sFrame number =>
    exact .inr ⟨Tally.heed_accepted .., Tally.heed_refused .., Tally.heed_handedOut ..⟩
  | uFrame function => exact .inr ⟨rfl, rfl, rfl⟩

lemma Agrees.fails {reason : CloseReason} (hc : Agrees k c t)
    (h : (c.step ⟨now, none⟩ input).ending = some reason) :
    (t.next (.met c.state input)).handedOut = (t.next (.met c.state input)).accepted ∧
      ((t.next (.met c.state input)).refused = true → ∃ fault, reason = .protocol fault) := by
  have hsame : t.handedOut = t.accepted ∧ (t.refused = true → ∃ fault, reason = .protocol fault) :=
    ⟨hc.handed, fun hrefused => nomatch hc.clean.symm.trans hrefused⟩
  cases input with
  | arrival arrival =>
    cases arrival with
    | frame a =>
      change (t.read c.state a).handedOut = (t.read c.state a).accepted ∧
        ((t.read c.state a).refused = true → ∃ fault, reason = .protocol fault)
      obtain ⟨number, acknowledgment, asdu, rfl⟩ | ⟨haccepted, hrefused, hhanded⟩ :=
        t.read_cases c.state a
      · obtain ⟨hunexpected, hreason⟩ := step_data rfl h
        have hread : t.read c.state (.iFrame number acknowledgment asdu) =
            { t.heed acknowledgment with refused := true } := by
          simp only [Tally.read, Apdu.iFrame, Tally.take]
          rw [if_neg]
          rintro ⟨hstate, hnumber⟩
          rw [Tally.heed_accepted, ← hc.expected] at hnumber
          exact hunexpected ⟨hstate, hnumber⟩
        rw [hread]
        exact ⟨by simpa using hc.handed, fun _ => hreason⟩
      · rw [haccepted, hrefused, hhanded]
        exact hsame
    | _ => exact hsame
  | _ => exact hsame

end Tally

namespace Life

variable {l l' : Life} {action : Action} {actions : List Action} {role : Role} {k begun : Nat}
  {apci : ApciParameters} {widths : FieldWidths}

/-- What has happened so far is what the numbering allows. -/
structure Numbered (k : Nat) (l : Life) : Prop where
  history : l.history.Numbered k
  handed : l.history.tally.handedOut = l.history.tally.accepted
  agrees : l.ending = none → Agrees k l.connection l.history.tally
  refused : l.history.tally.refused = true → ∃ fault, l.ending = some (.protocol fault)

lemma numbered_begin (hstart : Connection.start role apci widths begun = .ok c) :
    (begin begun c).Numbered apci.k := by
  obtain ⟨-, rfl⟩ := start_eq_ok hstart
  refine ⟨fun before entry after h => ?_, rfl, fun _ => ?_, fun h => nomatch h⟩
  · simp [begin] at h
  · exact ⟨rfl, rfl, rfl, Nat.zero_le _, rfl, rfl, rfl⟩

lemma Numbered.silent {happenings : List Happening} (hl : l.Numbered k) (mail : List Command)
    (hsilent : ∀ x ∈ happenings, l.history.tally.Allows k x ∧
      l.history.tally.next x = l.history.tally) :
    Numbered k { l with mail, history := l.history.note l.now happenings } := by
  obtain ⟨hnumbered, htally⟩ := hl.history.note l.now (Tally.Permits.silent hsilent)
  refine ⟨hnumbered, ?_, ?_, ?_⟩
  · rw [htally]
    exact hl.handed
  · rw [htally]
    exact hl.agrees
  · rw [htally]
    exact hl.refused

lemma Numbered.finish {mail : List Command} {reason : CloseReason} (hl : l.Numbered k)
    (hopen : l.ending = none) (hfails : Fails l.connection input output c)
    (hending : (l.connection.step ⟨l.now, none⟩ input).ending = some reason) :
    (l.finish input mail output c reason).Numbered k := by
  have hagrees := hl.agrees hopen
  obtain ⟨hhanded, hrefused⟩ := hagrees.fails hending
  have hpermits : Tally.Permits k l.history.tally
      (.met l.connection.state input :: (output ++ refusals mail ++ (c.close reason).2).map .put)
      (l.history.tally.next (.met l.connection.state input)) := by
    refine .next ⟨hagrees.clean, hagrees.handed⟩ (.silent ?_)
    rw [List.forall_mem_map]
    intro o hmem
    obtain ⟨request, fault, rfl⟩ | rfl := output_of_finish hfails mail reason o hmem
    · exact ⟨trivial, rfl⟩
    · exact ⟨trivial, rfl⟩
  obtain ⟨hnumbered, htally⟩ := hl.history.note l.now hpermits
  have htally' : (l.finish input mail output c reason).history.tally =
      l.history.tally.next (.met l.connection.state input) := htally
  refine ⟨hnumbered, ?_, (nomatch ·), fun h => ?_⟩
  · rw [htally']
    exact hhanded
  · rw [htally'] at h
    obtain ⟨fault, rfl⟩ := hrefused h
    exact ⟨fault, rfl⟩

lemma Numbered.goOn {fault : Option String} {mail : List Command} (hl : l.Numbered k)
    (hopen : l.ending = none) (hproceeds : Proceeds ⟨l.now, fault⟩ l.connection input output c) :
    (l.goOn input mail output c).Numbered k := by
  obtain ⟨t, hpermits, hagrees⟩ := (hl.agrees hopen).proceeds hproceeds
  obtain ⟨hnumbered, rfl⟩ := hl.history.note l.now hpermits
  exact ⟨hnumbered, hagrees.handed, fun _ => hagrees, fun h => nomatch hagrees.clean.symm.trans h⟩

lemma Numbered.advances (hl : l.Numbered k) (hsound : action.Sound)
    (hadvances : l.Advances action l') : l'.Numbered k := by
  cases hadvances with
  | asked command hopen => exact hl.silent _ (List.forall_mem_singleton.2 ⟨trivial, rfl⟩)
  | askedLate command hended =>
    refine hl.silent _ (List.forall_mem_cons.2 ⟨⟨trivial, rfl⟩, ?_⟩)
    rw [List.forall_mem_map]
    intro o hmem
    obtain ⟨request, -, rfl⟩ := List.mem_map.1 hmem
    exact ⟨trivial, rfl⟩
  | goesOn hopen hinput hproceeds => exact hl.goOn hopen hproceeds
  | finishes hopen hinput hfails hending =>
    cases hsound
    exact hl.finish hopen hfails hending
  | elapses duration => exact ⟨hl.history, hl.handed, hl.agrees, hl.refused⟩

end Life

/-! ### What the tally of a period comes to -/

/-- Numbers count up from zero, and at most `k` frames are outstanding. -/
structure Tally.Counted (k : Nat) (t : Tally) : Prop where
  numbers : t.numbers = (List.range t.numbers.length).map (· % sequenceModulus)
  sent : t.acknowledged ≤ t.numbers.length
  few : t.numbers.length ≤ t.acknowledged + k

namespace Tally

variable {k : Nat} {t : Tally} {x : Happening}

lemma Counted.heed (ht : t.Counted k) (number : Nat) : (t.heed number).Counted k := by
  obtain heq | ⟨count, hfrom, hto, -, heq⟩ := t.heed_cases number
  · rw [heq]
    exact ht
  · rw [heq]
    exact ⟨ht.numbers, hto, Nat.le_trans ht.few (Nat.add_le_add_right hfrom k)⟩

lemma Counted.read (ht : t.Counted k) (state : TransferState) (a : Apdu) :
    (t.read state a).Counted k := by
  unfold Tally.read
  split
  · next number acknowledgment asdu _ _ =>
    have hheard := ht.heed acknowledgment
    unfold Tally.take
    split <;> exact ⟨hheard.numbers, hheard.sent, hheard.few⟩
  · exact ht.heed _
  · exact ht

lemma Counted.next (ht : t.Counted k) (hx : t.Allows k x) : (t.next x).Counted k := by
  unfold Tally.next
  split
  · exact ht.read ..
  · obtain ⟨-, rfl, hroom, -⟩ := hx
    refine ⟨?_, ?_, ?_⟩
    · dsimp only
      rw [List.length_append, List.length_singleton, List.range_succ, List.map_append,
        ← ht.numbers]
      rfl
    · exact Nat.le_trans ht.sent (by simp)
    · dsimp only
      rw [List.length_append, List.length_singleton]
      omega
  · exact ⟨rfl, Nat.le_refl 0, Nat.zero_le _⟩
  · exact ⟨ht.numbers, ht.sent, ht.few⟩
  · exact ht

/-- A request is handed over or answered, or the end is reported. -/
inductive Closing : Happening → Prop
  | asked (command : Command) : Closing (.asked command)
  | answered (request : Nat) (answer : Answer) : Closing (.put (.answered request answer))
  | lost (reason : CloseReason) : Closing (.put (.reported (.lost reason)))

lemma AllowsFrame.acknowledgment {apci : Apci} {number : Nat} (h : t.AllowsFrame k apci)
    (hnumber : number ∈ apci.receive?) : number = t.accepted.length % sequenceModulus := by
  cases apci with
  | iFrame sent receive =>
    obtain rfl := Option.some.inj hnumber
    exact h.2.2
  | sFrame receive =>
    obtain rfl := Option.some.inj hnumber
    exact h
  | uFrame function => exact nomatch hnumber

lemma Allows.handed (hx : t.Allows k x) (hopens : x.opens = true) : t.handedOut = t.accepted := by
  unfold Happening.opens at hopens
  split at hopens
  · exact hx.2
  · exact hx.2
  · exact nomatch hopens

lemma Allows.closing (hx : t.Allows k x) (hrefused : t.refused = true) :
    Closing x ∧ (t.next x).refused = true := by
  have hnot : t.refused ≠ false := by simp [hrefused]
  cases x with
  | asked command => exact ⟨.asked command, hrefused⟩
  | met state input => exact absurd hx.1 hnot
  | put output =>
    cases output with
    | wrote a octets => exact absurd hx.1 hnot
    | answered request answer => exact ⟨.answered request answer, hrefused⟩
    | reported event =>
      cases event with
      | lost reason => exact ⟨.lost reason, hrefused⟩
      | ready => exact absurd hx.1 hnot
      | asduReceived asdu => exact absurd hx.1 hnot
      | transferStopped => exact absurd hx hnot
      | linkStateChanged => exact absurd hx hnot

end Tally

namespace History.Numbered

variable {k : Nat} {h before after : History}

lemma counted (hh : h.Numbered k) (hsplit : h = before ++ after) : before.tally.Counted k := by
  induction before using List.reverseRecOn generalizing after with
  | nil => exact ⟨rfl, Nat.le_refl 0, Nat.zero_le _⟩
  | append_singleton before entry ih =>
    have hsplit' : h = before ++ entry :: after := by simpa using hsplit
    have hnext := (ih hsplit').next (hh before entry after hsplit')
    simpa [History.tally, List.foldl_append] using hnext

/-- After an arrival that was refused there are only answers to requests and the report of the
end. -/
lemma closing (hh : h.Numbered k) (hsplit : h = before ++ after)
    (hrefused : before.tally.refused = true) :
    (∀ entry ∈ after, Tally.Closing entry.2) ∧ h.tally.refused = true := by
  induction after generalizing before with
  | nil => exact ⟨by simp, by simpa [hsplit] using hrefused⟩
  | cons entry after ih =>
    obtain ⟨hclosing, hrefused⟩ := (hh before entry after hsplit).closing hrefused
    have hsplit' : h = (before ++ [entry]) ++ after := by simpa using hsplit
    have hrest := ih hsplit' (by simpa [History.tally, List.foldl_append] using hrefused)
    exact ⟨List.forall_mem_cons.2 ⟨hclosing, hrest.1⟩, hrest.2⟩

end History.Numbered

namespace Life

variable {l : Life} {actions : List Action} {role : Role} {begun : Nat} {apci : ApciParameters}
  {widths : FieldWidths} {before after : History}

/-- At any time of a run over a line that works, the tally of the current data transfer period says
that the I-frames written have been numbered from zero, and that at most `k` of them are
outstanding. The next frame, if it carries an acknowledgment, carries the number of all I-frames
accepted. When a turn or the period is over, exactly what was accepted has been handed out. An
I-frame that is refused ends the connection for the protocol's sake, and nothing is written or
handed out any more. -/
theorem transfer_numbered (hstart : Connection.start role apci widths begun = .ok c)
    (hsound : ∀ action ∈ actions, action.Sound) (hrun : (begin begun c).run actions = some l)
    (hsplit : l.history = before ++ after) :
    before.tally.numbers =
        (List.range before.tally.numbers.length).map (· % sequenceModulus) ∧
      before.tally.numbers.length ≤ before.tally.acknowledged + apci.k ∧
      (∀ entry ∈ after.head?, ∀ a octets, entry.2 = .put (.wrote a octets) →
        ∀ number ∈ a.apci.receive?,
          number = before.tally.accepted.length % sequenceModulus) ∧
      ((∀ entry ∈ after.head?, entry.2.opens) →
        before.tally.handedOut = before.tally.accepted) ∧
      (before.tally.refused = true → (∃ fault, l.ending = some (.protocol fault)) ∧
        ∀ entry ∈ after, Tally.Closing entry.2) := by
  have hl : l.Numbered apci.k :=
    run_keeps (P := Life.Numbered apci.k) (numbered_begin hstart)
      (fun action hmem _ _ hl hadvances => hl.advances (hsound action hmem) hadvances) hrun
  have hcounted := hl.history.counted hsplit
  refine ⟨hcounted.numbers, hcounted.few, ?_, ?_, ?_⟩
  · intro entry hmem a octets hwrote number hnumber
    obtain ⟨rest, rfl⟩ : ∃ rest, after = entry :: rest := by
      cases after with
      | nil => exact nomatch hmem
      | cons first rest => exact ⟨rest, by rw [Option.some.inj hmem]⟩
    have hallows := hl.history before entry rest hsplit
    rw [hwrote] at hallows
    exact hallows.2.acknowledgment hnumber
  · intro hopens
    cases after with
    | nil =>
      obtain rfl : l.history = before := by simpa using hsplit
      exact hl.handed
    | cons entry rest =>
      exact (hl.history before entry rest hsplit).handed (hopens entry rfl)
  · intro hrefused
    obtain ⟨hclosing, hlast⟩ := hl.history.closing hsplit hrefused
    exact ⟨hl.refused hlast, hclosing⟩

/-- Two periods, with data in both directions. In the second one the frame with the number 5 is
refused. -/
def twoPeriods : List Action :=
  [hear (.uFrame .startDtAct), hear (.iFrame 0 0 (.empty .readCommand .request 1))] ++
    tell (.send (.empty .readCommand .request 2) 0) ++
    [hear (.sFrame 1), hear (.uFrame .stopDtAct), hear (.uFrame .startDtAct)] ++
    tell (.send (.empty .readCommand .request 3) 1) ++
    [hear (.iFrame 0 0 (.empty .readCommand .request 4)),
      hear (.iFrame 5 1 (.empty .readCommand .request 5))]

theorem transfer_numbered_twoPeriods :
    ∃ c l, ∃ before : History, Connection.start .controlled { k := 1 } .network 0 = .ok c ∧
      (begin 0 c).run twoPeriods = some l ∧
      l.history = before ++ [(0, .put (.reported (.lost
        (.protocol (.protocol (.sendSequence 5 1))))))] ∧
      before.tally = {
        numbers := [0], acknowledged := 1, accepted := [.empty .readCommand .request 4],
        refused := true, handedOut := [.empty .readCommand .request 4] } ∧
      before.tally.numbers.length ≤ before.tally.acknowledged + 1 ∧
      ∃ fault, l.ending = some (.protocol fault) := by
  obtain ⟨c, hstart⟩ : ∃ c, Connection.start .controlled { k := 1 } .network 0 = .ok c :=
    ⟨_, rfl⟩
  obtain ⟨l, hrun⟩ : ∃ l, (begin 0 c).run twoPeriods = some l := by
    obtain ⟨-, rfl⟩ := start_eq_ok hstart
    exact ⟨_, rfl⟩
  have hsound : ∀ action ∈ twoPeriods, action.Sound := by decide +kernel
  have hseen : l.history = l.history.dropLast ++ [(0, .put (.reported (.lost
        (.protocol (.protocol (.sendSequence 5 1))))))] ∧
      History.tally l.history.dropLast = {
        numbers := [0], acknowledged := 1, accepted := [.empty .readCommand .request 4],
        refused := true, handedOut := [.empty .readCommand .request 4] } := by
    obtain ⟨-, rfl⟩ := start_eq_ok hstart
    obtain rfl := Option.some.inj hrun
    decide +kernel
  obtain ⟨hsplit, htally⟩ := hseen
  obtain ⟨-, hfew, -, -, hrefused⟩ := transfer_numbered hstart hsound hrun hsplit
  exact ⟨c, l, l.history.dropLast, hstart, hrun, hsplit, htally, hfew,
    (hrefused (by rw [htally])).1⟩

end Life

end Telecontrol.Connection
