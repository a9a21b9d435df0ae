import Telecontrol.Proofs.Connection.Life

/-!
# Receipts fall due

Received data is acknowledged with the next I- or S-frame that is written, and at the latest `t2`
after it has arrived. An open connection has fewer than `w` frames to acknowledge, and a receipt is
scheduled, for the oldest of them, exactly while there are any (`receipts_scheduled`). When data
transfer begins anew, frames of the time before are not acknowledged any more
(`receipt_forgotten_by_restart`).
-/

namespace Telecontrol.Connection

namespace Happening

/-- An I-frame is read. -/
def bringsData : Happening → Bool
  | met _ (.arrival (.frame a)) => a.apci.isIFrame
  | _ => false

/-- A frame is written that acknowledges everything received. -/
def acknowledges : Happening → Bool
  | put (.wrote a _) => a.apci.receive?.isSome
  | _ => false

/-- Nothing received so far is to be acknowledged any more: either it has been, or data transfer
begins anew. -/
def settles (x : Happening) : Bool := x.acknowledges || x = put (.reported .ready)

end Happening

namespace History

/-- The arrivals of I-frames that are not settled, oldest first. -/
def outstanding (settles : Happening → Bool) (h : History) : List Nat :=
  h.foldl (fun times entry =>
    if settles entry.2 then [] else if entry.2.bringsData then times ++ [entry.1] else times) []

variable {h : History} {now : Nat}

lemma outstanding_note_first {settles : Happening → Bool} {x : Happening} (hx : settles x = false) :
    (h.note now [x]).outstanding settles =
      h.outstanding settles ++ if x.bringsData then [now] else [] := by
  simp only [outstanding, note, List.map_cons, List.map_nil, List.foldl_append, List.foldl_cons,
    List.foldl_nil, hx, Bool.false_eq_true, if_false]
  split <;> simp

lemma outstanding_note {settles : Happening → Bool} {happenings : List Happening}
    (hdata : happenings.any Happening.bringsData = false) :
    (h.note now happenings).outstanding settles =
      if happenings.any settles then [] else h.outstanding settles := by
  induction happenings generalizing h with
  | nil => simp [note]
  | cons x rest ih =>
    obtain ⟨hx, hrest⟩ : x.bringsData = false ∧ rest.any Happening.bringsData = false := by
      simpa using hdata
    rw [note_cons, ih hrest, List.any_cons]
    cases hsettles : settles x with
    | false => simp [outstanding_note_first hsettles, hx]
    | true =>
      have hnone : (h.note now [x]).outstanding settles = [] := by
        simp [outstanding, note, List.foldl_append, hsettles]
      simp [hnone]

end History

variable {m : Moment} {c c' : Connection} {input : Input} {output : List (Output Apdu)}
  {begun : Nat} {h : History}

/-- What a turn does to the receipts that are owed. -/
inductive Books (m : Moment) (c : Connection) : Input → List (Output Apdu) → Connection → Prop
  | owes {a : Apdu} {output : List (Output Apdu)} {c' : Connection} : a.apci.isIFrame →
      (output.map Happening.put).any Happening.settles = false →
      c.receive.unacked + 1 < c.receive.w → c'.receive = c.receive.taken →
      c'.receiptDue = c.receiptDue.or (some (m.now + c.apci.t2)) →
      Books m c (.arrival (.frame a)) output c'
  | settles {input : Input} {output : List (Output Apdu)} {c' : Connection} :
      (output.map Happening.put).any Happening.settles = true →
      c'.receive.w = c.receive.w → c'.receive.unacked = 0 → c'.receiptDue = none →
      Books m c input output c'
  | keeps {input : Input} {output : List (Output Apdu)} {c' : Connection} :
      (Happening.met c.state input).bringsData = false →
      (output.map Happening.put).any Happening.settles = false → c'.receive = c.receive →
      c'.receiptDue = c.receiptDue → Books m c input output c'

lemma Settles.books {c₁ c₂ : Connection} {receipt output : List (Output Apdu)}
    (h : Settles c₁ receipt c₂) (hreceive : c₁.receive = c.receive)
    (hdue : c₁.receiptDue = c.receiptDue) (hreceive' : c'.receive = c₂.receive)
    (hdue' : c'.receiptDue = c₂.receiptDue)
    (hdata : (Happening.met c.state input).bringsData = false)
    (houtput : (output.map Happening.put).any Happening.settles = false) :
    Books m c input (receipt ++ output) c' := by
  cases h with
  | nothing => exact .keeps hdata houtput (hreceive'.trans hreceive) (hdue'.trans hdue)
  | receipt =>
    refine .settles rfl ?_ ?_ hdue'
    · rw [hreceive', ← hreceive]
      rfl
    · rw [hreceive']
      rfl

lemma Proceeds.books (h : Proceeds m c input output c') : Books m c input output c' := by
  cases h with
  | heed hnumber =>
    refine .keeps (by simp [Happening.bringsData, hnumber, Apci.isIFrame]) rfl ?_ ?_
    · rw [onAcknowledgment_receive, heard_receive]
    · rw [onAcknowledgment_receiptDue, heard_receiptDue]
  | accept number hstate hroom => exact .owes rfl rfl hroom rfl rfl
  | confirm number hstate hfull => exact .settles rfl rfl rfl rfl
  | start hfunction => exact .settles rfl (by simp [restarted, ReceiveWindow.reset]) rfl rfl
  | started hfunction => exact .settles rfl (by simp [restarted, ReceiveWindow.reset]) rfl rfl
  | stop hfunction _ _ hsettles =>
    exact hsettles.books heard_receive heard_receiptDue rfl rfl
      (by simp [Happening.bringsData, hfunction, Apci.isIFrame]) rfl
  | stopAgain hfunction _ _ hsettles =>
    exact hsettles.books heard_receive heard_receiptDue rfl rfl
      (by simp [Happening.bringsData, hfunction, Apci.isIFrame]) rfl
  | askStop _ _ hsettles => exact hsettles.books rfl rfl rfl rfl rfl rfl
  | send => exact .settles rfl rfl rfl rfl
  | receipt => exact .settles rfl rfl rfl rfl
  | answerTest hfunction | tested hfunction | passOver hfunction | startAgain hfunction
  | stopped hfunction =>
    refine .keeps (by simp [Happening.bringsData, hfunction, Apci.isIFrame]) rfl ?_ ?_
    · first | rfl | exact heard_receive
    · first | rfl | exact heard_receiptDue
  | refuse | alreadyActive | alreadyStopped | askStart | probe => exact .keeps rfl rfl rfl rfl

/-- The books agree with the frames that are to be acknowledged, which arrived at these times. -/
structure Booked (c : Connection) (now : Nat) (times : List Nat) : Prop where
  limit : c.receive.w = c.apci.w
  room : c.receive.unacked < c.receive.w
  count : c.receive.unacked = times.length
  due : c.receiptDue = times.head?.map (· + c.apci.t2)
  sorted : times.Pairwise (· ≤ ·)
  past : ∀ time ∈ times, time ≤ now

lemma Booked.owe {now : Nat} {times : List Nat} (hc : Booked c now times)
    (hroom : c.receive.unacked + 1 < c.receive.w) (hreceive : c'.receive = c.receive.taken)
    (hdue : c'.receiptDue = c.receiptDue.or (some (now + c.apci.t2))) (hapci : c'.apci = c.apci) :
    Booked c' now (times ++ [now]) where
  limit := by rw [hreceive, hapci]; exact hc.limit
  room := by rw [hreceive]; exact hroom
  count := by
    rw [hreceive, List.length_append]
    exact congrArg (· + 1) hc.count
  due := by
    rw [hdue, hc.due, hapci]
    cases times <;> rfl
  sorted := by
    rw [List.pairwise_append]
    refine ⟨hc.sorted, by simp, fun time hmem _ hnow => ?_⟩
    rw [List.mem_singleton.1 hnow]
    exact hc.past time hmem
  past := by
    intro time hmem
    obtain hmem | hmem := List.mem_append.1 hmem
    · exact hc.past time hmem
    · exact Nat.le_of_eq (List.mem_singleton.1 hmem)

lemma Booked.settle {now : Nat} {times : List Nat} (hc : Booked c now times)
    (hlimit : c'.receive.w = c.receive.w) (hnone : c'.receive.unacked = 0)
    (hdue : c'.receiptDue = none) (hapci : c'.apci = c.apci) : Booked c' now [] where
  limit := by rw [hlimit, hapci]; exact hc.limit
  room := by
    have hroom := hc.room
    omega
  count := hnone
  due := hdue
  sorted := .nil
  past := nofun

lemma Booked.keep {now now' : Nat} {times : List Nat} (hc : Booked c now times)
    (hreceive : c'.receive = c.receive) (hdue : c'.receiptDue = c.receiptDue)
    (hapci : c'.apci = c.apci) (hnow : now ≤ now') : Booked c' now' times where
  limit := by rw [hreceive, hapci]; exact hc.limit
  room := by rw [hreceive]; exact hc.room
  count := by rw [hreceive]; exact hc.count
  due := by rw [hdue, hapci]; exact hc.due
  sorted := hc.sorted
  past := fun time hmem => Nat.le_trans (hc.past time hmem) hnow

lemma Booked.proceeds {now : Nat} {fault : Option String}
    (hc : Booked c now (h.outstanding Happening.settles))
    (hproceeds : Proceeds ⟨now, fault⟩ c input output c') :
    Booked c' now
      ((h.note now (.met c.state input :: output.map .put)).outstanding Happening.settles) := by
  have hapci := hproceeds.role_apci.2
  have hputs : (output.map Happening.put).any Happening.bringsData = false := by
    simp [Happening.bringsData]
  have hmet (state : TransferState) (input : Input) :
      (Happening.met state input).settles = false := rfl
  rw [History.note_cons, History.outstanding_note hputs,
    History.outstanding_note_first (hmet ..)]
  cases hproceeds.books with
  | owes hdata hnone hroom hreceive hdue =>
    have hbrings : (Happening.met c.state (.arrival (.frame _))).bringsData = true := hdata
    rw [hnone, hbrings]
    exact hc.owe hroom hreceive hdue hapci
  | settles hsettles hlimit hnone hdue =>
    rw [hsettles]
    exact hc.settle hlimit hnone hdue hapci
  | keeps hdata hnone hreceive hdue =>
    rw [hnone, hdata]
    simpa using hc.keep hreceive hdue hapci (Nat.le_refl now)

namespace Life

variable {l l' : Life} {action : Action} {actions : List Action} {role : Role}
  {apci : ApciParameters} {widths : FieldWidths}

lemma booked_advances
    (hl : l.ending = none → Booked l.connection l.now (l.history.outstanding Happening.settles))
    (hadvances : l.Advances action l') (hopen : l'.ending = none) :
    Booked l'.connection l'.now (l'.history.outstanding Happening.settles) := by
  cases hadvances with
  | asked command hopen =>
    rw [History.outstanding_note rfl]
    exact hl hopen
  | askedLate command hended => exact absurd hopen hended
  | goesOn hopen hinput hproceeds => exact (hl hopen).proceeds hproceeds
  | finishes => exact nomatch hopen
  | elapses duration => exact (hl hopen).keep rfl rfl rfl (Nat.le_add_right ..)

lemma validate_eq_ok {apci : ApciParameters} (h : apci.validate = .ok ()) :
    0 < apci.k ∧ apci.k < sequenceModulus ∧ 0 < apci.w ∧ apci.w < sequenceModulus := by
  unfold ApciParameters.validate at h
  split at h
  · exact nomatch h
  · split at h
    · exact nomatch h
    · omega

lemma booked_begin (hstart : Connection.start role apci widths begun = .ok c) :
    Booked c begun [] := by
  obtain ⟨hvalid, rfl⟩ := start_eq_ok hstart
  exact ⟨rfl, (validate_eq_ok hvalid).2.2.1, rfl, rfl, .nil, nofun⟩

/-- In every state that an open connection reaches, fewer than `w` frames are to be acknowledged,
the receipt is scheduled exactly if there are any, and for `t2` after the oldest of them has arrived.
These are the I-frames that have arrived since data transfer began, less those that have been
acknowledged by a frame written since. -/
theorem receipts_scheduled (hstart : Connection.start role apci widths begun = .ok c)
    (hrun : (begin begun c).run actions = some l) (hopen : l.ending = none) :
    l.connection.receive.unacked < apci.w ∧ apci.w < sequenceModulus ∧
      (l.connection.receiptDue.isSome ↔ 0 < l.connection.receive.unacked) ∧
      l.connection.receiptDue =
        (l.history.outstanding Happening.settles).head?.map (· + apci.t2) ∧
      l.connection.receive.unacked = (l.history.outstanding Happening.settles).length ∧
      ∀ time ∈ l.history.outstanding Happening.settles,
        ∃ due ∈ l.connection.receiptDue, due ≤ time + apci.t2 := by
  have hbooked : Booked l.connection l.now (l.history.outstanding Happening.settles) :=
    run_keeps (P := fun l => l.ending = none →
        Booked l.connection l.now (l.history.outstanding Happening.settles))
      (fun _ => booked_begin hstart) (fun _ _ _ _ hl hadvances => booked_advances hl hadvances)
      hrun hopen
  obtain ⟨hvalid, hc⟩ := start_eq_ok hstart
  have hapci : l.connection.apci = apci := by rw [(run_apci hrun hopen).2, hc]; rfl
  obtain ⟨hlimit, hroom, hcount, hdue, hsorted, -⟩ := hbooked
  rw [hapci] at hlimit hdue
  refine ⟨hlimit ▸ hroom, (validate_eq_ok hvalid).2.2.2, ?_, hdue, hcount, ?_⟩
  · rw [hdue, hcount]
    cases l.history.outstanding Happening.settles <;> simp
  · intro time hmem
    rw [hdue]
    cases htimes : l.history.outstanding Happening.settles with
    | nil => simp [htimes] at hmem
    | cons first rest =>
      rw [htimes] at hmem hsorted
      refine ⟨first + apci.t2, rfl, Nat.add_le_add_right ?_ _⟩
      obtain rfl | hmem := List.mem_cons.1 hmem
      · exact Nat.le_refl _
      · exact List.rel_of_pairwise_cons hsorted hmem

/-- The second of two frames does not put off the receipt for the first. -/
theorem receipts_scheduled_twoFrames :
    ∃ c l, Connection.start .controlled {} .network 0 = .ok c ∧
      (begin 0 c).run [hear (.uFrame .startDtAct),
        hear (.iFrame 0 0 (.empty .readCommand .request 1)), .elapse 1000,
        hear (.iFrame 1 0 (.empty .readCommand .request 1))] = some l ∧
      l.ending = none ∧ l.history.outstanding Happening.settles = [0, 1000] ∧
      l.connection.receive.unacked < 8 ∧ l.connection.receiptDue = some 10000 ∧
      l.connection.receive.unacked = 2 := by
  obtain ⟨c, hstart⟩ : ∃ c, Connection.start .controlled {} .network 0 = .ok c := ⟨_, rfl⟩
  obtain ⟨l, hrun⟩ : ∃ l, (begin 0 c).run [hear (.uFrame .startDtAct),
      hear (.iFrame 0 0 (.empty .readCommand .request 1)), .elapse 1000,
      hear (.iFrame 1 0 (.empty .readCommand .request 1))] = some l := by
    obtain ⟨-, rfl⟩ := start_eq_ok hstart
    exact ⟨_, rfl⟩
  have hend : l.ending = none ∧ l.history.outstanding Happening.settles = [0, 1000] := by
    obtain ⟨-, rfl⟩ := start_eq_ok hstart
    obtain rfl := Option.some.inj hrun
    decide +kernel
  obtain ⟨hopen, htimes⟩ := hend
  obtain ⟨hroom, -, -, hdue, hcount, -⟩ := receipts_scheduled hstart hrun hopen
  rw [htimes] at hdue hcount
  exact ⟨c, l, hstart, hrun, hopen, htimes, hroom, hdue, hcount⟩

/-- Data that arrives while data transfer is being stopped, another start before its receipt is
due, and data again. -/
def restartBeforeReceipt : List Action :=
  tell (.startTransfer 0) ++ [hear (.uFrame .startDtCon)] ++ tell (.stopTransfer 1) ++
    [hear (.iFrame 0 0 (.empty .readCommand .request 1)), hear (.uFrame .stopDtCon)] ++
    tell (.startTransfer 2) ++ [hear (.uFrame .startDtCon), .elapse 3000,
      hear (.iFrame 0 0 (.empty .readCommand .request 1))]

/-- The first frame has not been acknowledged by a frame written since, but the receipt is scheduled
for the second one. -/
theorem receipt_forgotten_by_restart :
    ∃ c l, Connection.start .controlling {} .network 0 = .ok c ∧
      (begin 0 c).run restartBeforeReceipt = some l ∧ l.ending = none ∧
      l.history.outstanding Happening.acknowledges = [0, 3000] ∧
      l.connection.receiptDue = some (3000 + 10000) ∧
      l.connection.receiptDue ≠
        (l.history.outstanding Happening.acknowledges).head?.map (· + 10000) := by
  obtain ⟨c, hstart⟩ : ∃ c, Connection.start .controlling {} .network 0 = .ok c := ⟨_, rfl⟩
  obtain ⟨l, hrun⟩ : ∃ l, (begin 0 c).run restartBeforeReceipt = some l := by
    obtain ⟨-, rfl⟩ := start_eq_ok hstart
    exact ⟨_, rfl⟩
  refine ⟨c, l, hstart, hrun, ?_⟩
  obtain ⟨-, rfl⟩ := start_eq_ok hstart
  obtain rfl := Option.some.inj hrun
  decide +kernel

end Life

end Telecontrol.Connection
