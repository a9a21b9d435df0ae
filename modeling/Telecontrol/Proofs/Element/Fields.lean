import Telecontrol.Proofs.Element.RoundTrip
import Telecontrol.Proofs.Reading
import Telecontrol.Proofs.Writing.Writer

/-!
# Information elements field by field

An element is put into a buffer field by field: octets, words, signed numbers, the octets of a time
tag. It is taken out again in the same way once enough octets are there for its kind. The fields of
every kind add up to its width, so that nothing is taken that is not there, and each field is read
as it was written. `encode` and `decode`, which treat an element as one number, come to the same.
-/

namespace Telecontrol

namespace Octets

lemma valueOf_append (low high : Octets) :
    valueOf (low ++ high) = valueOf low + capacity low.length * valueOf high := by
  induction low with
  | nil => simp [valueOf, capacity]
  | cons b low ih =>
    rw [List.cons_append, valueOf, valueOf, List.length_cons, capacity, ih, Nat.mul_add,
      Nat.add_assoc, Nat.mul_assoc]

lemma exists_eq_append (width width' : Nat) {octets : Octets}
    (h : octets.length = width + width') :
    ∃ low high, octets = low ++ high ∧ low.length = width ∧ high.length = width' :=
  ⟨octets.take width, octets.drop width, (List.take_append_drop width octets).symm,
    List.length_take_of_le (by omega), by rw [List.length_drop]; omega⟩

lemma word_add_valueOf (low high : UInt8) (rest : Octets) :
    (UInt16.ofNat (valueOf [low, high])).toNat + 0x10000 * valueOf rest =
      valueOf (low :: high :: rest) := by
  have hlow := low.toNat_lt
  have hhigh := high.toNat_lt
  simp only [valueOf, UInt16.toNat_ofNat']
  omega

lemma valueOf_word_append (word : UInt16) (rest : Octets) :
    valueOf (digit word.toNat 0 :: digit word.toNat 1 :: rest) =
      word.toNat + 0x10000 * valueOf rest := by
  have hword := word.toNat_lt
  simp only [valueOf, digit, capacity, UInt8.toNat_ofNat']
  omega

end Octets

namespace Writer

def putOctet (x : UInt8) : Writer Unit := put [x]

def putUInt16 (x : UInt16) : Writer Unit := put (Octets.littleEndian 2 x.toNat)

def putUInt32 (x : UInt32) : Writer Unit := put (Octets.littleEndian 4 x.toNat)

/-- A signed number is written in two's complement. -/
def putInt16 (x : Int16) : Writer Unit := putUInt16 x.toUInt16

def putInt32 (x : Int32) : Writer Unit := putUInt32 x.toUInt32

lemma writes_octet (x : UInt8) : (putOctet x).Writes () (Octets.littleEndian 1 x.toNat) := by
  have hoctet : Octets.littleEndian 1 x.toNat = [x] := by
    rw [Octets.littleEndian, Octets.littleEndian, UInt8.ofNat_toNat]
  rw [hoctet]
  exact writes_put [x]

lemma writes_uint16 (x : UInt16) : (putUInt16 x).Writes () (Octets.littleEndian 2 x.toNat) :=
  writes_put _

lemma writes_uint32 (x : UInt32) : (putUInt32 x).Writes () (Octets.littleEndian 4 x.toNat) :=
  writes_put _

end Writer

namespace Reader

variable {octets : Octets}

/-- Takes a number, least significant octet first. -/
def takeNumber (width : Nat) : Reader Nat := return Octets.valueOf (← take width).toList

def takeOctet : Reader UInt8 := return UInt8.ofNat (← takeNumber 1)

def takeUInt16 : Reader UInt16 := return UInt16.ofNat (← takeNumber 2)

def takeUInt32 : Reader UInt32 := return UInt32.ofNat (← takeNumber 4)

def takeInt16 : Reader Int16 := return (← takeUInt16).toInt16

def takeInt32 : Reader Int32 := return (← takeUInt32).toInt32

lemma reads_number {width : Nat} (h : octets.length = width) :
    (takeNumber width).Reads octets (Octets.valueOf octets) :=
  (reads_take h).yield fun field => Octets.valueOf field.toList

lemma reads_octet (h : octets.length = 1) :
    takeOctet.Reads octets (UInt8.ofNat (Octets.valueOf octets)) :=
  (reads_number h).yield UInt8.ofNat

lemma reads_uint16 (h : octets.length = 2) :
    takeUInt16.Reads octets (UInt16.ofNat (Octets.valueOf octets)) :=
  (reads_number h).yield UInt16.ofNat

lemma reads_uint32 (h : octets.length = 4) :
    takeUInt32.Reads octets (UInt32.ofNat (Octets.valueOf octets)) :=
  (reads_number h).yield UInt32.ofNat

lemma reads_int16 (h : octets.length = 2) :
    takeInt16.Reads octets (UInt16.ofNat (Octets.valueOf octets)).toInt16 :=
  (reads_uint16 h).yield UInt16.toInt16

lemma reads_int32 (h : octets.length = 4) :
    takeInt32.Reads octets (UInt32.ofNat (Octets.valueOf octets)).toInt32 :=
  (reads_uint32 h).yield UInt32.toInt32

end Reader

namespace Cp56

/-- The seven octets of a time tag. -/
def octets (t : Cp56) : Vector UInt8 7 :=
  #v[Octets.digit t.millisecond.toNat 0, Octets.digit t.millisecond.toNat 1, t.minuteOctet,
    t.hourOctet, t.dayOctet, t.monthOctet, t.yearOctet]

def ofOctets (v : Vector UInt8 7) : Cp56 :=
  ⟨UInt16.ofNat (Octets.valueOf [v[0], v[1]]), v[2], v[3], v[4], v[5], v[6]⟩

end Cp56

namespace Cp24

/-- The three octets of a time tag. -/
def octets (t : Cp24) : Vector UInt8 3 :=
  #v[Octets.digit t.millisecond.toNat 0, Octets.digit t.millisecond.toNat 1, t.minuteOctet]

def ofOctets (v : Vector UInt8 3) : Cp24 := ⟨UInt16.ofNat (Octets.valueOf [v[0], v[1]]), v[2]⟩

end Cp24

namespace Element

open Reader Writer

variable {kind : ElementKind} {e : Element} {octets : Octets} {n : Nat}

/-- Puts the fields of an element. -/
def writeFields : Element → Writer Unit
  | singlePoint e => putOctet e.octet
  | doublePoint e => putOctet e.octet
  | quality e => putOctet e.octet
  | protectionQuality e => putOctet e.octet
  | stepPosition e => putOctet e.octet
  | normalized e => putInt16 e.steps
  | scaled e => putInt16 e.value
  | float e => putUInt32 e.bits
  | bitstring e => putUInt32 e.bits
  | statusChange e => putUInt32 e.word
  | counter e => do
    putInt32 e.counter
    putOctet e.flags
  | singleEvent e => putOctet e.octet
  | startEvents e => putOctet e.octet
  | outputCircuit e => putOctet e.octet
  | singleCommand e => putOctet e.octet
  | doubleCommand e => putOctet e.octet
  | stepCommand e => putOctet e.octet
  | setpointQualifier e => putOctet e.octet
  | interrogation e => putOctet e.octet
  | counterInterrogation e => putOctet e.octet
  | measuredParameter e => putOctet e.octet
  | parameterActivation e => putOctet e.octet
  | resetProcess e => putOctet e.octet
  | initialization e => putOctet e.octet
  | testPattern e => putUInt16 e.word
  | testSequence e => putUInt16 e.word
  | time56 e => put e.octets.toList
  | time24 e => put e.octets.toList
  | time16 e => putUInt16 e.millisecond

/-- Puts an element and reports its width. -/
def write (e : Element) : Writer Nat := do
  e.writeFields
  return e.width

/-- Takes the fields of an element. -/
def readFields : ElementKind → Reader Element
  | .siq => return singlePoint ⟨← takeOctet⟩
  | .diq => return doublePoint ⟨← takeOctet⟩
  | .qds => return quality ⟨← takeOctet⟩
  | .qdp => return protectionQuality ⟨← takeOctet⟩
  | .vti => return stepPosition ⟨← takeOctet⟩
  | .nva => return normalized ⟨← takeInt16⟩
  | .sva => return scaled ⟨← takeInt16⟩
  | .r32 => return float ⟨← takeUInt32⟩
  | .bsi => return bitstring ⟨← takeUInt32⟩
  | .scd => return statusChange ⟨← takeUInt32⟩
  | .bcr => do
    let value ← takeInt32
    return counter ⟨value, ← takeOctet⟩
  | .sep => return singleEvent ⟨← takeOctet⟩
  | .spe => return startEvents ⟨← takeOctet⟩
  | .oci => return outputCircuit ⟨← takeOctet⟩
  | .sco => return singleCommand ⟨← takeOctet⟩
  | .dco => return doubleCommand ⟨← takeOctet⟩
  | .rco => return stepCommand ⟨← takeOctet⟩
  | .qos => return setpointQualifier ⟨← takeOctet⟩
  | .qoi => return interrogation ⟨← takeOctet⟩
  | .qcc => return counterInterrogation ⟨← takeOctet⟩
  | .qpm => return measuredParameter ⟨← takeOctet⟩
  | .qpa => return parameterActivation ⟨← takeOctet⟩
  | .qrp => return resetProcess ⟨← takeOctet⟩
  | .coi => return initialization ⟨← takeOctet⟩
  | .fbp => return testPattern ⟨← takeUInt16⟩
  | .tsc => return testSequence ⟨← takeUInt16⟩
  | .cp56 => return time56 (.ofOctets (← take 7))
  | .cp24 => return time24 (.ofOctets (← take 3))
  | .cp16 => return time16 ⟨← takeUInt16⟩

/-- Takes an element, if there are enough octets for one of its kind. -/
def read (kind : ElementKind) : Reader Element := do
  let available ← remaining
  if available < kind.width then
    refuse (.invalidAsdu (.truncatedElement kind available))
  readFields kind

lemma ofNumber_eq (hkind : e.kind = kind) (hnumber : e.number = n) : ofNumber kind n = e := by
  rw [← hkind, ← hnumber, ofNumber_number]

lemma encode_eq (e : Element) (hlength : octets.length = e.width)
    (hvalue : Octets.valueOf octets = e.number) : e.encode = octets := by
  rw [encode, ← hlength, ← hvalue, Octets.littleEndian_valueOf]

lemma ofNumber_counter {low high : Octets} (hlow : low.length = 4) (hhigh : high.length = 1) :
    ofNumber .bcr (Octets.valueOf (low ++ high)) =
      counter ⟨(UInt32.ofNat (Octets.valueOf low)).toInt32, UInt8.ofNat (Octets.valueOf high)⟩ := by
  have hcounter := Octets.valueOf_lt low
  have hflags := Octets.valueOf_lt high
  rw [hlow] at hcounter
  rw [hhigh] at hflags
  refine ofNumber_eq rfl ?_
  rw [Octets.valueOf_append, hlow]
  simp only [number, UInt32.toUInt32_toInt32, UInt32.toNat_ofNat', UInt8.toNat_ofNat',
    Octets.capacity] at *
  omega

lemma valueOf_counter (r : CounterReading) :
    Octets.valueOf (Octets.littleEndian 4 r.counter.toUInt32.toNat ++
      Octets.littleEndian 1 r.flags.toNat) = number (counter r) := by
  have hcounter := r.counter.toUInt32.toNat_lt
  have hflags := r.flags.toNat_lt
  rw [Octets.valueOf_append, Octets.length_littleEndian, Octets.valueOf_littleEndian,
    Octets.valueOf_littleEndian]
  simp only [number, Octets.capacity]
  omega

lemma ofNumber_time56 (h : octets.length = 7) :
    ofNumber .cp56 (Octets.valueOf octets) = time56 (.ofOctets ⟨octets.toArray, h⟩) := by
  refine ofNumber_eq rfl ?_
  match octets, h with
  | [low, high, minute, hour, day, month, year], _ =>
    exact Octets.word_add_valueOf low high [minute, hour, day, month, year]

lemma valueOf_time56 (t : Cp56) : Octets.valueOf t.octets.toList = number (time56 t) :=
  Octets.valueOf_word_append t.millisecond
    [t.minuteOctet, t.hourOctet, t.dayOctet, t.monthOctet, t.yearOctet]

lemma ofNumber_time24 (h : octets.length = 3) :
    ofNumber .cp24 (Octets.valueOf octets) = time24 (.ofOctets ⟨octets.toArray, h⟩) := by
  refine ofNumber_eq rfl ?_
  match octets, h with
  | [low, high, minute], _ => exact Octets.word_add_valueOf low high [minute]

lemma valueOf_time24 (t : Cp24) : Octets.valueOf t.octets.toList = number (time24 t) :=
  Octets.valueOf_word_append t.millisecond [t.minuteOctet]

/-- The fields of a kind are as wide as the kind, and no bit of them is lost. -/
theorem reads_fields (h : octets.length = kind.width) :
    (readFields kind).Reads octets (ofNumber kind (Octets.valueOf octets)) := by
  -- Most kinds are one number; a counter has flags behind it, and time tags are copied as they are.
  cases kind with
  | nva | sva => exact (reads_int16 h).yield _
  | r32 | bsi | scd => exact (reads_uint32 h).yield _
  | fbp | tsc | cp16 => exact (reads_uint16 h).yield _
  | bcr =>
    obtain ⟨low, high, rfl, hlow, hhigh⟩ := Octets.exists_eq_append 4 1 h
    rw [ofNumber_counter hlow hhigh]
    exact (reads_int32 hlow).bind ((reads_octet hhigh).yield _)
  | cp56 =>
    rw [ofNumber_time56 h]
    exact (reads_take h).yield _
  | cp24 =>
    rw [ofNumber_time24 h]
    exact (reads_take h).yield _
  | _ => exact (reads_octet h).yield _

theorem writes_fields (e : Element) : e.writeFields.Writes () e.encode := by
  cases e with
  | normalized e => exact writes_uint16 e.steps.toUInt16
  | scaled e => exact writes_uint16 e.value.toUInt16
  | float e => exact writes_uint32 e.bits
  | bitstring e => exact writes_uint32 e.bits
  | statusChange e => exact writes_uint32 e.word
  | testPattern e => exact writes_uint16 e.word
  | testSequence e => exact writes_uint16 e.word
  | time16 e => exact writes_uint16 e.millisecond
  | counter e =>
    rw [encode_eq (counter e) rfl (valueOf_counter e)]
    exact (writes_uint32 _).bind (writes_octet _)
  | time56 e =>
    rw [encode_eq (time56 e) rfl (valueOf_time56 e)]
    exact writes_put e.octets.toList
  | time24 e =>
    rw [encode_eq (time24 e) rfl (valueOf_time24 e)]
    exact writes_put e.octets.toList
  | _ e => exact writes_octet e.octet

lemma writes_element (e : Element) : e.write.Writes e.kind.width e.encode := by
  rw [← List.append_nil e.encode]
  exact (writes_fields e).bind (writes_pure e.width)

/-- An element that is taken field by field is the one that is read at once, and a buffer that is
too short stays as it is. -/
theorem on_read (kind : ElementKind) (octets : Octets) :
    (read kind).on octets =
      match decode kind octets with
      | .ok (e, rest) => (.ok e, rest)
      | .error f => (.error (.refused f), octets) := by
  rw [read, Reader.on_bind_of_ok (on_remaining octets), decode]
  by_cases hshort : octets.length < kind.width
  · rw [if_pos hshort, if_pos hshort]
    exact on_bind_of_error (on_refuse _ octets)
  · rw [if_neg hshort, if_neg hshort]
    have hfields := reads_fields (List.length_take_of_le (Nat.not_lt.1 hshort))
      (octets.drop kind.width)
    rwa [List.take_append_drop] at hfields

lemma decode_of_lt (h : octets.length < kind.width) :
    decode kind octets = .error (.invalidAsdu (.truncatedElement kind octets.length)) := if_pos h

lemma exists_decode (h : kind.width ≤ octets.length) :
    ∃ e : Element, decode kind octets = .ok (e, octets.drop kind.width) ∧ e.kind = kind ∧
      e.encode = octets.take kind.width := by
  have hdecode : decode kind octets =
      .ok (ofNumber kind (Octets.valueOf (octets.take kind.width)), octets.drop kind.width) :=
    if_neg (Nat.not_lt.2 h)
  obtain ⟨hkind, hoctets⟩ := decode_eq_ok_iff.1 hdecode
  have hsplit := hoctets.symm.trans (List.take_append_drop kind.width octets).symm
  exact ⟨_, hdecode, hkind, List.append_cancel_right hsplit⟩

lemma decode_encode_append (e : Element) (rest : Octets) :
    decode e.kind (e.encode ++ rest) = .ok (e, rest) := decode_eq_ok_iff.2 ⟨rfl, rfl⟩

/-- Too few octets for a kind are refused and stay in the buffer. Of enough octets the first ones,
as many as the kind is wide, are taken as an element of this kind, and the element puts the same
octets into any buffer and reports their number. Every element is taken as itself from the octets
that it puts, and what stands behind them stays. Read and written at once, it is the same. -/
theorem codec_exact :
    (∀ (kind : ElementKind) (octets : Octets), octets.length < kind.width →
      (read kind).on octets =
        (.error (.refused (.invalidAsdu (.truncatedElement kind octets.length))), octets) ∧
      decode kind octets = .error (.invalidAsdu (.truncatedElement kind octets.length))) ∧
    (∀ (kind : ElementKind) (octets : Octets), kind.width ≤ octets.length → ∃ e : Element,
      (read kind).on octets = (.ok e, octets.drop kind.width) ∧
      decode kind octets = .ok (e, octets.drop kind.width) ∧ e.kind = kind ∧
      e.write.Writes kind.width (octets.take kind.width) ∧
      e.encode = octets.take kind.width) ∧
    ∀ e : Element, e.write.Writes e.kind.width e.encode ∧ (read e.kind).Reads e.encode e ∧
      ∀ rest, decode e.kind (e.encode ++ rest) = .ok (e, rest) := by
  refine ⟨fun kind octets hshort => ?_, fun kind octets hlong => ?_, fun e => ?_⟩
  · have hdecode := decode_of_lt hshort
    exact ⟨by rw [on_read, hdecode], hdecode⟩
  · obtain ⟨e, hdecode, rfl, hencode⟩ := exists_decode hlong
    have hwrites := writes_element e
    rw [hencode] at hwrites
    exact ⟨e, by rw [on_read, hdecode], hdecode, rfl, hwrites, hencode⟩
  · refine ⟨writes_element e, fun rest => ?_, decode_encode_append e⟩
    rw [on_read, decode_encode_append]

/-- A negative counter reading with all its flags and an octet behind it, and three octets that are
no floating point value. -/
theorem codec_exact_counterReading :
    (read .bcr).on [0xfb, 0xff, 0xff, 0xff, 0xe7, 0x01] = (.ok (counter ⟨-5, 0xe7⟩), [0x01]) ∧
      (counter ⟨-5, 0xe7⟩).write.on [0xaa] = (.ok 5, [0xaa, 0xfb, 0xff, 0xff, 0xff, 0xe7]) ∧
      (read .r32).on [1, 2, 3] =
        (.error (.refused (.invalidAsdu (.truncatedElement .r32 3))), [1, 2, 3]) := by
  obtain ⟨hshort, hlong, -⟩ := codec_exact
  obtain ⟨e, hread, hdecode, -, hwrite, -⟩ :=
    hlong .bcr [0xfb, 0xff, 0xff, 0xff, 0xe7, 0x01] (by decide)
  obtain rfl : e = counter ⟨-5, 0xe7⟩ := (Prod.mk.inj (Except.ok.inj hdecode)).1.symm
  exact ⟨hread, hwrite [0xaa], (hshort .r32 [1, 2, 3] (by decide)).1⟩

end Element

end Telecontrol
