import Telecontrol.Calendar
import Telecontrol.Element.Value

/-!
# Binary time tags

Time tags of seven, three and two octets. They keep their octets, reserved bits included; the
constructors check calendar ranges, and `Cp56.dateTime?` finds out whether the fields form a date.
-/

namespace Telecontrol

/-- Seven octet binary time (CP56Time2a): milliseconds of the minute, then an octet each for minute,
hour, day with day of week, month and year since 2000, with flags in spare bits. -/
structure Cp56 where
  millisecond : UInt16
  minuteOctet : UInt8
  hourOctet : UInt8
  dayOctet : UInt8
  monthOctet : UInt8
  yearOctet : UInt8
deriving DecidableEq, Repr

namespace Cp56

/-- The fields as they are, each cut to its width. -/
def ofFields (year month day dayOfWeek hour minute : UInt8) (millisecond : UInt16) : Cp56 where
  millisecond := millisecond
  minuteOctet := minute &&& 0x3F
  hourOctet := hour &&& 0x1F
  dayOctet := (day &&& 0x1F) ||| UInt8.ofNat (dayOfWeek.toNat % 8 * 32)
  monthOctet := month &&& 0x0F
  yearOctet := year &&& 0x7F

/-- A time tag without day of week. The year counts from 2000. -/
def make (year month day hour minute : UInt8) (millisecond : UInt16) : Except Fault Cp56 := do
  Quantity.year.check year.toNat 0 99
  Quantity.month.check month.toNat 1 12
  Quantity.day.check day.toNat 1 31
  Quantity.hour.check hour.toNat 0 23
  Quantity.minute.check minute.toNat 0 59
  Quantity.millisecond.check millisecond.toNat 0 59999
  return ofFields year month day 0 hour minute millisecond

/-- The time tag of a calendar date with its day of week. A leap second counts as the last
millisecond of its minute. A message shows a year as an unsigned number of 32 bits. -/
def ofDateTime (t : DateTime) : Except Fault Cp56 := do
  Quantity.year.check (t.year % 0x100000000) 2000 2099
  return ofFields (UInt8.ofNat (t.year % 100).toNat) (UInt8.ofNat t.month) (UInt8.ofNat t.day)
    (UInt8.ofNat (Calendar.weekday t.year t.month t.day)) (UInt8.ofNat t.hour)
    (UInt8.ofNat t.minute)
    (UInt16.ofNat (min (t.second * 1000 + t.nanosecond / 1000000) 59999))

def minute (t : Cp56) : UInt8 := t.minuteOctet &&& 0x3F

def hour (t : Cp56) : UInt8 := t.hourOctet &&& 0x1F

def day (t : Cp56) : UInt8 := t.dayOctet &&& 0x1F

def dayOfWeek (t : Cp56) : UInt8 := UInt8.ofNat (t.dayOctet.toNat / 32)

def month (t : Cp56) : UInt8 := t.monthOctet &&& 0x0F

def year (t : Cp56) : UInt8 := t.yearOctet &&& 0x7F

def isInvalid (t : Cp56) : Bool := t.minuteOctet &&& 0x80 != 0

def isSubstituted (t : Cp56) : Bool := t.minuteOctet &&& 0x40 != 0

def isSummerTime (t : Cp56) : Bool := t.hourOctet &&& 0x80 != 0

def setInvalid (t : Cp56) (value : Bool) : Cp56 :=
  { t with minuteOctet := (t.minuteOctet &&& 0x7F) ||| (if value then 0x80 else 0) }

def setSubstituted (t : Cp56) (value : Bool) : Cp56 :=
  { t with minuteOctet := (t.minuteOctet &&& 0xBF) ||| (if value then 0x40 else 0) }

def setSummerTime (t : Cp56) (value : Bool) : Cp56 :=
  { t with hourOctet := (t.hourOctet &&& 0x7F) ||| (if value then 0x80 else 0) }

/-- Monday is 1 and Sunday 7; 0 stands for a day of week that is not used. -/
def setDayOfWeek (t : Cp56) (dayOfWeek : UInt8) : Except Fault Cp56 := do
  Quantity.dayOfWeek.check dayOfWeek.toNat 0 7
  return { t with dayOctet := (t.dayOctet &&& 0x1F) ||| UInt8.ofNat (dayOfWeek.toNat * 32) }

/-- The calendar date and time, if the fields form one. -/
def dateTime? (t : Cp56) : Option DateTime :=
  let year : Int := 2000 + t.year.toNat
  let second := t.millisecond.toNat / 1000
  if 1 ≤ t.month.toNat ∧ t.month.toNat ≤ 12
      ∧ Calendar.isDate year t.month.toNat t.day.toNat
      ∧ t.hour < 24 ∧ t.minute < 60 ∧ second < 60 then
    some ⟨year, t.month.toNat, t.day.toNat, t.hour.toNat, t.minute.toNat, second,
      t.millisecond.toNat % 1000 * 1000000⟩
  else none

/-- A number with leading zeros up to a width. -/
def padded (width n : Nat) : String :=
  let digits := Nat.toDigits 10 n
  String.ofList (List.replicate (width - digits.length) '0' ++ digits)

def text (t : Cp56) : String :=
  s!"Cp56Time2a(20{padded 2 t.year.toNat}-{padded 2 t.month.toNat}-{padded 2 t.day.toNat} " ++
    s!"{padded 2 t.hour.toNat}:{padded 2 t.minute.toNat}:" ++
    s!"{padded 2 (t.millisecond.toNat / 1000)}.{padded 3 (t.millisecond.toNat % 1000)}" ++
    (if t.isInvalid then " IV)" else ")")

end Cp56

/-- Three octet binary time (CP24Time2a): milliseconds of the minute and the minute. -/
structure Cp24 where
  millisecond : UInt16
  minuteOctet : UInt8
deriving DecidableEq, Repr

namespace Cp24

def make (minute : UInt8) (millisecond : UInt16) : Except Fault Cp24 := do
  Quantity.minute.check minute.toNat 0 59
  Quantity.millisecond.check millisecond.toNat 0 59999
  return ⟨millisecond, minute⟩

def minute (t : Cp24) : UInt8 := t.minuteOctet &&& 0x3F

def isInvalid (t : Cp24) : Bool := t.minuteOctet &&& 0x80 != 0

def setInvalid (t : Cp24) (value : Bool) : Cp24 :=
  { t with minuteOctet := (t.minuteOctet &&& 0x7F) ||| (if value then 0x80 else 0) }

end Cp24

/-- Two octet binary time (CP16Time2a): elapsed milliseconds. -/
structure Cp16 where
  millisecond : UInt16
deriving DecidableEq, Repr

def Cp16.make (millisecond : UInt16) : Except Fault Cp16 := do
  Quantity.elapsedMilliseconds.check millisecond.toNat 0 59999
  return ⟨millisecond⟩

end Telecontrol
