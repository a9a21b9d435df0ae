import Telecontrol.Element.TimeTag
import Telecontrol.Proofs.Calendar
import Telecontrol.Proofs.Fallible

/-!
# Time tags and calendar times

What a time tag of seven octets shows, field by field (`Cp56.Shows`), and the two ways between tags
and calendar times. A calendar time of the years 2000 to 2099 gets a tag that shows it, and the tag
gives it back, cut to milliseconds. A tag that gives a calendar time shows it; but a tag has room for
the years up to 2127, which no other part of the format admits.
-/

namespace Telecontrol

namespace Quantity

variable {what : Quantity} {value low high : Int}

lemma check_eq_ok_iff {u : Unit} :
    what.check value low high = .ok u ↔ low ≤ value ∧ value ≤ high := by
  rw [check, ite_error_eq_ok_iff]
  simp only [and_true]
  omega

end Quantity

lemma toNat_and_mask (width : Nat) {mask : UInt8} (hmask : mask.toNat = 2 ^ width - 1) (x : UInt8) :
    (x &&& mask).toNat = x.toNat % 2 ^ width := by
  rw [UInt8.toNat_and, hmask, Nat.and_two_pow_sub_one_eq_mod]

namespace Cp56

variable {tag tag' : Cp56} {t : DateTime}
variable {year month day dayOfWeek hour minute : UInt8} {millisecond : UInt16}

lemma toNat_minute (tag : Cp56) : tag.minute.toNat = tag.minuteOctet.toNat % 64 :=
  toNat_and_mask 6 rfl _

lemma toNat_hour (tag : Cp56) : tag.hour.toNat = tag.hourOctet.toNat % 32 := toNat_and_mask 5 rfl _

lemma toNat_day (tag : Cp56) : tag.day.toNat = tag.dayOctet.toNat % 32 := toNat_and_mask 5 rfl _

lemma toNat_dayOfWeek (tag : Cp56) : tag.dayOfWeek.toNat = tag.dayOctet.toNat / 32 := by
  have hlt := tag.dayOctet.toNat_lt
  rw [dayOfWeek, UInt8.toNat_ofNat']
  omega

lemma toNat_month (tag : Cp56) : tag.month.toNat = tag.monthOctet.toNat % 16 :=
  toNat_and_mask 4 rfl _

lemma toNat_year (tag : Cp56) : tag.year.toNat = tag.yearOctet.toNat % 128 := toNat_and_mask 7 rfl _

lemma toNat_dayOctet :
    (ofFields year month day dayOfWeek hour minute millisecond).dayOctet.toNat =
      day.toNat % 32 + dayOfWeek.toNat % 8 * 32 := by
  have hlow : (day &&& 0x1F).toNat = day.toNat % 2 ^ 5 := toNat_and_mask 5 rfl day
  have hbelow : day.toNat % 2 ^ 5 < 2 ^ 5 := Nat.mod_lt _ (by decide)
  have hhigh : (UInt8.ofNat (dayOfWeek.toNat % 8 * 32)).toNat = 2 ^ 5 * (dayOfWeek.toNat % 8) := by
    rw [UInt8.toNat_ofNat']
    omega
  rw [ofFields, UInt8.toNat_or, hlow, hhigh, Nat.or_comm, ← Nat.two_pow_add_eq_or_of_lt hbelow]
  omega

lemma fields_ofFields {year month day dayOfWeek hour minute : Nat} (hyear : year < 128)
    (hmonth : month < 16) (hday : day < 32) (hdayOfWeek : dayOfWeek < 8) (hhour : hour < 32)
    (hminute : minute < 64) (millisecond : UInt16) :
    let tag := ofFields (.ofNat year) (.ofNat month) (.ofNat day) (.ofNat dayOfWeek) (.ofNat hour)
      (.ofNat minute) millisecond
    tag.year.toNat = year ∧ tag.month.toNat = month ∧ tag.day.toNat = day ∧
      tag.dayOfWeek.toNat = dayOfWeek ∧ tag.hour.toNat = hour ∧ tag.minute.toNat = minute := by
  have hlow4 (x : UInt8) : (x &&& 0x0F).toNat = x.toNat % 16 := toNat_and_mask 4 rfl x
  have hlow5 (x : UInt8) : (x &&& 0x1F).toNat = x.toNat % 32 := toNat_and_mask 5 rfl x
  have hlow6 (x : UInt8) : (x &&& 0x3F).toNat = x.toNat % 64 := toNat_and_mask 6 rfl x
  have hlow7 (x : UInt8) : (x &&& 0x7F).toNat = x.toNat % 128 := toNat_and_mask 7 rfl x
  simp only [toNat_year, toNat_month, toNat_day, toNat_dayOfWeek, toNat_hour, toNat_minute,
    toNat_dayOctet]
  simp only [ofFields, hlow4, hlow5, hlow6, hlow7, UInt8.toNat_ofNat']
  omega

/-- No flag is set. -/
def Unflagged (tag : Cp56) : Prop :=
  tag.isInvalid = false ∧ tag.isSubstituted = false ∧ tag.isSummerTime = false

lemma unflagged_ofFields :
    (ofFields year month day dayOfWeek hour minute millisecond).Unflagged := by
  have hclear (x mask flag : UInt8) (h : mask &&& flag = 0) : (x &&& mask &&& flag != 0) = false := by
    rw [UInt8.and_assoc, h, UInt8.and_zero]
    rfl
  exact ⟨hclear minute 0x3F 0x80 rfl, hclear minute 0x3F 0x40 rfl, hclear hour 0x1F 0x80 rfl⟩

/-- The fields of a tag are those of a calendar time. -/
structure Shows (tag : Cp56) (t : DateTime) : Prop where
  year : 2000 + (tag.year.toNat : Int) = t.year
  month : tag.month.toNat = t.month
  day : tag.day.toNat = t.day
  hour : tag.hour.toNat = t.hour
  minute : tag.minute.toNat = t.minute
  millisecond : tag.millisecond.toNat = t.millisecond

/-- Two tags with the same date and time, whatever their flags and days of week are. -/
structure SameTime (tag tag' : Cp56) : Prop where
  year : tag.year = tag'.year
  month : tag.month = tag'.month
  day : tag.day = tag'.day
  hour : tag.hour = tag'.hour
  minute : tag.minute = tag'.minute
  millisecond : tag.millisecond = tag'.millisecond

lemma Shows.sameTime (h : tag.Shows t) (h' : tag'.Shows t) : tag.SameTime tag' where
  year := UInt8.toNat_inj.1 (by have := h.year; have := h'.year; omega)
  month := UInt8.toNat_inj.1 (h.month.trans h'.month.symm)
  day := UInt8.toNat_inj.1 (h.day.trans h'.day.symm)
  hour := UInt8.toNat_inj.1 (h.hour.trans h'.hour.symm)
  minute := UInt8.toNat_inj.1 (h.minute.trans h'.minute.symm)
  millisecond := UInt16.toNat_inj.1 (h.millisecond.trans h'.millisecond.symm)

lemma exists_ofDateTime (h : t.Valid) (hyear : 2000 ≤ t.year ∧ t.year ≤ 2099) :
    ∃ tag, ofDateTime t = .ok tag ∧ tag.Shows t ∧ tag.Unflagged ∧
      tag.dayOfWeek.toNat = Calendar.weekday t.year t.month t.day := by
  have hwindow : Quantity.year.check (t.year % 0x100000000) 2000 2099 = .ok () :=
    Quantity.check_eq_ok_iff.2 (by omega)
  obtain ⟨hfirst, hlast⟩ := Calendar.month_range h.date
  obtain ⟨-, hdays⟩ := Calendar.daysInMonth_range t.year hfirst hlast
  obtain ⟨-, hday⟩ := Calendar.isDate_iff.1 h.date
  obtain ⟨-, hweekday⟩ := Calendar.weekday_range t.year t.month t.day
  have hhour := h.hour
  have hminute := h.minute
  have hmillisecond := h.millisecond_lt
  obtain ⟨hy, hmo, hd, hdow, hh, hmi⟩ :=
    fields_ofFields (show (t.year % 100).toNat < 128 by omega) (show t.month < 16 by omega)
      (show t.day < 32 by omega) (show Calendar.weekday t.year t.month t.day < 8 by omega)
      (show t.hour < 32 by omega) (show t.minute < 64 by omega) (UInt16.ofNat t.millisecond)
  refine ⟨_, by rw [ofDateTime, hwindow, ok_bind, pure_eq_ok, h.millisecond_eq], ?_,
    unflagged_ofFields, hdow⟩
  exact
    { year := by rw [hy]; omega
      month := hmo
      day := hd
      hour := hh
      minute := hmi
      millisecond := by
        change (UInt16.ofNat t.millisecond).toNat = _
        rw [UInt16.toNat_ofNat']
        omega }

lemma ofDateTime_eq_error (h : t.Valid) (hyear : t.year < 2000 ∨ 2099 < t.year) :
    ofDateTime t = .error (.domain (.outside .year (t.year % 0x100000000) 2000 2099)) := by
  have hrange := h.year
  have houtside : t.year % 0x100000000 < 2000 ∨ 2099 < t.year % 0x100000000 := by omega
  rw [ofDateTime, Quantity.check, if_pos houtside, error_bind]

/-- The fields are those of a day of the calendar and of a time of day. -/
structure Dated (tag : Cp56) : Prop where
  date : Calendar.isDate (2000 + tag.year.toNat) tag.month.toNat tag.day.toNat
  hour : tag.hour.toNat < 24
  minute : tag.minute.toNat < 60
  millisecond : tag.millisecond.toNat < 60000

/-- The fields as a calendar time, whether or not there is such a time. -/
def shown (tag : Cp56) : DateTime :=
  ⟨2000 + tag.year.toNat, tag.month.toNat, tag.day.toNat, tag.hour.toNat, tag.minute.toNat,
    tag.millisecond.toNat / 1000, tag.millisecond.toNat % 1000 * 1000000⟩

lemma dateTime?_eq_some_iff : tag.dateTime? = some t ↔ tag.Dated ∧ tag.shown = t := by
  have hdated : tag.Dated ↔ 1 ≤ tag.month.toNat ∧ tag.month.toNat ≤ 12 ∧
      Calendar.isDate (2000 + tag.year.toNat) tag.month.toNat tag.day.toNat ∧
      tag.hour < 24 ∧ tag.minute < 60 ∧ tag.millisecond.toNat / 1000 < 60 := by
    have hhour : tag.hour < 24 ↔ tag.hour.toNat < 24 := UInt8.lt_iff_toNat_lt
    have hminute : tag.minute < 60 ↔ tag.minute.toNat < 60 := UInt8.lt_iff_toNat_lt
    rw [hhour, hminute]
    constructor
    · rintro ⟨hdate, hhour, hminute, hmillisecond⟩
      obtain ⟨hfirst, hlast⟩ := Calendar.month_range hdate
      exact ⟨hfirst, hlast, hdate, hhour, hminute, by omega⟩
    · rintro ⟨-, -, hdate, hhour, hminute, hmillisecond⟩
      exact ⟨hdate, hhour, hminute, by omega⟩
  rw [hdated, dateTime?]
  split
  · next hfields => rw [Option.some.injEq, and_iff_right hfields, shown]
  · next hfields => exact iff_of_false nofun fun h => hfields h.1

lemma dateTime?_eq_none_iff : tag.dateTime? = none ↔ ¬tag.Dated := by
  rw [← Option.not_isSome_iff_eq_none, Option.isSome_iff_exists, not_iff_not]
  exact ⟨fun ⟨_, h⟩ => (dateTime?_eq_some_iff.1 h).1, fun h => ⟨_, dateTime?_eq_some_iff.2 ⟨h, rfl⟩⟩⟩

lemma Shows.dateTime? (h : tag.Shows t) (hvalid : t.Valid) : tag.dateTime? = some t.truncated := by
  rw [dateTime?_eq_some_iff, t.truncated_eq]
  constructor
  · exact
      { date := by rw [h.year, h.month, h.day]; exact hvalid.date
        hour := by rw [h.hour]; exact hvalid.hour
        minute := by rw [h.minute]; exact hvalid.minute
        millisecond := by rw [h.millisecond]; exact hvalid.millisecond_lt }
  · rw [shown, h.year, h.month, h.day, h.hour, h.minute, h.millisecond]

lemma shows_of_dateTime? (h : tag.dateTime? = some t) : t.Valid ∧ tag.Shows t := by
  obtain ⟨hdated, rfl⟩ := dateTime?_eq_some_iff.1 h
  have hyear := tag.year.toNat_lt
  have hmillisecond := hdated.millisecond
  have hwhole : tag.shown.nanosecond < 1000000000 := by
    simp only [shown]
    omega
  constructor
  · exact
      { year := by simp only [shown]; omega
        date := hdated.date
        hour := hdated.hour
        minute := hdated.minute
        second := by simp only [shown]; omega
        nanosecond := .inl hwhole }
  · refine ⟨rfl, rfl, rfl, rfl, rfl, ?_⟩
    rw [DateTime.millisecond, if_neg (show ¬tag.shown.IsLeap from Nat.not_le.2 hwhole)]
    simp only [shown]
    omega

/-- A calendar time of the years 2000 to 2099 gets a tag with its date and time to the millisecond,
a leap second as the last millisecond of its minute, with its day of the week and no flags, and the
tag gives it back, cut to the millisecond. A time of any other year is refused. -/
theorem ofDateTime_faithful (h : t.Valid) {weekday : Int → Nat → Nat → Nat}
    (hweekday : Calendar.IsWeekday weekday) :
    (t.year < 2000 ∨ 2099 < t.year →
      ofDateTime t = .error (.domain (.outside .year (t.year % 0x100000000) 2000 2099))) ∧
    (2000 ≤ t.year ∧ t.year ≤ 2099 → ∃ tag, ofDateTime t = .ok tag ∧ tag.Shows t ∧ tag.Unflagged ∧
      (tag.dayOfWeek.toNat = weekday t.year t.month t.day ∧ 1 ≤ tag.dayOfWeek.toNat ∧
        tag.dayOfWeek.toNat ≤ 7) ∧
      tag.dateTime? = some t.truncated) := by
  refine ⟨ofDateTime_eq_error h, fun hyear => ?_⟩
  obtain ⟨tag, hmade, hshows, hflags, hday⟩ := exists_ofDateTime h hyear
  have hnumber := Calendar.isWeekday_weekday.unique hweekday h.date hyear.1
  refine ⟨tag, hmade, hshows, hflags, ⟨hday.trans hnumber, ?_⟩, hshows.dateTime? h⟩
  rw [hday]
  exact Calendar.weekday_range _ _ _

/-- Half a second into the leap second at the end of 2016, a Saturday. -/
theorem ofDateTime_faithful_leapSecond :
    DateTime.Valid ⟨2016, 12, 31, 23, 59, 59, 1500000000⟩ ∧
      ∃ tag, ofDateTime ⟨2016, 12, 31, 23, 59, 59, 1500000000⟩ = .ok tag ∧
        tag.millisecond.toNat = 59999 ∧ tag.dayOfWeek.toNat = 6 ∧
        tag.dateTime? = some ⟨2016, 12, 31, 23, 59, 59, 999000000⟩ := by
  have hvalid : DateTime.Valid ⟨2016, 12, 31, 23, 59, 59, 1500000000⟩ :=
    ⟨by decide, by decide, by decide, by decide, by decide, by decide⟩
  obtain ⟨tag, hmade, hshows, -, ⟨hday, -⟩, hback⟩ :=
    (ofDateTime_faithful hvalid Calendar.isWeekday_weekday).2 (by decide)
  exact ⟨hvalid, tag, hmade, hshows.millisecond, hday, hback⟩

/-- The fields of a tag, given to the constructor. -/
def remade (tag : Cp56) : Except Fault Cp56 :=
  make tag.year tag.month tag.day tag.hour tag.minute tag.millisecond

lemma exists_make_iff :
    (∃ made, make year month day hour minute millisecond = .ok made) ↔
      year.toNat ≤ 99 ∧ (1 ≤ month.toNat ∧ month.toNat ≤ 12) ∧ (1 ≤ day.toNat ∧ day.toNat ≤ 31) ∧
        hour.toNat ≤ 23 ∧ minute.toNat ≤ 59 ∧ millisecond.toNat ≤ 59999 := by
  simp only [make, bind_eq_ok_iff, Quantity.check_eq_ok_iff, pure_eq_ok, Except.ok.injEq,
    exists_and_left, exists_const, exists_eq', and_true]
  omega

lemma Dated.exists_make (h : tag.Dated) (hyear : year.toNat ≤ 99) :
    ∃ made, make year tag.month tag.day tag.hour tag.minute tag.millisecond = .ok made := by
  obtain ⟨hfirst, hlast⟩ := Calendar.month_range h.date
  obtain ⟨-, hdays⟩ := Calendar.daysInMonth_range (2000 + tag.year.toNat) hfirst hlast
  obtain ⟨hday, hday'⟩ := Calendar.isDate_iff.1 h.date
  have hhour := h.hour
  have hminute := h.minute
  have hmillisecond := h.millisecond
  exact exists_make_iff.2 ⟨hyear, ⟨hfirst, hlast⟩, ⟨hday, by omega⟩, by omega, by omega, by omega⟩

/-- A tag whose year is one of its century gives a calendar time only if the constructor takes its
fields; the time then gets a tag again, which shows the same. Of a later year the tag may give a
calendar time as well, but neither the constructor nor `ofDateTime` takes it. -/
theorem dateTime_returns (tag : Cp56) :
    (tag.year.toNat ≤ 99 → ∀ t, tag.dateTime? = some t → (∃ made, tag.remade = .ok made) ∧
      ∃ back, ofDateTime t = .ok back ∧ back.SameTime tag) ∧
    (tag.year.toNat ≤ 99 → ∀ f, tag.remade = .error f → tag.dateTime? = none) ∧
    (¬Calendar.isDate (2000 + tag.year.toNat) tag.month.toNat tag.day.toNat →
      tag.dateTime? = none) ∧
    (99 < tag.year.toNat →
      tag.remade = .error (.domain (.outside .year tag.year.toNat 0 99)) ∧
      ∀ t, tag.dateTime? = some t →
        ofDateTime t = .error (.domain (.outside .year t.year 2000 2099)) ∧
        ∃ made, make 0 tag.month tag.day tag.hour tag.minute tag.millisecond = .ok made) := by
  refine ⟨fun hyear t ht => ?_, fun hyear f hf => ?_, fun hdate => ?_, fun hyear => ⟨?_, fun t ht => ?_⟩⟩
  · obtain ⟨hvalid, hshows⟩ := shows_of_dateTime? ht
    have hcentury := hshows.year
    obtain ⟨back, hback, hshows', -⟩ := exists_ofDateTime hvalid (by omega)
    exact ⟨(dateTime?_eq_some_iff.1 ht).1.exists_make hyear, back, hback, hshows'.sameTime hshows⟩
  · rw [dateTime?_eq_none_iff]
    intro hdated
    obtain ⟨made, hmade⟩ := hdated.exists_make hyear
    exact nomatch hf.symm.trans hmade
  · rw [dateTime?_eq_none_iff]
    exact fun hdated => hdate hdated.date
  · rw [remade, make, Quantity.check, if_pos (.inr (by omega)), error_bind]
  · obtain ⟨hvalid, hshows⟩ := shows_of_dateTime? ht
    have hcentury := hshows.year
    have hrange := hvalid.year
    have hrefused := ofDateTime_eq_error hvalid (.inr (by omega))
    rw [Int.emod_eq_of_lt (by omega) (by omega)] at hrefused
    exact ⟨hrefused, (dateTime?_eq_some_iff.1 ht).1.exists_make (Nat.zero_le 99)⟩

/-- The last day of February in a leap year, in summer time and marked as invalid, and the day
behind it, which is none. -/
theorem dateTime_returns_leapDay :
    (∃ back, ofDateTime ⟨2024, 2, 29, 23, 59, 59, 999000000⟩ = .ok back ∧
      back.SameTime ⟨59999, 0xbb, 0x97, 29, 2, 24⟩) ∧
      dateTime? ⟨59999, 0xbb, 0x97, 30, 2, 24⟩ = none := by
  have hleapDay : dateTime? ⟨59999, 0xbb, 0x97, 29, 2, 24⟩ =
      some ⟨2024, 2, 29, 23, 59, 59, 999000000⟩ := by decide
  obtain ⟨-, hback⟩ := (dateTime_returns _).1 (by decide) _ hleapDay
  exact ⟨hback, (dateTime_returns _).2.2.1 (by decide)⟩

/-- The first day of 2100. -/
theorem year_beyond_century :
    let tag : Cp56 := ⟨0, 0, 0, 1, 1, 100⟩
    tag.dateTime? = some ⟨2100, 1, 1, 0, 0, 0, 0⟩ ∧
      tag.remade = .error (.domain (.outside .year 100 0 99)) ∧
      ofDateTime ⟨2100, 1, 1, 0, 0, 0, 0⟩ = .error (.domain (.outside .year 2100 2000 2099)) := by
  decide

end Cp56

end Telecontrol
