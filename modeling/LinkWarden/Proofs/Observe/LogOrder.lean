import LinkWarden.Observe.Record
import LinkWarden.Proofs.Time.Clock

/-!
# Lines of the log sort by time

The line of a record begins with its time in brackets, its *stamp*. As long as years have four
digits, all numbers in a stamp stand at the same places, the larger unit before the smaller one.

* An earlier date has a smaller text (`Date.text_lt_text`), and so has an earlier time, to the
  millisecond (`Timestamp.millisText_lt`): the first number in which two readings differ decides
  both orders.
* **Main statement** (`Record.stamps_sort_by_time`): stamps have the same length and compare as the
  times do, and so lines of the log that are sorted as texts are sorted by time.
-/

namespace LinkWarden

open Duration

/-! ### Dates -/

namespace Date

/-- The year has four digits and no sign, and the other numbers have two digits. -/
structure IsPlain (d : Date) : Prop where
  year_nonneg : 0 ≤ d.year
  year_le : d.year ≤ 9999
  month_lt : d.month < 100
  day_lt : d.day < 100

variable {d e : Date}

/-- A plain year has at most four digits. -/
theorem IsPlain.natAbs_lt (hd : d.IsPlain) : d.year.natAbs < 10 ^ 4 := by
  obtain ⟨hnonneg, hle, -, -⟩ := hd
  omega

/-- So a plain date is written without a sign. -/
theorem IsPlain.text_eq (hd : d.IsPlain) :
    d.text = padded 4 d.year.natAbs ++ '-' :: (padded 2 d.month ++ '-' :: padded 2 d.day) := by
  obtain ⟨hnonneg, hle, -, -⟩ := hd
  unfold text yearText
  rw [if_neg (by omega), if_neg (by omega), List.append_assoc, List.cons_append]

/-- All plain dates are ten characters long. -/
theorem IsPlain.length_text (hd : d.IsPlain) : d.text.length = 10 := by
  rw [hd.text_eq]
  simp only [List.length_append, List.length_cons]
  rw [length_padded (by decide) hd.natAbs_lt, length_padded (by decide) hd.month_lt,
    length_padded (by decide) hd.day_lt]

/-- **An earlier date has a smaller text.** -/
theorem text_lt_text (hd : d.IsPlain) (he : e.IsPlain) (h : d.IsBefore e) : d.text < e.text := by
  rw [hd.text_eq, he.text_eq]
  apply padded_append_lt (by decide) hd.natAbs_lt he.natAbs_lt
  rcases h with hyear | ⟨hyear, hrest⟩
  · have := hd.year_nonneg
    exact .inl (by omega)
  · refine .inr ⟨congrArg Int.natAbs hyear, List.cons_lt_cons_self.mpr ?_⟩
    apply padded_append_lt (by decide) hd.month_lt he.month_lt
    rcases hrest with hmonth | ⟨hmonth, hday⟩
    · exact .inl hmonth
    · exact .inr ⟨hmonth, List.cons_lt_cons_self.mpr
        (padded_lt_padded (by decide) hday he.day_lt)⟩

end Date

/-! ### Times -/

namespace Timestamp

/-- The year has four digits and no sign. -/
def HasPlainYear (t : Timestamp) : Prop := 0 ≤ t.year ∧ t.year ≤ 9999

/-- What follows the date: hour, minute, second and millisecond. -/
def clockText (t : Timestamp) : List Char :=
  padded 2 t.hour ++ ':' :: (padded 2 t.minute ++ ':' :: (padded 2 t.second ++ '.' ::
    (padded 3 (t.fraction / 1000000) ++ ['Z'])))

variable {t u : Timestamp}

/-- The text of a time is its date and its clock. -/
theorem millisText_eq (t : Timestamp) :
    t.millisText.toList = (Date.ofDay t.day).text ++ 'T' :: t.clockText := by
  unfold millisText clockText
  rw [String.toList_ofList, secondText_eq]
  simp only [List.append_assoc, List.cons_append]

/-- A day of a plain year is a plain date. -/
theorem HasPlainYear.isPlain (hy : t.HasPlainYear) : (Date.ofDay t.day).IsPlain where
  year_nonneg := hy.1
  year_le := hy.2
  month_lt := by
    have := Date.month_ofDay t.day
    omega
  day_lt := by
    have := Date.day_ofDay t.day
    omega

/-- An hour has two digits. -/
theorem hour_lt_pow (t : Timestamp) : t.hour < 10 ^ 2 := t.hour_lt.trans (by decide)

/-- A minute has two digits. -/
theorem minute_lt_pow (t : Timestamp) : t.minute < 10 ^ 2 := t.minute_lt.trans (by decide)

/-- A second has two digits, also a leap second. -/
theorem second_lt_pow (t : Timestamp) : t.second < 10 ^ 2 := t.second_lt.trans (by decide)

/-- Milliseconds have three, also those of a leap second. -/
theorem millis_lt_pow (ht : t.IsProper) : t.fraction / 1000000 < 10 ^ 3 :=
  Nat.div_lt_of_lt_mul (fraction_lt ht)

/-- All texts of times in plain years are of one length. -/
theorem length_millisText (ht : t.IsProper) (hy : t.HasPlainYear) : t.millisText.length = 24 := by
  rw [← String.length_toList, millisText_eq, List.length_append, hy.isPlain.length_text]
  unfold clockText
  simp only [List.length_append, List.length_cons, List.length_nil]
  rw [length_padded (by decide) t.hour_lt_pow, length_padded (by decide) t.minute_lt_pow,
    length_padded (by decide) t.second_lt_pow, length_padded (by decide) (millis_lt_pow ht)]

/-- On the same day the reading of the clock decides. -/
theorem clockText_lt (ht : t.IsProper) (hu : u.IsProper) (h : t.ReadsBefore u) :
    t.clockText < u.clockText := by
  apply padded_append_lt (by decide) t.hour_lt_pow u.hour_lt_pow
  refine h.imp_right fun ⟨hhour, h⟩ => ⟨hhour, List.cons_lt_cons_self.mpr ?_⟩
  apply padded_append_lt (by decide) t.minute_lt_pow u.minute_lt_pow
  refine h.imp_right fun ⟨hminute, h⟩ => ⟨hminute, List.cons_lt_cons_self.mpr ?_⟩
  apply padded_append_lt (by decide) t.second_lt_pow u.second_lt_pow
  refine h.imp_right fun ⟨hsecond, h⟩ => ⟨hsecond, List.cons_lt_cons_self.mpr ?_⟩
  exact padded_append_lt (by decide) (millis_lt_pow ht) (millis_lt_pow hu) (.inl h)

/-- **An earlier time, to the millisecond, has a smaller text.** -/
theorem millisText_lt (ht : t.IsProper) (hu : u.IsProper) (hty : t.HasPlainYear)
    (huy : u.HasPlainYear) (h : t.toMillis.IsBefore u.toMillis) : t.millisText < u.millisText := by
  rw [String.lt_iff, millisText_eq, millisText_eq]
  rcases day_lt_or_readsBefore ht hu h with hday | ⟨hday, hclock⟩
  · apply append_lt_append (hty.isPlain.length_text.trans huy.isPlain.length_text.symm)
    exact Date.text_lt_text hty.isPlain huy.isPlain (Date.isBefore_ofDay hday)
  · rw [hday]
    exact List.append_left_lt (List.cons_lt_cons_self.mpr (clockText_lt ht hu hclock))

/-- The text to the millisecond does not depend on what is cut off. -/
theorem millisText_congr (h : t.toMillis = u.toMillis) : t.millisText = u.millisText := by
  obtain ⟨hseconds, hnanoseconds⟩ := Timestamp.mk.inj h
  have hmillis : t.nanoseconds / 1000000 = u.nanoseconds / 1000000 :=
    Nat.eq_of_mul_eq_mul_right (by decide) hnanoseconds
  have hleap : t.isLeap = u.isLeap := by
    unfold isLeap
    rw [decide_eq_decide]
    omega
  have hfraction : t.fraction / 1000000 = u.fraction / 1000000 := by
    rw [nanoseconds_div_eq, nanoseconds_div_eq, hleap] at hmillis
    omega
  unfold millisText secondText day secondOfDay
  rw [hseconds, hleap, hfraction]

end Timestamp

/-! ### Lines of the log -/

namespace Record

/-- The time in brackets at the beginning of a line. -/
def stamp (r : Record) : String := "[" ++ r.time.millisText ++ "]"

variable {r s : Record}

/-- A line of the log is its stamp and then what happened. -/
theorem text_eq_stamp (r : Record) : r.text = r.stamp ++ (" " ++ r.summary) := by
  unfold text stamp
  simp only [String.append_assoc]
  rfl

/-- A stamp is the text of the time in brackets. -/
theorem toList_stamp (r : Record) : r.stamp.toList = '[' :: r.time.millisText.toList ++ [']'] := by
  unfold stamp
  rw [String.toList_append, String.toList_append]
  rfl

/-- So all stamps of plain years are of one length. -/
theorem length_stamp (hr : r.time.IsProper) (hry : r.time.HasPlainYear) : r.stamp.length = 26 := by
  rw [← String.length_toList, toList_stamp, List.length_append, List.length_cons,
    String.length_toList, Timestamp.length_millisText hr hry]
  rfl

/-- Records of one millisecond have the same stamp. -/
theorem stamp_congr (h : r.time.toMillis = s.time.toMillis) : r.stamp = s.stamp := by
  unfold stamp
  rw [Timestamp.millisText_congr h]

/-- What follows stamps of the same length cannot turn their order. -/
theorem stamp_append_lt (hr : r.time.IsProper) (hs : s.time.IsProper) (hry : r.time.HasPlainYear)
    (hsy : s.time.HasPlainYear) (h : r.time.toMillis.IsBefore s.time.toMillis) (a b : String) :
    r.stamp ++ a < s.stamp ++ b := by
  have htext := String.lt_iff.mp (Timestamp.millisText_lt hr hs hry hsy h)
  have hlength : r.time.millisText.toList.length = s.time.millisText.toList.length := by
    rw [String.length_toList, String.length_toList, Timestamp.length_millisText hr hry,
      Timestamp.length_millisText hs hsy]
  rw [String.lt_iff, String.toList_append, String.toList_append, toList_stamp, toList_stamp]
  simp only [List.append_assoc, List.cons_append, List.cons_lt_cons_self]
  exact append_lt_append hlength htext _ _

/-- An earlier millisecond has the smaller stamp. -/
theorem stamp_lt (hr : r.time.IsProper) (hs : s.time.IsProper) (hry : r.time.HasPlainYear)
    (hsy : s.time.HasPlainYear) (h : r.time.toMillis.IsBefore s.time.toMillis) :
    r.stamp < s.stamp := by
  simpa using stamp_append_lt hr hs hry hsy h "" ""

/-- Since one of two times is the earlier one, stamps are in no other order. -/
theorem stamp_lt_iff (hr : r.time.IsProper) (hs : s.time.IsProper) (hry : r.time.HasPlainYear)
    (hsy : s.time.HasPlainYear) :
    r.stamp < s.stamp ↔ r.time.toMillis.IsBefore s.time.toMillis := by
  refine ⟨fun h => ?_, stamp_lt hr hs hry hsy⟩
  rcases Timestamp.isBefore_trichotomy r.time.toMillis s.time.toMillis with hlt | heq | hgt
  · exact hlt
  · rw [stamp_congr heq] at h
    exact absurd h (String.lt_irrefl _)
  · exact absurd h (String.lt_asymm (stamp_lt hs hr hsy hry hgt))

/-- Stamps are the same only for records of one millisecond. -/
theorem stamp_eq_iff (hr : r.time.IsProper) (hs : s.time.IsProper) (hry : r.time.HasPlainYear)
    (hsy : s.time.HasPlainYear) :
    r.stamp = s.stamp ↔ r.time.toMillis = s.time.toMillis := by
  refine ⟨fun h => ?_, stamp_congr⟩
  rcases Timestamp.isBefore_trichotomy r.time.toMillis s.time.toMillis with hlt | heq | hgt
  · have hstamps := stamp_lt hr hs hry hsy hlt
    rw [h] at hstamps
    exact absurd hstamps (String.lt_irrefl _)
  · exact heq
  · have hstamps := stamp_lt hs hr hsy hry hgt
    rw [h] at hstamps
    exact absurd hstamps (String.lt_irrefl _)

/-- **Lines of the log sort by time.** Take two records with proper times in the years 0 to 9999.

* A line begins with the stamp of its record, and all stamps have the same length.
* Compared as texts, one stamp comes before the other just if its time does, both times being cut
  off to the millisecond, and the stamps are equal just if the milliseconds are.
* So a line with an earlier millisecond comes before the other one. -/
theorem stamps_sort_by_time (hr : r.time.IsProper) (hs : s.time.IsProper)
    (hry : r.time.HasPlainYear) (hsy : s.time.HasPlainYear) :
    (r.text = r.stamp ++ (" " ++ r.summary) ∧ r.stamp.length = 26 ∧ s.stamp.length = 26) ∧
      (r.stamp < s.stamp ↔ r.time.toMillis.IsBefore s.time.toMillis) ∧
      (r.stamp = s.stamp ↔ r.time.toMillis = s.time.toMillis) ∧
      (r.time.toMillis.IsBefore s.time.toMillis → r.text < s.text) := by
  refine ⟨⟨text_eq_stamp r, length_stamp hr hry, length_stamp hs hsy⟩, stamp_lt_iff hr hs hry hsy,
    stamp_eq_iff hr hs hry hsy, fun h => ?_⟩
  rw [text_eq_stamp, text_eq_stamp]
  exact stamp_append_lt hr hs hry hsy h _ _

/-- A leap second at the end of a year and the beginning of the next one, where every number of the
stamp changes. -/
theorem stamps_sort_by_time_newYear :
    let r : Record := ⟨"WifiLink", "CONNECTING", "CONNECTED", ⟨1483228799, 1999999999⟩⟩
    let s : Record := ⟨"WifiLink", "CONNECTED", "DISCONNECTED", ⟨1483228800, 999999⟩⟩
    r.time.IsProper ∧ s.time.IsProper ∧ r.time.HasPlainYear ∧ s.time.HasPlainYear ∧
      r.stamp = "[2016-12-31T23:59:60.999Z]" ∧ s.stamp = "[2017-01-01T00:00:00.000Z]" ∧
      r.stamp < s.stamp ∧ r.text < s.text := by
  intro r s
  have hr : r.time.IsProper := ⟨by decide, by decide⟩
  have hs : s.time.IsProper := ⟨by decide, by decide⟩
  have hry : r.time.HasPlainYear := by unfold Timestamp.HasPlainYear; decide
  have hsy : s.time.HasPlainYear := by unfold Timestamp.HasPlainYear; decide
  have hbefore : r.time.toMillis.IsBefore s.time.toMillis := .inl (by decide)
  obtain ⟨-, hstamps, -, hlines⟩ := stamps_sort_by_time hr hs hry hsy
  exact ⟨hr, hs, hry, hsy, by decide, by decide, hstamps.mpr hbefore, hlines hbefore⟩

end Record

end LinkWarden
