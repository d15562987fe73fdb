import LinkWarden.Proofs.Time.Calendar
import LinkWarden.Proofs.Time.Digits

/-!
# The reading of a clock

The text of a point in time has one number for each of year, month, day, hour, minute and second,
and then a fraction. A point in time is proper if its leap second, if it lies in one, is the second
60 of a minute; only then can the reading of the seconds tell.

* `Timestamp.secondText_eq` names the numbers, and `Timestamp.second_lt` and others bound them.
* Points in time with the same reading are the same (`Timestamp.eq_of_reading`).
* Of two points in time, the one with the earlier millisecond has the earlier reading: it is smaller
  in the first number in which the two differ (`Timestamp.day_lt_or_readsBefore`).
-/

namespace LinkWarden.Timestamp

/-- The nanoseconds are in their range, and a leap second is at the end of a minute. -/
structure IsProper (t : Timestamp) : Prop where
  nanoseconds_lt : t.nanoseconds < 2000000000
  atEndOfMinute : t.isLeap → t.secondOfDay % 60 = 59

/-! ### The numbers -/

/-- The year of the date. -/
def year (t : Timestamp) : Int := (Date.ofDay t.day).year

/-- The hour of the day. -/
def hour (t : Timestamp) : Nat := t.secondOfDay / 3600

/-- The minute of the hour. -/
def minute (t : Timestamp) : Nat := t.secondOfDay / 60 % 60

/-- The second of the minute; a leap second is the second 60. -/
def second (t : Timestamp) : Nat := t.secondOfDay % 60 + if t.isLeap then 1 else 0

/-- The text has all six numbers, to the second. -/
theorem secondText_eq (t : Timestamp) :
    t.secondText = (Date.ofDay t.day).text ++ 'T' :: Duration.padded 2 t.hour ++
      ':' :: Duration.padded 2 t.minute ++ ':' :: Duration.padded 2 t.second := rfl

variable {t u : Timestamp}

/-- Seconds are those of whole days and of the present one. -/
theorem seconds_eq (t : Timestamp) : t.seconds = 86400 * t.day + t.secondOfDay := by
  have hmod := Int.fmod_nonneg_of_pos t.seconds (show 0 < daySeconds by decide)
  have hsum := Int.mul_fdiv_add_fmod t.seconds daySeconds
  unfold day secondOfDay daySeconds at *
  omega

/-- A day has 86400 seconds. -/
theorem secondOfDay_lt (t : Timestamp) : t.secondOfDay < 86400 := by
  have hmod := Int.fmod_lt_of_pos t.seconds (show 0 < daySeconds by decide)
  unfold secondOfDay daySeconds at *
  omega

/-- So a day has 24 hours. -/
theorem hour_lt (t : Timestamp) : t.hour < 24 := by
  have := t.secondOfDay_lt
  unfold hour
  omega

/-- An hour has 60 minutes. -/
theorem minute_lt (t : Timestamp) : t.minute < 60 := Nat.mod_lt _ (by decide)

/-- A minute has 61 seconds at most, with a leap second at its end. -/
theorem second_lt (t : Timestamp) : t.second < 61 := by
  unfold second
  split <;> omega

/-- What is left of a proper time is less than a second. -/
theorem fraction_lt (ht : t.IsProper) : t.fraction < 1000000000 := by
  have hlt := ht.nanoseconds_lt
  unfold fraction isLeap
  split
  · omega
  · simp_all

/-- Nanoseconds are those of the fraction, after a whole second if it is a leap second. -/
theorem nanoseconds_eq (t : Timestamp) :
    t.nanoseconds = (if t.isLeap then 1000000000 else 0) + t.fraction := by
  unfold fraction isLeap
  split <;> simp_all

/-- The hour and the minute make up the second of the day, with the reading of the seconds. -/
theorem secondOfDay_eq (t : Timestamp) :
    t.secondOfDay + (if t.isLeap then 1 else 0) = 3600 * t.hour + 60 * t.minute + t.second := by
  unfold hour minute second
  omega

/-- Only a leap second reads 60. -/
theorem isLeap_iff (ht : t.IsProper) : t.isLeap ↔ t.second = 60 := by
  unfold second
  constructor
  · intro h
    rw [ht.atEndOfMinute h, if_pos h]
  · intro h
    by_contra hnot
    rw [if_neg hnot] at h
    omega

/-- **Points in time with the same reading are the same.** -/
theorem eq_of_reading (ht : t.IsProper) (hu : u.IsProper) (hday : t.day = u.day)
    (hhour : t.hour = u.hour) (hminute : t.minute = u.minute) (hsecond : t.second = u.second)
    (hfraction : t.fraction = u.fraction) : t = u := by
  have hleap : t.isLeap = u.isLeap := by
    rw [Bool.eq_iff_iff, isLeap_iff ht, isLeap_iff hu, hsecond]
  have hseconds : t.seconds = u.seconds := by
    have ht' := t.secondOfDay_eq
    have hu' := u.secondOfDay_eq
    rw [hleap] at ht'
    rw [seconds_eq t, seconds_eq u]
    omega
  have hnanoseconds : t.nanoseconds = u.nanoseconds := by
    rw [nanoseconds_eq t, nanoseconds_eq u, hleap, hfraction]
  cases t
  cases u
  simp_all

/-! ### Order -/

/-- The first point in time is earlier; a leap second comes after the second that it prolongs. -/
def IsBefore (t u : Timestamp) : Prop :=
  t.seconds < u.seconds ∨ t.seconds = u.seconds ∧ t.nanoseconds < u.nanoseconds

/-- The point in time cut off to the millisecond. -/
def toMillis (t : Timestamp) : Timestamp :=
  { t with nanoseconds := t.nanoseconds / 1000000 * 1000000 }

/-- Of two points in time one is the earlier one, or they are the same. -/
theorem isBefore_trichotomy (t u : Timestamp) : t.IsBefore u ∨ t = u ∨ u.IsBefore t := by
  cases t
  cases u
  simp only [IsBefore, Timestamp.mk.injEq]
  omega

/-- The fraction cut off to the millisecond, together with the mark of a leap second. -/
theorem nanoseconds_div_eq (t : Timestamp) :
    t.nanoseconds / 1000000 = (if t.isLeap then 1000 else 0) + t.fraction / 1000000 := by
  rw [nanoseconds_eq]
  split <;> omega

/-- Later minutes of a day have a later reading. -/
theorem hour_minute_lt (h : t.secondOfDay / 60 < u.secondOfDay / 60) :
    t.hour < u.hour ∨ t.hour = u.hour ∧ t.minute < u.minute := by
  unfold hour minute
  omega

/-- The same minute of a day has the same reading. -/
theorem hour_minute_eq (h : t.secondOfDay / 60 = u.secondOfDay / 60) :
    t.hour = u.hour ∧ t.minute = u.minute := by
  unfold hour minute
  omega

/-- In the same minute a later second has a later reading, since a leap second comes last. -/
theorem second_lt_second (ht : t.IsProper) (hminute : t.secondOfDay / 60 = u.secondOfDay / 60)
    (h : t.secondOfDay < u.secondOfDay) : t.second < u.second := by
  have hleap : t.isLeap = false := by
    by_contra hnot
    have := ht.atEndOfMinute (by simpa using hnot)
    omega
  unfold second
  rw [hleap]
  simp only [Bool.false_eq_true, if_false]
  omega

/-- In the same second a later millisecond has a later reading: those of a leap second count a
thousand more, and it reads one second more. -/
theorem second_lt_or_fraction_lt (hu : u.IsProper) (hsame : t.secondOfDay = u.secondOfDay)
    (h : t.nanoseconds / 1000000 < u.nanoseconds / 1000000) :
    t.second < u.second ∨
      t.second = u.second ∧ t.fraction / 1000000 < u.fraction / 1000000 := by
  have hfraction := fraction_lt hu
  rw [nanoseconds_div_eq, nanoseconds_div_eq] at h
  unfold second
  rw [hsame]
  cases htleap : t.isLeap <;> cases huleap : u.isLeap <;>
    simp only [htleap, huleap, Bool.false_eq_true, if_true, if_false, true_and] at h ⊢ <;>
    omega

/-- On the same day the first reading is earlier, to the millisecond. -/
def ReadsBefore (t u : Timestamp) : Prop :=
  t.hour < u.hour ∨ t.hour = u.hour ∧ (t.minute < u.minute ∨ t.minute = u.minute ∧
    (t.second < u.second ∨ t.second = u.second ∧ t.fraction / 1000000 < u.fraction / 1000000))

/-- A later second of the day has a later reading. -/
theorem readsBefore_of_lt (ht : t.IsProper) (h : t.secondOfDay < u.secondOfDay) :
    t.ReadsBefore u := by
  by_cases hlater : t.secondOfDay / 60 < u.secondOfDay / 60
  · exact (hour_minute_lt hlater).imp_right fun ⟨hhour, hminute⟩ => ⟨hhour, .inl hminute⟩
  · have hsame : t.secondOfDay / 60 = u.secondOfDay / 60 := by omega
    obtain ⟨hhour, hminute⟩ := hour_minute_eq hsame
    exact .inr ⟨hhour, .inr ⟨hminute, .inl (second_lt_second ht hsame h)⟩⟩

/-- So has a later millisecond of the same second. -/
theorem readsBefore_of_eq (hu : u.IsProper) (hsame : t.secondOfDay = u.secondOfDay)
    (h : t.nanoseconds / 1000000 < u.nanoseconds / 1000000) : t.ReadsBefore u := by
  obtain ⟨hhour, hminute⟩ := hour_minute_eq (congrArg (· / 60) hsame)
  exact .inr ⟨hhour, .inr ⟨hminute, second_lt_or_fraction_lt hu hsame h⟩⟩

/-- **To the millisecond, an earlier point in time has an earlier reading.** -/
theorem day_lt_or_readsBefore (ht : t.IsProper) (hu : u.IsProper)
    (h : t.toMillis.IsBefore u.toMillis) : t.day < u.day ∨ t.day = u.day ∧ t.ReadsBefore u := by
  have htday := t.seconds_eq
  have huday := u.seconds_eq
  have htlt := t.secondOfDay_lt
  have hult := u.secondOfDay_lt
  rcases h with hseconds | ⟨hseconds, hnanoseconds⟩
  · have hearlier : t.seconds < u.seconds := hseconds
    by_cases hday : t.day < u.day
    · exact .inl hday
    · exact .inr ⟨by omega, readsBefore_of_lt ht (by omega)⟩
  · have hsame : t.seconds = u.seconds := hseconds
    have hday : t.day = u.day := congrArg (Int.fdiv · daySeconds) hsame
    exact .inr ⟨hday, readsBefore_of_eq hu (by omega) (Nat.lt_of_mul_lt_mul_right hnanoseconds)⟩

end LinkWarden.Timestamp
