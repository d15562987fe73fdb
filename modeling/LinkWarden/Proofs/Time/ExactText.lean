import LinkWarden.Proofs.Time.Clock

/-!
# A time is known from its exact text

The exact text of a time has years of any length and a fraction in groups of three digits, so its
numbers stand at no fixed places. But each of them ends where something else than a digit follows,
and the sign of a year is all that stands before its digits (`Date.yearText_append_inj`). The number
of digits of the fraction says what they count (`Timestamp.fractionOf_exactFraction`).

**Main statement** (`Timestamp.exactText_inj`): two proper times with the same exact text are the
same.
-/

namespace LinkWarden

open Duration

/-! ### Dates -/

namespace Date

/-- What stands before the digits of a year. -/
def yearSign (year : Int) : List Char :=
  if year < 0 then ['-'] else if 9999 < year then ['+'] else []

/-- A year is its sign and then its digits. -/
theorem yearText_eq (year : Int) : yearText year = yearSign year ++ padded 4 year.natAbs := by
  unfold yearText yearSign
  split
  · rfl
  · split <;> rfl

/-- No sign can be taken for a digit. -/
theorem not_isDigit_of_mem_yearSign {year : Int} {c : Char} (h : c ∈ yearSign year) :
    c.isDigit = false := by
  unfold yearSign at h
  split at h
  · rw [List.mem_singleton.mp h]
    rfl
  · split at h
    · rw [List.mem_singleton.mp h]
      rfl
    · cases h

/-- Only a year before the year 0 has a minus. -/
theorem yearSign_eq_iff (year : Int) : yearSign year = ['-'] ↔ year < 0 := by
  unfold yearSign
  split
  · exact iff_of_true rfl ‹_›
  · split <;> exact iff_of_false (by decide) ‹_›

/-- The sign is read off before the first digit. -/
theorem takeWhile_yearText_append (year : Int) (s : List Char) :
    (yearText year ++ s).takeWhile (fun c => !c.isDigit) = yearSign year := by
  obtain ⟨c, ds, hds⟩ := List.exists_cons_of_ne_nil (padded_ne_nil 4 year.natAbs)
  have hc : c.isDigit := isDigit_of_mem_padded (hds ▸ List.mem_cons_self)
  rw [yearText_eq, List.append_assoc, List.takeWhile_append_of_pos, hds, List.cons_append,
    List.takeWhile_cons_of_neg (by simp [hc]), List.append_nil]
  intro d hd
  simp [not_isDigit_of_mem_yearSign hd]

/-- **A year ends where something else than a digit follows.** -/
theorem yearText_append_inj {y z : Int} {c d : Char} {s t : List Char} (hc : c.isDigit = false)
    (hd : d.isDigit = false) (h : yearText y ++ c :: s = yearText z ++ d :: t) :
    y = z ∧ c :: s = d :: t := by
  have hsign : yearSign y = yearSign z := by
    rw [← takeWhile_yearText_append y (c :: s), h, takeWhile_yearText_append]
  rw [yearText_eq, yearText_eq, hsign, List.append_assoc, List.append_assoc] at h
  obtain ⟨habs, hrest⟩ := padded_append_inj hc hd (List.append_cancel_left h)
  have hneg : y < 0 ↔ z < 0 := by
    rw [← yearSign_eq_iff, ← yearSign_eq_iff, hsign]
  exact ⟨by omega, hrest⟩

end Date

/-! ### Fractions -/

namespace Timestamp

/-- The nanoseconds that a fraction stands for: a point and digits, the first ones of nine. -/
def fractionOf : List Char → Nat
  | '.' :: ds => Nat.ofDigitChars 10 ds 0 * 10 ^ (9 - ds.length)
  | _ => 0

/-- Digits after the point count what their number leaves of nine places. -/
theorem fractionOf_point {w n : Nat} (hw : 0 < w) (hn : n < 10 ^ w) :
    fractionOf ('.' :: padded w n) = n * 10 ^ (9 - w) := by
  show Nat.ofDigitChars 10 (padded w n) 0 * 10 ^ (9 - (padded w n).length) = _
  rw [ofDigitChars_padded, length_padded hw hn]

/-- **The number of digits tells what they count.** -/
theorem fractionOf_exactFraction {n : Nat} (hn : n < 1000000000) :
    fractionOf (exactFraction n) = n := by
  unfold exactFraction
  split
  · next hzero => exact hzero.symm
  · split
    · rw [fractionOf_point (by decide) (Nat.div_lt_of_lt_mul hn)]
      show n / 1000000 * 1000000 = n
      omega
    · split
      · rw [fractionOf_point (by decide) (Nat.div_lt_of_lt_mul hn)]
        show n / 1000 * 1000 = n
        omega
      · rw [fractionOf_point (by decide) hn]
        show n * 1 = n
        omega

/-! ### Times -/

variable {t u : Timestamp}

/-- The exact text has all six numbers, a fraction if there is one, and the mark of the time zone.
-/
theorem exactText_eq (t : Timestamp) : t.exactText.toList =
    Date.yearText t.year ++ '-' :: (padded 2 (Date.ofDay t.day).month ++ '-' ::
      (padded 2 (Date.ofDay t.day).day ++ 'T' :: (padded 2 t.hour ++ ':' ::
        (padded 2 t.minute ++ ':' :: (padded 2 t.second ++
          (exactFraction t.fraction ++ ['Z'])))))) := by
  unfold exactText
  rw [String.toList_ofList, secondText_eq, Date.text]
  simp only [List.append_assoc, List.cons_append]
  rfl

/-- **Two proper times with the same exact text are the same.** -/
theorem exactText_inj (ht : t.IsProper) (hu : u.IsProper) (h : t.exactText = u.exactText) :
    t = u := by
  have htext := congrArg String.toList h
  rw [exactText_eq, exactText_eq] at htext
  obtain ⟨hyear, htext⟩ := Date.yearText_append_inj rfl rfl htext
  obtain ⟨hmonth, htext⟩ := padded_append_inj rfl rfl (List.cons.inj htext).2
  obtain ⟨hday, htext⟩ := padded_append_inj rfl rfl (List.cons.inj htext).2
  obtain ⟨hhour, htext⟩ := padded_append_inj rfl rfl (List.cons.inj htext).2
  obtain ⟨hminute, htext⟩ := padded_append_inj rfl rfl (List.cons.inj htext).2
  -- the seconds have two digits, and what follows may begin in two ways
  have hwidth : (padded 2 t.second).length = (padded 2 u.second).length := by
    rw [length_padded (by decide) (t.second_lt.trans (by decide)),
      length_padded (by decide) (u.second_lt.trans (by decide))]
  obtain ⟨hsecond, htext⟩ := List.append_inj (List.cons.inj htext).2 hwidth
  have hfraction : t.fraction = u.fraction := by
    rw [← fractionOf_exactFraction (fraction_lt ht), List.append_cancel_right htext,
      fractionOf_exactFraction (fraction_lt hu)]
  have hdate : Date.ofDay t.day = Date.ofDay u.day := by
    rw [Date.mk.injEq]
    exact ⟨hyear, hmonth, hday⟩
  exact eq_of_reading ht hu (Date.ofDay_injective hdate) hhour hminute (padded_inj hsecond)
    hfraction

end Timestamp

end LinkWarden
