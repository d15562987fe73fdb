import LinkWarden.Time.Timestamp

/-!
# Days and dates

The date of a day is found with a few divisions. Here these are compared with the rule of the
calendar: a year has a day more than 365 if its number is divisible by 4, but not if it is divisible
by 100, unless it is by 400. `Date.yearStart` is that rule for years from the first of March on, in
which a leap day comes last.

* The divisions find the year in which a day lies, and the day within that year
  (`Date.exists_ofDay`): in a span of four hundred years the year is made up of whole centuries, of
  whole spans of four years and of single years (`Date.LiesIn.yearOfEra_eq`).
* A later day has a later date (`Date.isBefore_ofDay`), and so no two days have the same date
  (`Date.ofDay_injective`).
* The month of a date is one of twelve and the day one of thirty-one (`Date.month_ofDay`,
  `Date.day_ofDay`).
-/

namespace LinkWarden.Date

/-! ### Years from March on -/

/-- The first day of a year, counted from the first of March of the year 0. -/
def yearStart (y : Int) : Int := 365 * y + y / 4 - y / 100 + y / 400

/-- A later year begins later. -/
theorem yearStart_le_yearStart {y z : Int} (h : y ≤ z) : yearStart y ≤ yearStart z := by
  unfold yearStart
  omega

/-- A year has 365 days at least. -/
theorem yearStart_add_le (y : Int) : yearStart y + 365 ≤ yearStart (y + 1) := by
  unfold yearStart
  by_cases h : (y + 1) % 4 = 0 <;> omega

/-- It has one more if the leap day at its end falls into a leap year. -/
theorem yearStart_add_lt {y : Int} (h4 : (y + 1) % 4 = 0)
    (h100 : (y + 1) % 100 ≠ 0 ∨ (y + 1) % 400 = 0) : yearStart y + 365 < yearStart (y + 1) := by
  unfold yearStart
  omega

/-- No year has more than 366 days. -/
theorem yearStart_succ_le (y : Int) : yearStart (y + 1) ≤ yearStart y + 366 := by
  unfold yearStart
  by_cases h : (y + 1) % 4 = 0 <;> omega

/-! ### The year in a span of four hundred -/

/-- The days before a year in a span of four hundred years. -/
def daysBefore (y : Nat) : Nat := 365 * y + y / 4 - y / 100

/-- Four hundred years have 146097 days. -/
theorem yearStart_era (era : Int) {y : Nat} (hy : y < 400) :
    yearStart (400 * era + y) = 146097 * era + daysBefore y := by
  unfold yearStart daysBefore
  omega

/-- The days before one of four years that follow whole spans. -/
theorem daysBefore_eq (century : Nat) {four y : Nat} (hfour : four ≤ 24) (hy : y ≤ 3) :
    daysBefore (100 * century + 4 * four + y) = 36524 * century + 1461 * four + 365 * y := by
  unfold daysBefore
  omega

/-- The year of a day in a span of four hundred years. -/
def yearOfEra (day : Nat) : Nat := (day - day / 1460 + day / 36524 - day / 146096) / 365

/-- The day lies in a century of the span and in a span of four years of that century, with so many
days before it there. The last day of a century is there in the last century only. -/
structure LiesIn (day century four rest : Nat) : Prop where
  day_eq : day = 36524 * century + 1461 * four + rest
  century_le : century ≤ 3
  four_le : four ≤ 24
  rest_le : rest ≤ 1460
  last : four = 24 → rest = 1460 → century = 3

/-- Every day of a span of four hundred years lies in one of its centuries and in one of the spans
of four years there. -/
theorem exists_liesIn {day : Nat} (h : day < 146097) :
    ∃ century four rest, LiesIn day century four rest := by
  by_cases hlast : day = 146096
  · exact ⟨3, 24, 1460, hlast, by decide, by decide, by decide, fun _ _ => rfl⟩
  · exact ⟨day / 36524, day % 36524 / 1461, day % 36524 % 1461, by omega, by omega, by omega,
      by omega, by omega⟩

namespace LiesIn

variable {day century four rest : Nat}

/-- The longest span counts beyond its last century. -/
theorem div_century (h : LiesIn day century four rest) :
    day / 36524 = century + day / 146096 := by
  obtain ⟨rfl, hcentury, hfour, hrest, hlast⟩ := h
  by_cases hmax : four = 24 ∧ rest = 1460
  · obtain ⟨rfl, rfl⟩ := hmax
    obtain rfl := hlast rfl rfl
    rfl
  · have hless : 1461 * four + rest < 36524 := by omega
    have hspan : (36524 * century + 1461 * four + rest) / 146096 = 0 := by omega
    rw [hspan]
    omega

/-- **The year that is found is one of the last four**, and a leap day is in the last one. -/
theorem yearOfEra_eq (h : LiesIn day century four rest) :
    yearOfEra day = 100 * century + 4 * four + min (rest / 365) 3 := by
  have hdivide := h.div_century
  obtain ⟨hday, hcentury, hfour, hrest, -⟩ := h
  -- at most one leap day more is counted than lies before the day, and only near the end of a span
  obtain ⟨extra, hextra⟩ : ∃ extra, extra = (24 * century + four + rest) / 1460 := ⟨_, rfl⟩
  have hleap : day / 1460 = 25 * century + four + extra := by omega
  have hyear : extra ≤ rest ∧ (rest - extra) / 365 = min (rest / 365) 3 := by omega
  clear hextra
  have hdays : day - day / 1460 + day / 36524 - day / 146096 =
      365 * (100 * century + 4 * four) + (rest - extra) := by
    rw [hleap, hdivide]
    omega
  unfold yearOfEra
  rw [hdays, ← hyear.2, Nat.mul_add_div (by decide)]

end LiesIn

/-- A leap day at the end of the last of four years belongs to a leap year. -/
theorem LiesIn.yearStart_add_lt {day century four rest : Nat} (h : LiesIn day century four rest)
    (hrest : rest = 1460) (era : Int) :
    yearStart (400 * era + (100 * century + 4 * four + 3 : Nat)) + 365 <
      yearStart (400 * era + (100 * century + 4 * four + 3 : Nat) + 1) := by
  have hlast : four = 24 → century = 3 := fun hfour => h.last hfour hrest
  have hfour := h.four_le
  apply Date.yearStart_add_lt
  · omega
  · by_cases hcentury : four = 24
    · rw [hcentury, hlast hcentury]
      exact .inr (by omega)
    · exact .inl (by omega)

/-- **A day of the span lies in the year that is found for it.** -/
theorem yearOfEra_spec (era : Int) {day : Nat} (h : day < 146097) :
    yearOfEra day < 400 ∧ daysBefore (yearOfEra day) ≤ day ∧
      146097 * era + day < yearStart (400 * era + yearOfEra day + 1) := by
  obtain ⟨century, four, rest, hspans⟩ := exists_liesIn h
  obtain ⟨y, hy, hle, hlt⟩ : ∃ y, min (rest / 365) 3 = y ∧ 365 * y ≤ rest ∧
      (rest < 365 * y + 365 ∨ rest = 1460 ∧ y = 3) := by
    have := hspans.rest_le
    exact ⟨_, rfl, by omega, by omega⟩
  have hthree : y ≤ 3 := hy ▸ Nat.min_le_right _ _
  rw [hspans.yearOfEra_eq, hy]
  have hyear : 100 * century + 4 * four + y < 400 := by
    have := hspans.century_le
    have := hspans.four_le
    omega
  have hbefore := daysBefore_eq century hspans.four_le hthree
  have hday := hspans.day_eq
  refine ⟨hyear, by omega, ?_⟩
  have hstart := yearStart_era era hyear
  rcases hlt with hcommon | ⟨hleap, rfl⟩
  · have := yearStart_add_le (400 * era + (100 * century + 4 * four + y : Nat))
    omega
  · have := hspans.yearStart_add_lt hleap era
    omega

/-! ### The date of a day -/

/-- The date of a day of a year from March on. Five months in a row have 153 days there. -/
def ofMarch (year : Int) (dayOfYear : Nat) : Date :=
  let monthIndex := (5 * dayOfYear + 2) / 153
  let month := if monthIndex < 10 then monthIndex + 3 else monthIndex - 9
  { year := year + (if month ≤ 2 then 1 else 0)
    month
    day := dayOfYear - (153 * monthIndex + 2) / 5 + 1 }

/-- **The divisions find the year in which a day lies, and the day in that year.** -/
theorem exists_ofDay (day : Int) :
    ∃ (year : Int) (dayOfYear : Nat), yearStart year + dayOfYear = day + 719468 ∧
      day + 719468 < yearStart (year + 1) ∧ ofDay day = ofMarch year dayOfYear := by
  let era := (day + 719468).fdiv 146097
  let dayOfEra := (day + 719468 - era * 146097).toNat
  have hera : day + 719468 = 146097 * era + dayOfEra ∧ dayOfEra < 146097 := by
    have hdiv : era = (day + 719468) / 146097 := Int.fdiv_eq_ediv_of_nonneg _ (by decide)
    have hrest : dayOfEra = (day + 719468 - era * 146097).toNat := rfl
    omega
  obtain ⟨hday, hlt⟩ := hera
  obtain ⟨hyear, hle, hnext⟩ := yearOfEra_spec era hlt
  refine ⟨400 * era + yearOfEra dayOfEra, dayOfEra - daysBefore (yearOfEra dayOfEra), ?_, ?_, ?_⟩
  · rw [yearStart_era era hyear]
    omega
  · rw [hday]
    exact hnext
  · calc ofDay day
        = ofMarch (yearOfEra dayOfEra + era * 400) (dayOfEra - daysBefore (yearOfEra dayOfEra)) :=
          rfl
      _ = ofMarch (400 * era + yearOfEra dayOfEra)
            (dayOfEra - daysBefore (yearOfEra dayOfEra)) := by
          rw [Int.add_comm, Int.mul_comm]

/-! ### The order of dates -/

/-- The first date is earlier than the second one. -/
def IsBefore (d e : Date) : Prop :=
  d.year < e.year ∨ d.year = e.year ∧ (d.month < e.month ∨ d.month = e.month ∧ d.day < e.day)

/-- Days of a later year, or later days of the same year, have a later date. -/
theorem isBefore_ofMarch {y z : Int} {m n : Nat} (hm : m ≤ 365) (hn : n ≤ 365)
    (h : y < z ∨ y = z ∧ m < n) : (ofMarch y m).IsBefore (ofMarch z n) := by
  unfold IsBefore ofMarch
  dsimp only
  split <;> split <;> split <;> split <;> omega

/-- **A later day has a later date.** -/
theorem isBefore_ofDay {m n : Int} (h : m < n) : (ofDay m).IsBefore (ofDay n) := by
  obtain ⟨y, k, hk, hky, hm⟩ := exists_ofDay m
  obtain ⟨z, l, hl, hlz, hn⟩ := exists_ofDay n
  have hyk := yearStart_succ_le y
  have hzl := yearStart_succ_le z
  rw [hm, hn]
  apply isBefore_ofMarch (by omega) (by omega)
  rcases Int.lt_trichotomy y z with hlt | heq | hgt
  · exact .inl hlt
  · subst heq
    exact .inr ⟨rfl, by omega⟩
  · -- the year of the later day would be over before the earlier day's begins
    have := yearStart_le_yearStart (show z + 1 ≤ y from hgt)
    omega

/-- No date is before itself. -/
theorem IsBefore.ne {d e : Date} (h : d.IsBefore e) : d ≠ e := by
  rintro rfl
  unfold IsBefore at h
  omega

/-- No two days have the same date. -/
theorem ofDay_injective {m n : Int} (h : ofDay m = ofDay n) : m = n := by
  rcases Int.lt_trichotomy m n with hlt | heq | hgt
  · exact absurd h (isBefore_ofDay hlt).ne
  · exact heq
  · exact absurd h.symm (isBefore_ofDay hgt).ne

/-- The month of a date is one of twelve. -/
theorem month_ofDay (day : Int) : 1 ≤ (ofDay day).month ∧ (ofDay day).month ≤ 12 := by
  obtain ⟨year, dayOfYear, hstart, hnext, heq⟩ := exists_ofDay day
  have := yearStart_succ_le year
  rw [heq]
  unfold ofMarch
  dsimp only
  split <;> omega

/-- No day of a month is beyond the 31st. -/
theorem day_ofDay (day : Int) : 1 ≤ (ofDay day).day ∧ (ofDay day).day ≤ 31 := by
  obtain ⟨year, dayOfYear, hstart, hnext, heq⟩ := exists_ofDay day
  rw [heq]
  show 1 ≤ dayOfYear - (153 * ((5 * dayOfYear + 2) / 153) + 2) / 5 + 1 ∧
    dayOfYear - (153 * ((5 * dayOfYear + 2) / 153) + 2) / 5 + 1 ≤ 31
  omega

end LinkWarden.Date
