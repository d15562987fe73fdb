import LinkWarden.Time.Duration
import Mathlib.Data.List.Lex
import Mathlib.Data.Nat.Digits.Defs

/-!
# Numbers with zeros in front

A number that is padded with zeros to a width consists of digits only (`isDigit_of_mem_padded`) and
can be read back, whatever the width (`padded_inj`). So it can be told from what stands behind it,
if that does not begin with a digit (`padded_append_inj`).

If the number has no more digits than the width, the width is its length (`length_padded`), and the
texts of such numbers are ordered as the numbers are (`padded_lt_padded`), whatever stands behind
them (`padded_append_lt`).
-/

namespace LinkWarden

/-! ### Texts that are compared -/

/-- What stands behind two texts of the same length cannot turn their order. -/
theorem append_lt_append {s t : List Char} (hlen : s.length = t.length) (h : s < t)
    (u v : List Char) : s ++ u < t ++ v := by
  induction s generalizing t with
  | nil =>
    obtain rfl := List.eq_nil_of_length_eq_zero hlen.symm
    exact absurd h (List.lt_irrefl [])
  | cons c s ih =>
    obtain _ | ⟨d, t⟩ := t
    · cases hlen
    · rw [List.cons_append, List.cons_append, List.cons_lt_cons_iff]
      rcases List.cons_lt_cons_iff.mp h with hlt | ⟨heq, hlt⟩
      · exact .inl hlt
      · exact .inr ⟨heq, ih (Nat.succ.inj hlen) hlt⟩

namespace Duration

/-! ### Digits -/

/-- A padded number has as many zeros in front as its digits leave of the width. -/
theorem padded_eq (w n : Nat) : padded w n =
    List.replicate (w - (Nat.toDigits 10 n).length) '0' ++ Nat.toDigits 10 n := rfl

/-- A padded number has a digit. -/
theorem padded_ne_nil (w n : Nat) : padded w n ≠ [] :=
  List.append_ne_nil_of_right_ne_nil _ Nat.toDigits_ne_nil

/-- It consists of digits only. -/
theorem isDigit_of_mem_padded {w n : Nat} {c : Char} (h : c ∈ padded w n) : c.isDigit := by
  rcases List.mem_append.mp h with hzero | hdigit
  · rw [(List.mem_replicate.mp hzero).2]
    rfl
  · exact Nat.isDigit_of_mem_toDigits (by decide) (by decide) hdigit

/-- Zeros in front do not change the number. -/
theorem ofDigitChars_padded (w n : Nat) : Nat.ofDigitChars 10 (padded w n) 0 = n := by
  rw [padded_eq, Nat.ofDigitChars_append, Nat.ofDigitChars_replicate_zero, Nat.mul_zero,
    Nat.ofDigitChars_ten_toDigits]

/-- So the number can be read off. -/
theorem padded_inj {w m n : Nat} (h : padded w m = padded w n) : m = n := by
  rw [← ofDigitChars_padded w m, h, ofDigitChars_padded]

/-- **A number ends where something else than a digit follows.** -/
theorem padded_append_inj {w m n : Nat} {c d : Char} {s t : List Char} (hc : c.isDigit = false)
    (hd : d.isDigit = false) (h : padded w m ++ c :: s = padded w n ++ d :: t) :
    m = n ∧ c :: s = d :: t := by
  have htake : ∀ (k : Nat) {e : Char} (u : List Char), e.isDigit = false →
      (padded w k ++ e :: u).takeWhile Char.isDigit = padded w k := by
    intro k e u he
    rw [List.takeWhile_append_of_pos fun _ => isDigit_of_mem_padded]
    simp [he]
  have hdigits : padded w m = padded w n := by
    rw [← htake m s hc, h, htake n t hd]
  exact ⟨padded_inj hdigits, List.append_cancel_left (hdigits ▸ h)⟩

/-! ### Width -/

/-- A number that fits into its width is as long as that. -/
theorem length_padded {w n : Nat} (hw : 0 < w) (hn : n < 10 ^ w) : (padded w n).length = w := by
  have hle := (Nat.length_toDigits_le_iff (by decide) hw).mpr hn
  rw [padded_eq, List.length_append, List.length_replicate]
  omega

/-- The last digit stands behind the number without it. -/
theorem padded_succ {w : Nat} (hw : 0 < w) (n : Nat) :
    padded (w + 1) n = padded w (n / 10) ++ [(n % 10).digitChar] := by
  rw [padded_eq, padded_eq]
  by_cases hn : n < 10
  · -- there is no other digit, and a zero stands for the number without it
    rw [Nat.div_eq_of_lt hn, Nat.mod_eq_of_lt hn, Nat.toDigits_of_lt_base hn, Nat.toDigits_zero]
    show List.replicate (w + 1 - 1) '0' ++ _ = List.replicate (w - 1) '0' ++ ['0'] ++ _
    rw [← List.replicate_succ', Nat.sub_add_cancel hw, Nat.add_sub_cancel]
  · rw [Nat.toDigits_of_base_le (by decide) (Nat.le_of_not_lt hn), List.length_append,
      List.length_singleton, Nat.add_sub_add_right, List.append_assoc]

/-- Digits are ordered as the characters that they are written with. -/
theorem digitChar_lt_digitChar {m n : Nat} (hmn : m < n) (hn : n < 10) :
    m.digitChar < n.digitChar := by
  show m.digitChar.toNat < n.digitChar.toNat
  rw [Nat.toNat_digitChar_of_lt_ten hn, Nat.toNat_digitChar_of_lt_ten (hmn.trans hn)]
  omega

/-- **Numbers of one width decide the order of texts that begin with them.** Only where they are
equal, it depends on what follows. -/
theorem padded_append_lt {w m n : Nat} {s t : List Char} (hw : 0 < w) (hm : m < 10 ^ w)
    (hn : n < 10 ^ w) (h : m < n ∨ m = n ∧ s < t) : padded w m ++ s < padded w n ++ t := by
  induction w, hw using Nat.le_induction generalizing m n s t with
  | base =>
    have hm' : m < 10 := hm
    have hn' : n < 10 := hn
    rw [padded_eq, padded_eq, Nat.toDigits_of_lt_base hm', Nat.toDigits_of_lt_base hn']
    show m.digitChar :: s < n.digitChar :: t
    rw [List.cons_lt_cons_iff]
    exact h.imp (digitChar_lt_digitChar · hn') (And.imp_left (congrArg Nat.digitChar))
  | succ w hw ih =>
    -- the last digit belongs to what follows the other ones
    rw [padded_succ hw, padded_succ hw, List.append_assoc, List.append_assoc]
    rw [Nat.pow_succ] at hm hn
    apply ih (Nat.div_lt_of_lt_mul (Nat.mul_comm _ _ ▸ hm))
      (Nat.div_lt_of_lt_mul (Nat.mul_comm _ _ ▸ hn))
    rcases h with hlt | ⟨rfl, hst⟩
    · by_cases hdiv : m / 10 < n / 10
      · exact .inl hdiv
      · have hdigit := digitChar_lt_digitChar (show m % 10 < n % 10 by omega) (by omega)
        exact .inr ⟨by omega, List.cons_lt_cons_iff.mpr (.inl hdigit)⟩
    · exact .inr ⟨rfl, List.append_left_lt hst⟩

/-- Numbers of one width are ordered as their texts. -/
theorem padded_lt_padded {w m n : Nat} (hw : 0 < w) (hmn : m < n) (hn : n < 10 ^ w) :
    padded w m < padded w n := by
  rw [← List.append_nil (padded w m), ← List.append_nil (padded w n)]
  exact padded_append_lt hw (hmn.trans hn) hn (.inl hmn)

end Duration

end LinkWarden
