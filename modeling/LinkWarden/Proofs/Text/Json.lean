import LinkWarden.Toml.Text

/-!
# JSON arrays of objects of strings

What it means that a text is a JSON array of objects whose values are strings: it consists of the
tokens of the array in their order, with blanks wherever one token ends and another begins. Other
values do not come up here.

* `SpellsChar` says how a character may be written inside a string: as itself only if it is no
  quotation mark, no backslash and no control below U+0020, and otherwise by an escape. So no string
  has one of these in it that is not escaped.
* `Lexes` says which tokens a text consists of. A text does not consist of any others
  (`Lexes.unique`), since a string ends at the first quotation mark that is not escaped
  (`Spells.unique`).
* An array is known from its tokens (`arrayTokens_inj`), because an object can be told from what
  stands behind it: its tokens are a *prefix code*.
* **Main statement** (`IsArrayOf.unique`): a text is an array in one way at most.
-/

namespace LinkWarden.Json

open Toml (hexDigit?)

/-! ### Strings -/

/-- The letters that escape a character, with the character. -/
def escapes : List (Char × Char) :=
  [('"', '"'), ('\\', '\\'), ('/', '/'), ('b', '\x08'), ('f', '\x0c'), ('n', '\n'), ('r', '\r'),
    ('t', '\t')]

/-- The number that hexadecimal digits stand for. -/
def hexNumber? (ds : List Char) : Option Nat :=
  ds.foldlM (fun n d => (hexDigit? d).map (n * 16 + ·)) 0

/-- The ways to write a character inside a string. Two numbers that stand for one character together
are left out. -/
inductive SpellsChar : Char → List Char → Prop
  /-- The character stands for itself. -/
  | plain {c : Char} (quote : c ≠ '"') (backslash : c ≠ '\\') (control : 0x20 ≤ c.toNat) :
    SpellsChar c [c]
  | letter {letter c : Char} (known : (letter, c) ∈ escapes) : SpellsChar c ['\\', letter]
  /-- Four hexadecimal digits give the number of the character. -/
  | number {c : Char} {ds : List Char} (four : ds.length = 4)
    (value : hexNumber? ds = some c.toNat) : SpellsChar c ('\\' :: 'u' :: ds)

namespace SpellsChar

variable {c d : Char} {l m s t : List Char}

/-- No character begins with a quotation mark. -/
theorem exists_cons (h : SpellsChar c l) : ∃ a s, l = a :: s ∧ a ≠ '"' := by
  cases h with
  | plain hquote => exact ⟨_, _, rfl, hquote⟩
  | letter => exact ⟨_, _, rfl, by decide⟩
  | number => exact ⟨_, _, rfl, by decide⟩

/-- The letter that a number begins with escapes nothing else. -/
theorem escapes_fst_ne : ∀ e ∈ escapes, e.1 ≠ 'u' := by decide

/-- Each letter stands for one character only. -/
theorem escapes_snd_eq : ∀ e ∈ escapes, ∀ e' ∈ escapes, e.1 = e'.1 → e.2 = e'.2 := by decide

/-- **A character can be told from what stands behind it.** -/
theorem append_inj (h : SpellsChar c l) (h' : SpellsChar d m) (heq : l ++ s = m ++ t) :
    c = d ∧ s = t := by
  cases h with
  | plain _ hbackslash =>
    cases h' with
    | plain => exact List.cons.inj heq
    | letter => exact absurd (List.cons.inj heq).1 hbackslash
    | number => exact absurd (List.cons.inj heq).1 hbackslash
  | letter hknown =>
    cases h' with
    | plain _ hbackslash => exact absurd (List.cons.inj heq).1.symm hbackslash
    | letter hknown' =>
      obtain ⟨hletter, hrest⟩ := List.cons.inj (List.cons.inj heq).2
      exact ⟨escapes_snd_eq _ hknown _ hknown' hletter, hrest⟩
    | number => exact absurd (List.cons.inj (List.cons.inj heq).2).1 (escapes_fst_ne _ hknown)
  | number hfour hvalue =>
    cases h' with
    | plain _ hbackslash => exact absurd (List.cons.inj heq).1.symm hbackslash
    | letter hknown' =>
      exact absurd (List.cons.inj (List.cons.inj heq).2).1.symm (escapes_fst_ne _ hknown')
    | number hfour' hvalue' =>
      obtain ⟨rfl, hrest⟩ := List.append_inj (List.cons.inj (List.cons.inj heq).2).2
        (hfour.trans hfour'.symm)
      exact ⟨Char.toNat_inj.mp (Option.some.inj (hvalue.symm.trans hvalue')), hrest⟩

end SpellsChar

/-- The ways to write a string between its quotation marks. -/
inductive Spells : List Char → List Char → Prop
  | nil : Spells [] []
  | cons {c : Char} {l cs m : List Char} (first : SpellsChar c l) (rest : Spells cs m) :
    Spells (c :: cs) (l ++ m)

/-- **A string ends at the first quotation mark that is not escaped**, and is known from what stands
before it. -/
theorem Spells.unique {cs ds l m s t : List Char} (h : Spells cs l) (h' : Spells ds m)
    (heq : l ++ '"' :: s = m ++ '"' :: t) : cs = ds ∧ s = t := by
  induction h generalizing ds m with
  | nil =>
    cases h' with
    | nil => exact ⟨rfl, (List.cons.inj heq).2⟩
    | cons hfirst =>
      obtain ⟨a, u, rfl, ha⟩ := hfirst.exists_cons
      exact absurd (List.cons.inj heq).1.symm ha
  | cons hfirst _ ih =>
    cases h' with
    | nil =>
      obtain ⟨a, u, rfl, ha⟩ := hfirst.exists_cons
      exact absurd (List.cons.inj heq).1 ha
    | cons hfirst' hrest' =>
      rw [List.append_assoc, List.append_assoc] at heq
      obtain ⟨rfl, hrest⟩ := hfirst.append_inj hfirst' heq
      obtain ⟨rfl, htail⟩ := ih hrest' hrest
      exact ⟨rfl, htail⟩

/-! ### Tokens -/

/-- A part of a text that is no blank. -/
inductive Token
  /-- A bracket, a comma or a colon. -/
  | mark (c : Char)
  | text (s : String)

/-- What may stand between tokens. -/
def blanks : List Char := [' ', '\t', '\n', '\r']

/-- The tokens of one character. -/
def marks : List Char := ['[', ']', '\x7b', '\x7d', ',', ':']

/-- The tokens that a text consists of, apart from blanks between them. -/
inductive Lexes : List Token → List Char → Prop
  | nil : Lexes [] []
  | blank {c : Char} {ts : List Token} {l : List Char} (isBlank : c ∈ blanks) (rest : Lexes ts l) :
    Lexes ts (c :: l)
  | mark {c : Char} {ts : List Token} {l : List Char} (isMark : c ∈ marks) (rest : Lexes ts l) :
    Lexes (.mark c :: ts) (c :: l)
  | text {s : String} {ts : List Token} {m l : List Char} (spelled : Spells s.toList m)
    (rest : Lexes ts l) : Lexes (.text s :: ts) ('"' :: (m ++ '"' :: l))

namespace Lexes

variable {ts us : List Token} {l m : List Char}

/-- Texts that follow one another consist of their tokens in turn. -/
theorem append (h : Lexes ts l) (h' : Lexes us m) : Lexes (ts ++ us) (l ++ m) := by
  induction h with
  | nil => exact h'
  | blank hblank _ ih => exact .blank hblank ih
  | mark hmark _ ih => exact .mark hmark ih
  | text hspelled _ ih =>
    rw [List.cons_append, List.cons_append, List.append_assoc, List.cons_append]
    exact .text hspelled ih

/-- Blanks in front are no tokens. -/
theorem blanksBefore {b : List Char} (hb : ∀ c ∈ b, c ∈ blanks)
    (h : Lexes ts l) : Lexes ts (b ++ l) := by
  induction b with
  | nil => exact h
  | cons c b ih =>
    exact .blank (hb c List.mem_cons_self) (ih fun d hd => hb d (List.mem_cons_of_mem c hd))

/-- A blank is never a mark. -/
theorem not_mem_marks_of_mem_blanks : ∀ c ∈ blanks, c ∉ marks := by
  simp [blanks, marks]

/-- **A text consists of one list of tokens only.** The first character decides what comes next. -/
theorem unique (h : Lexes ts l) (h' : Lexes us l) : ts = us := by
  induction h generalizing us with
  | nil =>
    cases h'
    rfl
  | blank hblank _ ih =>
    cases h' with
    | blank _ hrest' => exact ih hrest'
    | mark hmark => exact absurd hmark (not_mem_marks_of_mem_blanks _ hblank)
    | text => exact absurd hblank (by decide)
  | mark hmark _ ih =>
    cases h' with
    | blank hblank => exact absurd hmark (not_mem_marks_of_mem_blanks _ hblank)
    | mark _ hrest' => rw [ih hrest']
    | text => exact absurd hmark (by decide)
  | @text s ts m l hspelled _ ih =>
    generalize hl : '"' :: (m ++ '"' :: l) = l' at h'
    cases h' with
    | nil => cases hl
    | blank hblank =>
      rw [← (List.cons.inj hl).1] at hblank
      exact absurd hblank (by decide)
    | mark hmark =>
      rw [← (List.cons.inj hl).1] at hmark
      exact absurd hmark (by decide)
    | text hspelled' hrest' =>
      obtain ⟨hs, rfl⟩ := hspelled.unique hspelled' (List.cons.inj hl).2
      rw [String.toList_inj.mp hs, ih hrest']

end Lexes

/-! ### Arrays and objects -/

/-- Tokens with a comma before each list but the first. -/
def separated : List (List Token) → List Token
  | [] => []
  | ts :: tss => ts ++ tss.flatMap fun us => .mark ',' :: us

/-- The tokens of a member of an object. -/
def memberTokens (member : String × String) : List Token :=
  [.text member.1, .mark ':', .text member.2]

/-- The tokens of an object. -/
def objectTokens (members : List (String × String)) : List Token :=
  .mark '\x7b' :: (separated (members.map memberTokens) ++ [.mark '\x7d'])

/-- The tokens of an array of objects. -/
def arrayTokens (objects : List (List (String × String))) : List Token :=
  .mark '[' :: (separated (objects.map objectTokens) ++ [.mark ']'])

/-- The text is an array of objects with these members, blanks apart. -/
def IsArrayOf (objects : List (List (String × String))) (text : String) : Prop :=
  Lexes (arrayTokens objects) text.toList

/-- What is coded can be told from what stands behind it. -/
def IsPrefixCode {α : Type} (code : α → List Token) : Prop :=
  ∀ x y s t, code x ++ s = code y ++ t → x = y ∧ s = t

section PrefixCodes

variable {α : Type} {code : α → List Token} {close : Char}

/-- Items after the first one, up to the closing mark. -/
theorem IsPrefixCode.more_inj (hcode : IsPrefixCode code) (hclose : close ≠ ',') {xs ys : List α}
    {s t : List Token}
    (h : (xs.map code).flatMap (Token.mark ',' :: ·) ++ .mark close :: s =
      (ys.map code).flatMap (Token.mark ',' :: ·) ++ .mark close :: t) : xs = ys ∧ s = t := by
  induction xs generalizing ys with
  | nil =>
    cases ys with
    | nil => exact ⟨rfl, (List.cons.inj h).2⟩
    | cons y ys => exact absurd (Token.mark.inj (List.cons.inj h).1) hclose
  | cons x xs ih =>
    cases ys with
    | nil => exact absurd (Token.mark.inj (List.cons.inj h).1).symm hclose
    | cons y ys =>
      simp only [List.map_cons, List.flatMap_cons, List.cons_append, List.append_assoc] at h
      obtain ⟨rfl, hrest⟩ := hcode x y _ _ (List.cons.inj h).2
      obtain ⟨rfl, htail⟩ := ih hrest
      exact ⟨rfl, htail⟩

/-- **Items with commas between them and a closing mark are a prefix code**, if no item begins with
the closing mark. -/
theorem IsPrefixCode.separated (hcode : IsPrefixCode code) (hclose : close ≠ ',')
    (hstart : ∀ x, ∃ a s, code x = a :: s ∧ a ≠ .mark close) :
    IsPrefixCode fun xs : List α => Json.separated (xs.map code) ++ [.mark close] := by
  intro xs ys s t h
  rw [List.append_assoc, List.append_assoc] at h
  cases xs with
  | nil =>
    cases ys with
    | nil => exact ⟨rfl, (List.cons.inj h).2⟩
    | cons y ys =>
      obtain ⟨a, u, hy, ha⟩ := hstart y
      simp only [List.map_cons, Json.separated, hy] at h
      exact absurd (List.cons.inj h).1.symm ha
  | cons x xs =>
    cases ys with
    | nil =>
      obtain ⟨a, u, hx, ha⟩ := hstart x
      simp only [List.map_cons, Json.separated, hx] at h
      exact absurd (List.cons.inj h).1 ha
    | cons y ys =>
      simp only [List.map_cons, Json.separated, List.append_assoc] at h
      obtain ⟨rfl, hrest⟩ := hcode x y _ _ h
      obtain ⟨rfl, htail⟩ := hcode.more_inj hclose hrest
      exact ⟨rfl, htail⟩

/-- Every member has three tokens, so it can be told from what follows. -/
theorem isPrefixCode_memberTokens : IsPrefixCode memberTokens := by
  rintro ⟨key, value⟩ ⟨key', value'⟩ s t h
  simpa [memberTokens, and_assoc] using h

/-- An object ends with its closing bracket, since no member begins with one. -/
theorem isPrefixCode_objectTokens : IsPrefixCode objectTokens := by
  intro x y s t h
  have hstart : ∀ member, ∃ a s, memberTokens member = a :: s ∧ a ≠ .mark '\x7d' :=
    fun member => ⟨_, _, rfl, nofun⟩
  exact isPrefixCode_memberTokens.separated (by decide) hstart x y s t (List.cons.inj h).2

/-- **An array is known from its tokens.** -/
theorem arrayTokens_inj {objects objects' : List (List (String × String))}
    (h : arrayTokens objects = arrayTokens objects') : objects = objects' := by
  have hstart : ∀ x, ∃ a s, objectTokens x = a :: s ∧ a ≠ .mark ']' :=
    fun x => ⟨_, _, rfl, by simp⟩
  have hcode := isPrefixCode_objectTokens.separated (by decide) hstart
  exact (hcode objects objects' [] [] (congrArg (· ++ []) (List.cons.inj h).2)).1

end PrefixCodes

/-- **A text is an array of objects in one way at most.** -/
theorem IsArrayOf.unique {objects objects' : List (List (String × String))} {text : String}
    (h : IsArrayOf objects text) (h' : IsArrayOf objects' text) : objects = objects' :=
  arrayTokens_inj (Lexes.unique h h')

end LinkWarden.Json
