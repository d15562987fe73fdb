import LinkWarden.Observe.History
import LinkWarden.Proofs.Text.Json
import LinkWarden.Proofs.Time.ExactText

/-!
# The export of the history loses nothing

The history is written as a JSON array with an object for each record, and its strings may contain
anything, also what looks like JSON.

* A string is written in a way that JSON knows (`Json.lexes_jsonString`), and so are members,
  objects and the array: `History.lexes_recordsJson` follows the writer piece by piece.
* The members of an object give the record back (`Record.members_inj`), the time by its exact text.
* **Main statement** (`History.export_keeps_all`): the text is the array of the records, and two
  histories with the same text hold the same records.
-/

namespace LinkWarden

/-! ### Strings -/

namespace Json

open Text

/-- Controls are written by four digits with their number. -/
theorem hexNumber?_fourHexDigits : ∀ n < 0x20,
    (fourHexDigits n).length = 4 ∧ hexNumber? (fourHexDigits n) = some n := by decide

/-- Every character is spelled in a way that JSON knows: a control by its number, one with a letter
by its escape and any other one as it is. -/
theorem spellsChar_jsonSpell (c : Char) : SpellsChar c (jsonSpell c) := by
  fun_cases jsonSpell c with
  | case8 hquote hbackslash _ _ _ _ _ hcontrol =>
    obtain ⟨hfour, hvalue⟩ := hexNumber?_fourHexDigits c.toNat hcontrol
    exact .number hfour hvalue
  | case9 hquote hbackslash _ _ _ _ _ hcontrol =>
    exact .plain hquote hbackslash (Nat.le_of_not_lt hcontrol)
  | _ =>
    -- each of the seven other ones has a letter
    subst c
    exact .letter (by decide)

/-- So is what stands between the quotes of a string. -/
theorem spells_flatMap_jsonSpell (cs : List Char) : Spells cs (cs.flatMap jsonSpell) := by
  induction cs with
  | nil => exact .nil
  | cons c cs ih => exact .cons (spellsChar_jsonSpell c) ih

/-- **A string is written as JSON knows it.** -/
theorem lexes_jsonString (s : String) : Lexes [.text s] (jsonString s) := by
  unfold jsonString
  rw [List.append_assoc]
  exact .text (spells_flatMap_jsonSpell s.toList) .nil

end Json

/-! ### Records -/

/-- The members of the object that a record is written as. -/
def Record.members (r : Record) : List (String × String) := [
  ("component_id", r.component),
  ("from", r.before),
  ("to", r.after),
  ("logged_at", r.time.exactText)]

/-- **The members of an object give the record back.** -/
theorem Record.members_inj {r s : Record} (hr : r.time.IsProper) (hs : s.time.IsProper)
    (h : r.members = s.members) : r = s := by
  obtain ⟨component, before, after, time⟩ := r
  obtain ⟨component', before', after', time'⟩ := s
  simp only [members, List.cons.injEq, Prod.mk.injEq, true_and, and_true] at h
  obtain ⟨rfl, rfl, rfl, htime⟩ := h
  obtain rfl := Timestamp.exactText_inj hr hs htime
  rfl

/-- Records with proper times are given back by the members of their objects, one by one. -/
theorem Record.map_members_inj {rs ss : List Record} (hrs : ∀ r ∈ rs, r.time.IsProper)
    (hss : ∀ s ∈ ss, s.time.IsProper) (h : rs.map members = ss.map members) : rs = ss := by
  induction rs generalizing ss with
  | nil => exact (List.map_eq_nil_iff.mp h.symm).symm
  | cons r rs ih =>
    obtain ⟨s, ss', rfl, hs, hss'⟩ := List.map_eq_cons_iff.mp h.symm
    obtain ⟨hr, hrs⟩ := List.forall_mem_cons.mp hrs
    obtain ⟨hsp, hss⟩ := List.forall_mem_cons.mp hss
    rw [members_inj hr hsp hs.symm, ih hrs hss hss'.symm]

namespace History

open Json

/-! ### The writer, piece by piece -/

/-- A line consists of the key, a colon and the value. -/
theorem lexes_memberLine (key value : String) :
    Lexes (memberTokens (key, value)) (memberLine key value) := by
  have hkey := (lexes_jsonString key).blanksBefore (b := "    ".toList) (by simp [blanks])
  have hcolon : Lexes [.mark ':'] [':', ' '] := .mark (by decide) (.blank (by decide) .nil)
  exact (hkey.append hcolon).append (lexes_jsonString value)

/-- All lines but the first one follow a comma. -/
theorem joinLines_cons (l : List Char) (ls : List (List Char)) :
    joinLines (l :: ls) = l ++ ls.flatMap ([',', '\n'] ++ ·) := by
  induction ls generalizing l with
  | nil => exact (List.append_nil l).symm
  | cons m ls ih =>
    rw [joinLines, ih, List.flatMap_cons, List.append_assoc, List.append_assoc]
    nofun

/-- Lines with commas between them consist of the tokens of the lines with commas between them. -/
theorem lexes_joinLines {α : Type} {tokens : α → List Token} {line : α → List Char}
    (h : ∀ x, Lexes (tokens x) (line x)) (xs : List α) :
    Lexes (separated (xs.map tokens)) (joinLines (xs.map line)) := by
  cases xs with
  | nil => exact .nil
  | cons x xs =>
    rw [List.map_cons, List.map_cons, joinLines_cons]
    refine (h x).append ?_
    induction xs with
    | nil => exact .nil
    | cons y ys ih =>
      exact .append (.mark (by decide) (.blank (by decide) (h y))) ih

/-- A record is written as the object of its members. -/
theorem lexes_recordJson (r : Record) : Lexes (objectTokens r.members) (recordJson r) := by
  have hmembers : Lexes (separated (r.members.map memberTokens))
      (joinLines (r.members.map fun m => memberLine m.1 m.2)) :=
    lexes_joinLines (fun m => lexes_memberLine m.1 m.2) r.members
  have hopen : Lexes [.mark '\x7b'] ("  ".toList ++ ['\x7b', '\n']) :=
    (Lexes.mark (by decide) (.blank (by decide) .nil)).blanksBefore (by simp [blanks])
  have hclose : Lexes [.mark '\x7d'] (['\n'] ++ "  ".toList ++ ['\x7d']) :=
    (Lexes.mark (by decide) .nil).blanksBefore (b := ['\n'] ++ "  ".toList) (by simp [blanks])
  have htext : recordJson r = ("  ".toList ++ ['\x7b', '\n']) ++
      (joinLines (r.members.map fun m => memberLine m.1 m.2) ++
        (['\n'] ++ "  ".toList ++ ['\x7d'])) := by
    unfold recordJson
    simp only [List.append_assoc]
    rfl
  rw [htext]
  exact hopen.append (hmembers.append hclose)

/-- **The text of records is the array of their objects.** -/
theorem lexes_recordsJson (rs : List Record) :
    Lexes (arrayTokens (rs.map Record.members)) (recordsJson rs) := by
  have hopen : Lexes [.mark '['] ['[', '\n'] := .mark (by decide) (.blank (by decide) .nil)
  have hclose : Lexes [.mark ']'] ['\n', ']'] := .blank (by decide) (.mark (by decide) .nil)
  cases rs with
  | nil => exact .mark (by decide) (.mark (by decide) .nil)
  | cons r rs =>
    have hobjects := lexes_joinLines (fun s => lexes_recordJson s) (r :: rs)
    have htext : recordsJson (r :: rs) =
        ['[', '\n'] ++ (joinLines ((r :: rs).map recordJson) ++ ['\n', ']']) := by
      simp only [recordsJson, List.isEmpty_cons, Bool.false_eq_true, if_false, List.append_assoc]
    rw [htext, arrayTokens, List.map_map]
    exact hopen.append (hobjects.append hclose)

/-- **The export of the history loses nothing.**

* Two histories with proper times have the same text just if they hold the same records, in the same
  order.
* The text is a JSON array with an object for each record, whatever the strings in it are. -/
theorem export_keeps_all :
    (∀ h h' : History, (∀ r ∈ h.records, r.time.IsProper) → (∀ r ∈ h'.records, r.time.IsProper) →
      (h.json = h'.json ↔ h.records = h'.records)) ∧
    ∀ h : History, IsArrayOf (h.records.map Record.members) h.json := by
  have harray : ∀ h : History, IsArrayOf (h.records.map Record.members) h.json := by
    intro h
    unfold IsArrayOf json
    rw [String.toList_ofList]
    exact lexes_recordsJson h.records
  refine ⟨fun h h' hproper hproper' => ⟨fun heq => ?_, fun heq => ?_⟩, harray⟩
  · have hmembers := (harray h).unique (heq ▸ harray h')
    exact Record.map_members_inj hproper hproper' hmembers
  · unfold json
    rw [heq]

/-- A leap second and the second after it, half a second past each, and an identifier that looks
like the end of a string and the beginning of the next member. -/
theorem export_keeps_all_leapSecond :
    let r : Record := ⟨"a\", \"from\": \"b\\", "\n", "\u0000é", ⟨59, 1500000000⟩⟩
    let s : Record := { r with time := ⟨60, 500000000⟩ }
    let h := ((empty 1).append r).1
    let h' := ((empty 1).append s).1
    (∀ x ∈ h.records, x.time.IsProper) ∧ (∀ x ∈ h'.records, x.time.IsProper) ∧
      h.json ≠ h'.json := by
  intro r s h h'
  have hrecords : h.records = [r] := rfl
  have hrecords' : h'.records = [s] := rfl
  have hproper : ∀ x ∈ h.records, x.time.IsProper := by
    rw [hrecords, List.forall_mem_singleton]
    exact ⟨by decide, by decide⟩
  have hproper' : ∀ x ∈ h'.records, x.time.IsProper := by
    rw [hrecords', List.forall_mem_singleton]
    exact ⟨by decide, by decide⟩
  have hne : h.records ≠ h'.records := by
    rw [hrecords, hrecords']
    decide
  exact ⟨hproper, hproper', mt (export_keeps_all.1 h h' hproper hproper').mp hne⟩

end History

end LinkWarden
