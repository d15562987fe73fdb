import LinkWarden.Proofs.Document.Trimmed
import Mathlib.Data.List.Forall2
import Mathlib.Data.List.Nodup
import Mathlib.Data.List.Pairwise
import Mathlib.Data.List.Perm.Basic
import Mathlib.Logic.Relation

/-!
# Structures written as arrays

A structure may be written as an array of its fields in order of their declaration, or as a table
with the same values under the names of the fields. The two are read in different ways: the items of
an array from the first, the entries of a table in the order of their keys.

* `Field.Commutes` says that it does not matter which of two fields is read first. Where this is so
  for all fields, entries may be read in any order (`foldl_step_of_perm`), and sorting them by their
  keys changes nothing (`ofEntries_perm`).
* Items are read as entries with the names of the fields as keys (`toOption_items`). So an array is
  read as a table (`toOption_struct_asTable`), and fields that are missing at its end may as well be
  written with their default values (`toOption_struct_defaults`).
* `Rewrites` writes one structure of a document as a table, at any depth, and `Restates` does so any
  number of times in either direction. A structure is read alike before and after if its fields
  respect their shapes (`toOption_struct_of_restates`).
* `Overlong` says that there is an array with too many items in a document, at any depth, and then
  it is not read (`toOption_struct_of_overlong`).
* **Main statement** (`readsArrays_struct`): these together, for every structure whose fields do not
  interfere.

Readings are compared by what they yield. Where both fail they may report different faults, since
they come upon the values in different orders.
-/

namespace LinkWarden

variable {σ α : Type}

/-! ### Success and failure -/

namespace Decoded

variable {β : Type}

/-- Where a fault lies is of no account for whether there is one. -/
theorem toOption_under (key : String) (r : Decoded α) : (r.under key).toOption = r.toOption := by
  rcases r with fault | a <;> rfl

/-- What is read in two steps is read if both of them succeed. -/
theorem toOption_bind (r : Decoded α) (next : α → Decoded β) :
    (r >>= next).toOption = r.toOption.bind fun a => (next a).toOption := by
  rcases r with fault | a <;> rfl

/-- What is made of a reading is there just if the reading is. -/
theorem toOption_map (r : Decoded α) (g : α → β) : (r.map g).toOption = r.toOption.map g := by
  rcases r with fault | a <;> rfl

/-- A reading yields nothing just if it fails. -/
theorem toOption_eq_none_iff {r : Decoded α} : r.toOption = none ↔ ∃ fault, r = .error fault := by
  rcases r with fault | a
  · exact iff_of_true rfl ⟨fault, rfl⟩
  · apply iff_of_false (Option.some_ne_none a)
    rintro ⟨fault, ⟨⟩⟩

end Decoded

open Decoded

/-! ### Fields that do not interfere -/

namespace Field

/-- It does not matter which of the fields is read first. -/
def Commutes (x y : Field σ) : Prop :=
  ∀ f v w s, ((x.read f v s).toOption.bind fun t => (y.read f w t).toOption) =
    (y.read f w s).toOption.bind fun t => (x.read f v t).toOption

/-- If one field does not interfere with another, neither does that one with it. -/
theorem Commutes.symm {x y : Field σ} (h : x.Commutes y) : y.Commutes x :=
  fun f v w s => (h f w v s).symm

/-- Fields that are put in different places do not interfere. -/
theorem commutes_of {β : Type} {name name' : String} {decode : Format → Value → Decoded α}
    {decode' : Format → Value → Decoded β} {put : α → σ → σ} {put' : β → σ → σ}
    (h : ∀ a b s, put' b (put a s) = put a (put' b s)) :
    (of name decode put).Commutes (of name' decode' put') := by
  intro f v w s
  unfold of
  simp only [toOption_map]
  rcases (decode f v).toOption with _ | a
  · rcases (decode' f w).toOption with _ | b <;> rfl
  · rcases (decode' f w).toOption with _ | b
    · rfl
    · exact congrArg some (h a b s)

end Field

namespace Decode

variable {fields : List (Field σ)} {f : Format}

/-! ### The entries of a table in any order -/

/-- The structure after one more entry, if all of them decode. -/
def step (fields : List (Field σ)) (f : Format) (s : Option σ) (e : String × Value) : Option σ :=
  s.bind fun s => (entry fields f s e).toOption

/-- After an entry that does not decode nothing is read. -/
theorem foldl_step_none (es : List (String × Value)) : es.foldl (step fields f) none = none := by
  induction es with
  | nil => rfl
  | cons e rest ih => exact ih

/-- The entries of a table are read one by one. -/
theorem toOption_entries (es : List (String × Value)) (s : σ) :
    (entries fields f es s).toOption = es.foldl (step fields f) (some s) := by
  induction es generalizing s with
  | nil => rfl
  | cons e rest ih =>
    rw [entries, toOption_bind, List.foldl_cons]
    show _ = rest.foldl (step fields f) (entry fields f s e).toOption
    rcases (entry fields f s e).toOption with _ | t
    · exact (foldl_step_none rest).symm
    · exact ih t

/-- An entry is read by the first field with its key as name. -/
theorem step_of_find?_eq_some {e : String × Value} {x : Field σ}
    (h : fields.find? (fun field => field.name == e.1) = some x) (s : Option σ) :
    step fields f s e = s.bind fun s => (x.read f e.2 s).toOption := by
  simp only [step, entry, h, toOption_under]

/-- An entry with a key that is no field is of no account. -/
theorem step_of_find?_eq_none {e : String × Value}
    (h : fields.find? (fun field => field.name == e.1) = none) (s : Option σ) :
    step fields f s e = s := by
  simp only [step, entry, h]
  rcases s with _ | s <;> rfl

/-- An entry with the name of a field as key is read by that field. -/
theorem step_of_mem (hnames : (fields.map Field.name).Nodup) {x : Field σ} (hx : x ∈ fields)
    (v : Value) (s : Option σ) :
    step fields f s (x.name, v) = s.bind fun s => (x.read f v s).toOption := by
  apply step_of_find?_eq_some
  obtain ⟨before, after, rfl⟩ := List.append_of_mem hx
  rw [List.map_append, List.nodup_append] at hnames
  rw [List.find?_eq_some_iff_append]
  refine ⟨by simp, before, after, rfl, fun y hy => ?_⟩
  simpa using hnames.2.2 y.name (List.mem_map_of_mem hy) x.name (by simp)

/-- An entry is of no account, or it is read by a field with its key as name. -/
theorem step_cases (fields : List (Field σ)) (f : Format) (e : String × Value) :
    (∀ s, step fields f s e = s) ∨
      ∃ x ∈ fields, x.name = e.1 ∧
        ∀ s, step fields f s e = s.bind fun s => (x.read f e.2 s).toOption := by
  rcases hfind : fields.find? fun field => field.name == e.1 with _ | x
  · exact .inl (step_of_find?_eq_none hfind)
  · have hname := List.find?_some hfind
    exact .inr ⟨x, List.mem_of_find?_eq_some hfind, beq_iff_eq.mp hname,
      step_of_find?_eq_some hfind⟩

/-- Entries with different keys may change places. -/
theorem step_comm (hcomm : fields.Pairwise Field.Commutes) {e e' : String × Value}
    (hne : e.1 ≠ e'.1) (s : Option σ) :
    step fields f (step fields f s e) e' = step fields f (step fields f s e') e := by
  rcases step_cases fields f e with he | ⟨x, hx, hxname, he⟩
  · rw [he, he]
  · rcases step_cases fields f e' with he' | ⟨y, hy, hyname, he'⟩
    · rw [he', he']
    · have hsymm : Std.Symm (@Field.Commutes σ) := ⟨fun _ _ => Field.Commutes.symm⟩
      have hxy : x.Commutes y := by
        apply hcomm.forall hx hy
        rintro rfl
        exact hne (hxname.symm.trans hyname)
      rw [he, he', he', he]
      rcases s with _ | t
      · rfl
      · exact hxy f e.2 e'.2 t

/-- Entries may be read in any order. -/
theorem foldl_step_of_perm (hcomm : fields.Pairwise Field.Commutes)
    {es es' : List (String × Value)} (hperm : es.Perm es') (hkeys : (es.map Prod.fst).Nodup)
    (s : Option σ) : es.foldl (step fields f) s = es'.foldl (step fields f) s := by
  apply hperm.foldl_eq'
  intro e he e' he' t
  by_cases heq : e = e'
  · rw [heq]
  · exact step_comm hcomm (fun hkey => heq (List.inj_on_of_nodup_map hkeys he he' hkey)) t

/-! ### Items as entries -/

/-- Items are read as entries with the names of the fields as keys. -/
theorem toOption_items {all : List (Field σ)} (hnames : (all.map Field.name).Nodup)
    (hsub : fields ⊆ all) (vs : List Value) (s : σ) :
    (items f fields vs s).toOption =
      ((fields.map Field.name).zip vs).foldl (step all f) (some s) := by
  induction fields generalizing vs s with
  | nil => rfl
  | cons x rest ih =>
    rcases vs with _ | ⟨v, vs⟩
    · rfl
    · obtain ⟨hx, hrest⟩ := List.cons_subset.mp hsub
      rw [items, toOption_bind, List.map_cons, List.zip_cons_cons, List.foldl_cons,
        step_of_mem hnames hx, Option.bind_some]
      rcases (x.read f v s).toOption with _ | t
      · exact (foldl_step_none _).symm
      · exact ih hrest vs t

/-- Items become entries with different keys. -/
theorem nodup_zip_keys {names : List String} (hnames : names.Nodup) (vs : List Value) :
    ((names.zip vs).map Prod.fst).Nodup := by
  rw [List.zip_eq_zip_take_min, List.map_fst_zip (by simp)]
  exact hnames.sublist (List.take_sublist _ names)

/-- Values after the first ones belong to the names after the first ones. -/
theorem zip_append_drop {names : List String} {vs us : List Value}
    (h : vs.length ≤ names.length) :
    names.zip (vs ++ us.drop vs.length) = names.zip vs ++ (names.zip us).drop vs.length := by
  calc names.zip (vs ++ us.drop vs.length)
      = (names.take vs.length ++ names.drop vs.length).zip (vs ++ us.drop vs.length) := by
        rw [List.take_append_drop]
    _ = (names.take vs.length).zip vs ++ (names.drop vs.length).zip (us.drop vs.length) :=
        List.zip_append (List.length_take_of_le h)
    _ = names.zip vs ++ (names.zip us).drop vs.length := by
        rw [@List.zip_eq_zip_take_min _ _ names vs, Nat.min_eq_right h, List.take_length]
        exact congrArg _ List.drop_zipWith.symm

section Struct

variable {type : String} {default : σ}

/-- An array that is not too long is read as entries with the names of the fields as keys. -/
theorem toOption_struct_seq (hnames : (fields.map Field.name).Nodup) {vs : List Value}
    (hlength : vs.length ≤ fields.length) :
    (struct type fields default f (.seq vs)).toOption =
      ((fields.map Field.name).zip vs).foldl (step fields f) (some default) := by
  rw [← toOption_items hnames (List.Subset.refl fields)]
  show (items f fields vs default >>= fun s =>
    if fields.length < vs.length then _ else Except.ok s).toOption = _
  rw [toOption_bind]
  simp only [if_neg (Nat.not_lt.mpr hlength)]
  rcases (items f fields vs default).toOption with _ | s <;> rfl

/-- An array that is too long is not read. -/
theorem toOption_struct_of_long {vs : List Value} (hlength : fields.length < vs.length) :
    (struct type fields default f (.seq vs)).toOption = none := by
  rw [struct, toOption_bind]
  simp only [if_pos hlength]
  rcases (items f fields vs default).toOption with _ | s <;> rfl

/-- An array that is not too long is read as a table with its items under the names of the first
fields. -/
theorem toOption_struct_asTable (hcomm : fields.Pairwise Field.Commutes)
    (hnames : (fields.map Field.name).Nodup) {vs : List Value} (hlength : vs.length ≤ fields.length)
    {es : List (String × Value)} (hperm : es.Perm ((fields.map Field.name).zip vs)) :
    (struct type fields default f (.seq vs)).toOption =
      (struct type fields default f (.table es)).toOption := by
  rw [toOption_struct_seq hnames hlength, struct, toOption_entries]
  exact foldl_step_of_perm hcomm hperm.symm (nodup_zip_keys hnames vs) _

/-- Entries that change nothing one by one change nothing together. -/
theorem foldl_step_of_forall {es : List (String × Value)} {s : σ}
    (h : ∀ e ∈ es, entry fields f s e = .ok s) : es.foldl (step fields f) (some s) = some s := by
  induction es with
  | nil => rfl
  | cons e rest ih =>
    rw [List.forall_mem_cons] at h
    have hhead : step fields f (some s) e = some s := congrArg Except.toOption h.1
    rw [List.foldl_cons, hhead]
    exact ih h.2

/-- Fields at the end that are missing may as well be written with their default values. -/
theorem toOption_struct_defaults (hcomm : fields.Pairwise Field.Commutes)
    (hnames : (fields.map Field.name).Nodup) {vs usual : List Value}
    (hlength : vs.length ≤ fields.length) (husualLength : usual.length = fields.length)
    (husual : ∀ e ∈ (fields.map Field.name).zip usual, entry fields f default e = .ok default) :
    (struct type fields default f (.seq vs)).toOption =
      (struct type fields default f (.seq (vs ++ usual.drop vs.length))).toOption := by
  have hlength' : (vs ++ usual.drop vs.length).length ≤ fields.length := by
    rw [List.length_append, List.length_drop]
    omega
  rw [toOption_struct_seq hnames hlength, toOption_struct_seq hnames hlength']
  have hrest : ∀ e ∈ ((fields.map Field.name).zip usual).drop vs.length,
      entry fields f default e = .ok default :=
    fun e he => husual e (List.mem_of_mem_drop he)
  have hsplit : (fields.map Field.name).zip (vs ++ usual.drop vs.length) =
      (fields.map Field.name).zip vs ++ ((fields.map Field.name).zip usual).drop vs.length :=
    zip_append_drop (by simpa using hlength)
  have hkeys := nodup_zip_keys hnames (vs ++ usual.drop vs.length)
  rw [hsplit] at hkeys ⊢
  -- Read first, the default values change nothing.
  rw [foldl_step_of_perm hcomm List.perm_append_comm hkeys, List.foldl_append (l := List.drop _ _),
    foldl_step_of_forall hrest]

end Struct

end Decode

/-! ### Tables from entries -/

namespace Value

/-- An entry with a new key is inserted, and the other ones are kept. -/
theorem insertEntry_perm_cons {key : String} {es : List (String × Value)} (h : key ∉ es.map Prod.fst)
    (v : Value) : (insertEntry key v es).Perm ((key, v) :: es) := by
  induction es with
  | nil => exact .refl _
  | cons e rest ih =>
    obtain ⟨k, w⟩ := e
    obtain ⟨hne, hrest⟩ := not_or.mp (mt List.mem_cons.mpr h)
    rw [insertEntry, if_neg hne]
    split
    · exact .refl _
    · exact ((ih hrest).cons (k, w)).trans (List.Perm.swap (key, v) (k, w) rest)

/-- So it is with any number of entries, if their keys differ. -/
theorem foldl_insertEntry_perm {es acc : List (String × Value)}
    (h : ((acc ++ es).map Prod.fst).Nodup) :
    (es.foldl (fun sorted (k, v) => insertEntry k v sorted) acc).Perm (acc ++ es) := by
  induction es generalizing acc with
  | nil =>
    rw [List.append_nil]
    exact .refl _
  | cons e rest ih =>
    obtain ⟨key, v⟩ := e
    have hkey : key ∉ acc.map Prod.fst := by
      rw [List.map_append, List.nodup_append] at h
      exact fun hmem => h.2.2 key hmem key List.mem_cons_self rfl
    have hmiddle : (insertEntry key v acc ++ rest).Perm (acc ++ (key, v) :: rest) :=
      ((insertEntry_perm_cons hkey v).append_right rest).trans List.perm_middle.symm
    exact (ih ((hmiddle.map Prod.fst).nodup_iff.mpr h)).trans hmiddle

/-- Sorting entries with different keys keeps all of them. -/
theorem ofEntries_perm {es : List (String × Value)} (h : (es.map Prod.fst).Nodup) :
    ∃ sorted, ofEntries es = .table sorted ∧ sorted.Perm es :=
  ⟨_, rfl, foldl_insertEntry_perm h⟩

end Value

/-! ### Arrays and tables mixed -/

/-- The second value is the first one with one of its structures written as a table instead of an
array. The structures are those of the shape. -/
inductive Rewrites : Shape → Value → Value → Prop
  | asTable {fields : List (String × Shape)} {vs : List Value} {es : List (String × Value)}
    (short : vs.length ≤ fields.length) (named : es.Perm ((fields.map Prod.fst).zip vs)) :
    Rewrites (.table fields) (.seq vs) (.table es)
  | /-- A structure inside an array. -/
    inArray {fields : List (String × Shape)} {before after : List Value} {key : String}
    {shape : Shape} {v w : Value} (field : fields[before.length]? = some (key, shape))
    (inner : Rewrites shape v w) :
    Rewrites (.table fields) (.seq (before ++ v :: after)) (.seq (before ++ w :: after))
  | /-- A structure inside a table. -/
    inTable {fields : List (String × Shape)} {before after : List (String × Value)} {key : String}
    {shape : Shape} {v w : Value} (field : fields.lookup key = some shape)
    (inner : Rewrites shape v w) :
    Rewrites (.table fields) (.table (before ++ (key, v) :: after))
      (.table (before ++ (key, w) :: after))

/-- The values differ only in which of their structures are written as arrays and which as
tables. -/
def Restates (shape : Shape) : Value → Value → Prop := Relation.EqvGen (Rewrites shape)

/-- An array in the value has more items than there are fields in its structure. -/
inductive Overlong : Shape → Value → Prop
  | here {fields : List (String × Shape)} {vs : List Value} (long : fields.length < vs.length) :
    Overlong (.table fields) (.seq vs)
  | /-- It is inside an array. -/
    inArray {fields : List (String × Shape)} {before after : List Value} {key : String}
    {shape : Shape} {v : Value} (field : fields[before.length]? = some (key, shape))
    (inner : Overlong shape v) : Overlong (.table fields) (.seq (before ++ v :: after))
  | /-- It is inside a table. -/
    inTable {fields : List (String × Shape)} {before after : List (String × Value)} {key : String}
    {shape : Shape} {v : Value} (field : fields.lookup key = some shape)
    (inner : Overlong shape v) : Overlong (.table fields) (.table (before ++ (key, v) :: after))

/-- It makes no difference to the field if its value is rewritten in the shape, and with an array
that is too long the value is not read. -/
structure Field.Respects (f : Format) (x : Field σ) (shape : Shape) : Prop where
  rewritten : ∀ v w s, Rewrites shape v w → (x.read f v s).toOption = (x.read f w s).toOption
  refused : ∀ v s, Overlong shape v → (x.read f v s).toOption = none

/-- A value that stays as it is has no structures. -/
theorem Field.respects_whole (f : Format) (x : Field σ) : x.Respects f .whole where
  rewritten := by
    rintro v w s ⟨⟩
  refused := by
    rintro v s ⟨⟩

/-- The fields have these shapes, in this order. -/
def HaveShapes (f : Format) : List (Field σ) → List (String × Shape) → Prop :=
  List.Forall₂ fun x e => x.name = e.1 ∧ x.Respects f e.2

namespace HaveShapes

open Decode

variable {f : Format} {fields : List (Field σ)} {shapes : List (String × Shape)}

/-- The fields have the names that the shapes have. -/
theorem names_eq (h : HaveShapes f fields shapes) :
    fields.map Field.name = shapes.map Prod.fst := by
  unfold HaveShapes at h
  induction h with
  | nil => rfl
  | cons hx _ ih => rw [List.map_cons, List.map_cons, hx.1, ih]

/-- A key that has a shape is the name of a field that respects it. -/
theorem find? (h : HaveShapes f fields shapes) {key : String} {shape : Shape}
    (hshape : shapes.lookup key = some shape) :
    ∃ x, fields.find? (fun field => field.name == key) = some x ∧ x.Respects f shape := by
  unfold HaveShapes at h
  induction h with
  | nil => exact absurd hshape.symm (Option.some_ne_none shape)
  | @cons x e _ _ hx _ ih =>
    by_cases hkey : x.name = key
    · refine ⟨x, List.find?_cons_of_pos (beq_iff_eq.mpr hkey), ?_⟩
      rw [List.lookup_cons, ← hx.1, hkey, beq_self_eq_true] at hshape
      exact Option.some.inj hshape ▸ hx.2
    · have hne : (key == e.1) = false :=
        beq_eq_false_iff_ne.mpr fun heq => hkey (hx.1.trans heq.symm)
      rw [List.lookup_cons, hne] at hshape
      rw [List.find?_cons_of_neg (by simpa using hkey)]
      exact ih hshape

/-- An item is read by a field that respects its shape, after the items before it. -/
theorem exists_items_eq (h : HaveShapes f fields shapes) {before : List Value} {key : String}
    {shape : Shape} (hshape : shapes[before.length]? = some (key, shape)) :
    ∃ (x : Field σ) (rest : List (Field σ)), x.Respects f shape ∧
      ∀ v after s, (items f fields (before ++ v :: after) s).toOption =
        (items f fields before s).toOption.bind fun t =>
          (x.read f v t).toOption.bind fun t => (items f rest after t).toOption := by
  induction before generalizing fields shapes with
  | nil =>
    rcases h with _ | @⟨x, e, rest, _, hx, hrest⟩
    · exact absurd hshape.symm (Option.some_ne_none (key, shape))
    · obtain rfl := Option.some.inj hshape
      refine ⟨x, rest, hx.2, fun v after s => ?_⟩
      rw [List.nil_append, items, toOption_bind]
      rfl
  | cons u before ih =>
    rcases h with _ | @⟨y, e, others, _, hy, hothers⟩
    · exact absurd hshape.symm (Option.some_ne_none (key, shape))
    · obtain ⟨x, rest, hx, hitems⟩ := ih hothers hshape
      refine ⟨x, rest, hx, fun v after s => ?_⟩
      simp only [List.cons_append, items, toOption_bind, hitems, Option.bind_assoc]

/-- An entry is read by a field that respects its shape. -/
theorem exists_step_eq (h : HaveShapes f fields shapes) {key : String} {shape : Shape}
    (hshape : shapes.lookup key = some shape) :
    ∃ x : Field σ, x.Respects f shape ∧
      ∀ v s, step fields f s (key, v) = s.bind fun s => (x.read f v s).toOption := by
  obtain ⟨x, hfind, hx⟩ := h.find? hshape
  exact ⟨x, hx, fun v s => step_of_find?_eq_some hfind s⟩

end HaveShapes

namespace Decode

section Struct

variable {fields : List (Field σ)} {shapes : List (String × Shape)} {f : Format} {type : String}
  {default : σ}

/-- A structure is read alike if one array inside is rewritten as a table. -/
theorem toOption_struct_of_rewrites (hcomm : fields.Pairwise Field.Commutes)
    (hnames : (fields.map Field.name).Nodup) (hshapes : HaveShapes f fields shapes)
    {v w : Value} (h : Rewrites (.table shapes) v w) :
    (struct type fields default f v).toOption = (struct type fields default f w).toOption := by
  cases h with
  | asTable hshort hnamed =>
    rw [← hshapes.names_eq] at hnamed
    rw [← hshapes.length_eq] at hshort
    exact toOption_struct_asTable hcomm hnames hshort hnamed
  | @inArray _ before after _ _ v w hfield hinner =>
    obtain ⟨x, rest, hx, hitems⟩ := hshapes.exists_items_eq hfield
    have hlength : (before ++ v :: after).length = (before ++ w :: after).length := by
      simp only [List.length_append, List.length_cons]
    simp only [struct, toOption_bind, hitems, hx.rewritten v w _ hinner, hlength]
  | @inTable _ before after _ _ v w hfield hinner =>
    obtain ⟨x, hx, hstep⟩ := hshapes.exists_step_eq hfield
    simp only [struct, toOption_entries, List.foldl_append, List.foldl_cons, hstep,
      hx.rewritten v w _ hinner]

/-- **A structure is read alike however the structures inside are written.** -/
theorem toOption_struct_of_restates (hcomm : fields.Pairwise Field.Commutes)
    (hnames : (fields.map Field.name).Nodup) (hshapes : HaveShapes f fields shapes)
    {v w : Value} (h : Restates (.table shapes) v w) :
    (struct type fields default f v).toOption = (struct type fields default f w).toOption := by
  unfold Restates at h
  induction h with
  | rel v w h => exact toOption_struct_of_rewrites hcomm hnames hshapes h
  | refl v => rfl
  | symm v w _ ih => exact ih.symm
  | trans u v w _ _ ih ih' => exact ih.trans ih'

/-- **A structure is not read if an array inside is too long.** -/
theorem toOption_struct_of_overlong (hshapes : HaveShapes f fields shapes) {v : Value}
    (h : Overlong (.table shapes) v) : (struct type fields default f v).toOption = none := by
  cases h with
  | here hlong => exact toOption_struct_of_long (hshapes.length_eq ▸ hlong)
  | @inArray _ before after _ _ v hfield hinner =>
    obtain ⟨x, rest, hx, hitems⟩ := hshapes.exists_items_eq hfield
    simp only [struct, toOption_bind, hitems, hx.refused v _ hinner, Option.bind_none,
      Option.bind_fun_none]
  | @inTable _ before after _ _ v hfield hinner =>
    obtain ⟨x, hx, hstep⟩ := hshapes.exists_step_eq hfield
    simp only [struct, toOption_entries, List.foldl_append, List.foldl_cons, hstep,
      hx.refused v _ hinner, Option.bind_fun_none, foldl_step_none]

end Struct

end Decode

/-! ### Reading arrays -/

/-- The values of a table under the keys, in the order of the keys. -/
def Value.inOrder (v : Value) (keys : List String) : List Value := keys.filterMap v.get?

/-- The table has a value for each of the fields, and it is the default value. -/
structure HasDefaults (f : Format) (fields : List (Field σ)) (default : σ) (usual : Value) :
    Prop where
  length : (usual.inOrder (fields.map Field.name)).length = fields.length
  unchanged : ((fields.map Field.name).zip (usual.inOrder (fields.map Field.name))).Forall fun e =>
    Decode.entry fields f default e = .ok default

/-- What is decoded may be written as an array instead of a table. The fields have these shapes, in
the order of their declaration, and `usual` is the table of their default values. -/
structure ReadsArrays (shapes : List (String × Shape)) (usual : Value)
    (decode : Value → Decoded σ) : Prop where
  /-- An array is read as the table that gives its items to the first fields. -/
  asTable : ∀ vs : List Value, vs.length ≤ shapes.length → (decode (.seq vs)).toOption =
    (decode (.ofEntries ((shapes.map Prod.fst).zip vs))).toOption
  /-- It is read as if the default values of the other fields stood at its end. -/
  defaults : ∀ vs : List Value, vs.length ≤ shapes.length → (decode (.seq vs)).toOption =
    (decode (.seq (vs ++ (usual.inOrder (shapes.map Prod.fst)).drop vs.length))).toOption
  /-- Arrays and tables may be mixed in any way, at every depth. -/
  mixed : ∀ v w, Restates (.table shapes) v w → (decode v).toOption = (decode w).toOption
  /-- An array with more items than there are fields is not read, whatever they are. -/
  tooLong : ∀ vs : List Value, shapes.length < vs.length →
    ∃ fault, decode (.seq vs) = .error fault
  /-- Neither is a document with such an array inside, at any depth. -/
  overlong : ∀ v, Overlong (.table shapes) v → ∃ fault, decode v = .error fault

/-- A structure in a field of another one may be rewritten. -/
theorem ReadsArrays.respects_of {f : Format} {shapes : List (String × Shape)} {usual : Value}
    {name : String} {decode : Format → Value → Decoded α} {put : α → σ → σ}
    (h : ReadsArrays shapes usual (decode f)) :
    (Field.of name decode put).Respects f (.table shapes) where
  rewritten := by
    intro v w s hvw
    unfold Field.of
    simp only [toOption_map, h.mixed v w (.rel v w hvw)]
  refused := by
    intro v s hlong
    obtain ⟨fault, hfault⟩ := h.overlong v hlong
    unfold Field.of
    rw [toOption_map, hfault]
    rfl

/-- **A structure may be written as an array** if its fields do not interfere. -/
theorem readsArrays_struct {fields : List (Field σ)} {shapes : List (String × Shape)} {f : Format}
    {type : String} {default : σ} {usual : Value} (hcomm : fields.Pairwise Field.Commutes)
    (hnames : (fields.map Field.name).Nodup) (hshapes : HaveShapes f fields shapes)
    (husual : HasDefaults f fields default usual) :
    ReadsArrays shapes usual (Decode.struct type fields default f) where
  asTable := by
    intro vs hshort
    have hkeys := Decode.nodup_zip_keys (hshapes.names_eq ▸ hnames) vs
    obtain ⟨sorted, hsorted, hperm⟩ := Value.ofEntries_perm hkeys
    rw [hsorted]
    exact Decode.toOption_struct_of_rewrites hcomm hnames hshapes (.asTable hshort hperm)
  defaults := by
    intro vs hshort
    rw [← hshapes.length_eq] at hshort
    rw [← hshapes.names_eq]
    exact Decode.toOption_struct_defaults hcomm hnames hshort husual.length
      (List.forall_iff_forall_mem.mp husual.unchanged)
  mixed := fun v w h => Decode.toOption_struct_of_restates hcomm hnames hshapes h
  tooLong := by
    intro vs hlong
    exact toOption_eq_none_iff.mp (Decode.toOption_struct_of_overlong hshapes (.here hlong))
  overlong := by
    intro v hlong
    exact toOption_eq_none_iff.mp (Decode.toOption_struct_of_overlong hshapes hlong)

end LinkWarden
