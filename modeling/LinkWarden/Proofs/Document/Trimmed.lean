import LinkWarden.Document.Struct
import Mathlib.Data.List.Basic

/-!
# Documents with keys left out and keys added

A structure is decoded over the values that its fields have by default, so a document may leave keys
out and may hold keys that are no fields. `Trims` relates a document to what is left of it when this
is done to some of its tables.

* What is left of what is left is left of the whole (`Trims.trans`).
* A `Slot` is a field of a structure that has been written: what was written, and what the structure
  gets from what is left of it.
* `entries_of_trims` decodes what is left of a table, slot by slot.
-/

namespace LinkWarden

/-! ### What is left of a document -/

/-- Which parts of a document may be changed: the tables of structures, given by their fields. -/
inductive Shape
  | /-- The value stays as it is. -/
    whole
  | /-- Keys may be left out of the table, and others may be added to it. -/
    table (fields : List (String × Shape))

/-- The second entries are left of the first ones, those of a table with these fields, when keys are
left out and keys that are no fields are added, also in the tables of the fields. -/
inductive TrimsEntries :
    List (String × Shape) → List (String × Value) → List (String × Value) → Prop
  | nothing {fields : List (String × Shape)} : TrimsEntries fields [] []
  | /-- A field stays as it is. -/
    keep {fields : List (String × Shape)} {key : String} {v : Value}
    {es es' : List (String × Value)} (field : fields.lookup key = some .whole)
    (rest : TrimsEntries fields es es') : TrimsEntries fields ((key, v) :: es) ((key, v) :: es')
  | /-- A field stays, with what is left of its table. -/
    keepTable {fields inner : List (String × Shape)} {key : String}
    {vs vs' es es' : List (String × Value)} (field : fields.lookup key = some (.table inner))
    (table : TrimsEntries inner vs vs') (rest : TrimsEntries fields es es') :
    TrimsEntries fields ((key, .table vs) :: es) ((key, .table vs') :: es')
  | /-- A key is left out. -/
    drop {fields : List (String × Shape)} {key : String} {v : Value}
    {es es' : List (String × Value)} (rest : TrimsEntries fields es es') :
    TrimsEntries fields ((key, v) :: es) es'
  | /-- A key that is no field is added, with any value. -/
    add {fields : List (String × Shape)} {key : String} {v : Value}
    {es es' : List (String × Value)} (noField : fields.lookup key = none)
    (rest : TrimsEntries fields es es') : TrimsEntries fields es ((key, v) :: es')

/-- The second document is left of the first one. -/
inductive Trims : Shape → Value → Value → Prop
  | whole (v : Value) : Trims .whole v v
  | table {fields : List (String × Shape)} {es es' : List (String × Value)}
    (entries : TrimsEntries fields es es') : Trims (.table fields) (.table es) (.table es')

/-- A field stays, with what is left of its value. -/
theorem TrimsEntries.keep_of_trims {fields : List (String × Shape)} {key : String} {shape : Shape}
    {v v' : Value} {es es' : List (String × Value)} (hfield : fields.lookup key = some shape)
    (h : Trims shape v v') (rest : TrimsEntries fields es es') :
    TrimsEntries fields ((key, v) :: es) ((key, v') :: es') := by
  cases h with
  | whole => exact .keep hfield rest
  | table htable => exact .keepTable hfield htable rest

/-- Keys that are no fields may be added in front. -/
theorem TrimsEntries.addAll {fields : List (String × Shape)} {es es' : List (String × Value)}
    (h : TrimsEntries fields es es') {added : List (String × Value)}
    (hadded : ∀ e ∈ added, fields.lookup e.1 = none) : TrimsEntries fields es (added ++ es') := by
  induction added with
  | nil => exact h
  | cons e added ih =>
    exact .add (hadded e List.mem_cons_self) (ih fun d hd => hadded d (List.mem_cons_of_mem e hd))

/-- Behind keys that have been added, the first entry is left out or what is left of it is there, and
then what is left of the others. -/
theorem TrimsEntries.exists_of_cons {fields : List (String × Shape)} {key : String} {v : Value}
    {es es' : List (String × Value)} (h : TrimsEntries fields ((key, v) :: es) es') :
    ∃ added rest, es' = added ++ rest ∧ (∀ e ∈ added, fields.lookup e.1 = none) ∧
      (TrimsEntries fields es rest ∨ ∃ shape v' rest', fields.lookup key = some shape ∧
        Trims shape v v' ∧ rest = (key, v') :: rest' ∧ TrimsEntries fields es rest') := by
  generalize hes : (key, v) :: es = l at h
  induction h with
  | nothing => cases hes
  | keep hfield hrest =>
    obtain ⟨⟨rfl, rfl⟩, rfl⟩ := by simpa using hes
    exact ⟨[], _, rfl, by simp, .inr ⟨_, _, _, hfield, .whole _, rfl, hrest⟩⟩
  | keepTable hfield htable hrest =>
    obtain ⟨⟨rfl, rfl⟩, rfl⟩ := by simpa using hes
    exact ⟨[], _, rfl, by simp, .inr ⟨_, _, _, hfield, .table htable, rfl, hrest⟩⟩
  | drop hrest =>
    obtain ⟨-, rfl⟩ := List.cons.inj hes
    exact ⟨[], _, rfl, by simp, .inl hrest⟩
  | @add _ newKey w _ _ hnone _ ih =>
    obtain ⟨added, rest, rfl, hadded, hrest⟩ := ih hes
    exact ⟨(newKey, w) :: added, rest, rfl, List.forall_mem_cons.mpr ⟨hnone, hadded⟩, hrest⟩

/-- What is left of what is left is left of the whole. -/
theorem TrimsEntries.trans {fields : List (String × Shape)} {es es' es'' : List (String × Value)}
    (h : TrimsEntries fields es es') (h' : TrimsEntries fields es' es'') :
    TrimsEntries fields es es'' := by
  induction h generalizing es'' with
  | nothing => exact h'
  | drop _ ih => exact .drop (ih h')
  | keep hfield _ ih =>
    obtain ⟨added, rest, rfl, hadded, hdrop | ⟨shape, v', rest', hshape, hv, rfl, hrest⟩⟩ :=
      h'.exists_of_cons
    · exact (TrimsEntries.drop (ih hdrop)).addAll hadded
    · exact (TrimsEntries.keep_of_trims hshape hv (ih hrest)).addAll hadded
  | keepTable hfield _ _ ihtable ih =>
    obtain ⟨added, rest, rfl, hadded, hdrop | ⟨shape, v', rest', hshape, hv, rfl, hrest⟩⟩ :=
      h'.exists_of_cons
    · exact (TrimsEntries.drop (ih hdrop)).addAll hadded
    · obtain rfl := Option.some.inj (hfield.symm.trans hshape)
      cases hv with
      | table htable =>
        exact (TrimsEntries.keepTable hfield (ihtable htable) (ih hrest)).addAll hadded
  | add hnone _ ih =>
    obtain ⟨added, rest, rfl, hadded, hdrop | ⟨shape, v', rest', hshape, -, -, -⟩⟩ :=
      h'.exists_of_cons
    · exact (ih hdrop).addAll hadded
    · exact absurd (hnone.symm.trans hshape).symm (Option.some_ne_none shape)

/-- Keys may be left out and added twice in a row. -/
theorem Trims.trans {shape : Shape} {u v w : Value} (h : Trims shape u v) (h' : Trims shape v w) :
    Trims shape u w := by
  cases h with
  | whole => exact h'
  | table hentries =>
    cases h' with
    | table hentries' => exact .table (hentries.trans hentries')

namespace Value

/-- The value under a key, if there is a table that has it. -/
def get? : Value → String → Option Value
  | .table es, key => lookup? es key
  | _, _ => none

/-- The first entry is found under its key. -/
theorem lookup?_cons_self (key : String) (v : Value) (es : List (String × Value)) :
    lookup? ((key, v) :: es) key = some v := by
  simp [lookup?]

/-- The first entry is not found under another key. -/
theorem lookup?_cons_of_ne {key other : String} (h : other ≠ key) (v : Value)
    (es : List (String × Value)) : lookup? ((other, v) :: es) key = lookup? es key := by
  have hne : (other == key) = false := by simpa using h
  unfold lookup?
  rw [List.find?_cons, hne]

end Value

open Value

/-- A field that has not been there is not there afterwards. -/
theorem TrimsEntries.lookup?_eq_none {fields : List (String × Shape)}
    {es es' : List (String × Value)} (h : TrimsEntries fields es es') {key : String}
    (hfield : fields.lookup key ≠ none) (hkey : key ∉ es.map Prod.fst) :
    lookup? es' key = none := by
  induction h with
  | nothing => rfl
  | keep _ _ ih | keepTable _ _ _ _ ih =>
    obtain ⟨hne, hrest⟩ := not_or.mp (mt List.mem_cons.mpr hkey)
    rw [lookup?_cons_of_ne (Ne.symm hne)]
    exact ih hfield hrest
  | drop _ ih => exact ih hfield (mt (List.mem_cons_of_mem _) hkey)
  | add hnone _ ih =>
    rw [lookup?_cons_of_ne]
    · exact ih hfield hkey
    · rintro rfl
      exact hfield hnone

/-! ### Slots -/

variable {σ α : Type}

/-- A field of a structure that has been written under a key, and how what is left of it is read.
The structure is one with these fields, and those of its tables that may be changed have these
shapes. -/
structure Slot (fields : List (Field σ)) (shapes : List (String × Shape)) (f : Format) where
  key : String
  shape : Shape
  /-- What was written. -/
  value : Value
  /-- What the structure gets from what is left of it. -/
  put : Option Value → σ → σ
  known : shapes.lookup key = some shape
  /-- All that was written may be left. -/
  self : Trims shape value value
  read : ∀ v, Trims shape value v → ∀ s, Decode.entry fields f s (key, v) = .ok (put (some v) s)
  put_none : ∀ s, put none s = s

namespace Slot

variable {fields : List (Field σ)} {shapes : List (String × Shape)} {f : Format}

/-- The entry that was written. -/
def entry (x : Slot fields shapes f) : String × Value := (x.key, x.value)

/-- A field that becomes `kept v` where `v` is left of it, and stays as it is where nothing is. -/
def of (key : String) (shape : Shape) (value : Value) (get : σ → α) (kept : Value → α)
    {decode : Format → Value → Decoded α} {put : α → σ → σ}
    (hknown : shapes.lookup key = some shape)
    (hfield : fields.find? (fun field => field.name == key) = some (.of key decode put))
    (hput : ∀ s, put (get s) s = s) (hself : Trims shape value value)
    (hdecode : ∀ v, Trims shape value v → decode f v = .ok (kept v)) : Slot fields shapes f where
  key
  shape
  value
  put := fun v s => put (v.elim (get s) kept) s
  known := hknown
  self := hself
  read := by
    intro v hv s
    have hentry : Decode.entry fields f s (key, v) =
        Decoded.under key ((decode f v).map fun a => put a s) := by
      simp only [Decode.entry, hfield]
      rfl
    rw [hentry, hdecode v hv]
    rfl
  put_none := hput

/-- A field that is left as it is or left out. -/
def plain (key : String) (value : Value) (get : σ → α) (a : α)
    {decode : Format → Value → Decoded α} {put : α → σ → σ}
    (hknown : shapes.lookup key = some .whole)
    (hfield : fields.find? (fun field => field.name == key) = some (.of key decode put))
    (hput : ∀ s, put (get s) s = s) (hdecode : decode f value = .ok a) : Slot fields shapes f :=
  of key .whole value get (fun _ => a) hknown hfield hput (.whole value) fun _ hv => by
    cases hv
    exact hdecode

/-- All of a table may be left. -/
theorem trims_self (slots : List (Slot fields shapes f)) :
    Trims (.table shapes) (.table (slots.map entry)) (.table (slots.map entry)) := by
  have hentries : TrimsEntries shapes (slots.map entry) (slots.map entry) := by
    induction slots with
    | nil => exact .nothing
    | cons x rest ih => exact .keep_of_trims x.known x.self ih
  exact .table hentries

end Slot

namespace Decode

variable {fields : List (Field σ)} {shapes : List (String × Shape)} {f : Format}

/-- The structure that slots make of what is left of their table. -/
def fill (slots : List (Slot fields shapes f)) (v : Value) (s : σ) : σ :=
  slots.foldl (fun s x => x.put (v.get? x.key) s) s

/-- What the slots are filled with depends on the values under their keys only. -/
theorem fill_congr {slots : List (Slot fields shapes f)} {v w : Value}
    (h : ∀ x ∈ slots, v.get? x.key = w.get? x.key) (s : σ) : fill slots v s = fill slots w s :=
  List.foldl_ext _ _ s fun s x hx => by rw [h x hx]

section Trimmed

variable {slots : List (Slot fields shapes f)}

/-- The first slot is still there. -/
theorem entries_of_kept {x : Slot fields shapes f} {v : Value} {es' : List (String × Value)}
    (hv : Trims x.shape x.value v) (hkeys : ((x :: slots).map Slot.key).Nodup)
    (ih : ∀ s, entries fields f es' s = .ok (fill slots (.table es') s)) (s : σ) :
    entries fields f ((x.key, v) :: es') s =
      .ok (fill (x :: slots) (.table ((x.key, v) :: es')) s) := by
  have hne : ∀ y ∈ slots, x.key ≠ y.key := by
    intro y hy heq
    exact (List.nodup_cons.mp hkeys).1 (heq ▸ List.mem_map_of_mem hy)
  have hrest : ∀ t, fill slots (.table es') t = fill slots (.table ((x.key, v) :: es')) t :=
    fill_congr fun y hy => (lookup?_cons_of_ne (hne y hy) v es').symm
  have hhead : entries fields f ((x.key, v) :: es') s =
      entries fields f es' (x.put (some v) s) := by
    rw [entries, x.read v hv s]
    rfl
  rw [hhead, ih, hrest]
  unfold fill
  rw [List.foldl_cons, get?, lookup?_cons_self]

/-- **What is left of a table is decoded slot by slot**: a field that has been left out keeps the
value that it has by default, and other keys are of no account. -/
theorem entries_of_trims {es' : List (String × Value)}
    (h : TrimsEntries shapes (slots.map Slot.entry) es')
    (hfields : ∀ key, shapes.lookup key = none →
      fields.find? (fun field => field.name == key) = none)
    (hkeys : (slots.map Slot.key).Nodup) (s : σ) :
    entries fields f es' s = .ok (fill slots (.table es') s) := by
  generalize hes : slots.map Slot.entry = es at h
  induction h generalizing s with
  | nothing =>
    obtain rfl := List.map_eq_nil_iff.mp hes
    rfl
  | keep hfield _ ih =>
    obtain ⟨x, rest, rfl, hx, hentries⟩ := List.map_eq_cons_iff.mp hes
    obtain ⟨rfl, rfl⟩ := Prod.mk.inj hx
    have hshape : x.shape = .whole := Option.some.inj (x.known.symm.trans hfield)
    exact entries_of_kept (hshape ▸ .whole x.value) hkeys
      (ih hfields (List.nodup_cons.mp hkeys).2 · hentries) s
  | keepTable hfield htable _ _ ih =>
    obtain ⟨x, rest, rfl, hx, hentries⟩ := List.map_eq_cons_iff.mp hes
    obtain ⟨rfl, hvalue⟩ := Prod.mk.inj hx
    have hshape : x.shape = _ := Option.some.inj (x.known.symm.trans hfield)
    have htrims := Trims.table htable
    rw [← hshape, ← hvalue] at htrims
    exact entries_of_kept htrims hkeys (ih hfields (List.nodup_cons.mp hkeys).2 · hentries) s
  | drop hrest ih =>
    obtain ⟨x, rest, rfl, hx, rfl⟩ := List.map_eq_cons_iff.mp hes
    obtain ⟨hkey, hkeysrest⟩ := List.nodup_cons.mp hkeys
    -- Keys are not repeated, so nothing among the other entries stands in for the lost one.
    have hgone : lookup? _ x.key = none :=
      hrest.lookup?_eq_none (by simp [x.known]) (by simpa [Slot.entry] using hkey)
    rw [ih hfields hkeysrest s rfl, fill, fill, List.foldl_cons, get?, hgone, x.put_none]
  | @add _ key v _ es' hnone _ ih =>
    have hhead : entry fields f s (key, v) = .ok s := by
      simp only [entry, hfields key hnone]
    have hne : ∀ x ∈ slots, key ≠ x.key := by
      rintro x _ rfl
      simp [x.known] at hnone
    have hfill : fill slots (.table es') s = fill slots (.table ((key, v) :: es')) s := by
      refine fill_congr (fun x hx => ?_) s
      exact (lookup?_cons_of_ne (hne x hx) v es').symm
    rw [entries, hhead, ← hfill]
    exact ih hfields hkeys s hes

/-- What is left of the document of a structure is decoded slot by slot. -/
theorem struct_of_trims (slots : List (Slot fields shapes f)) {type : String} {default : σ}
    {v : Value}
    (h : Trims (.table shapes) (.table (slots.map Slot.entry)) v)
    (hnames : shapes.map Prod.fst = fields.map Field.name) (hkeys : (slots.map Slot.key).Nodup) :
    struct type fields default f v = .ok (fill slots v default) := by
  have hfields : ∀ key, shapes.lookup key = none →
      fields.find? (fun field => field.name == key) = none := by
    intro key hnone
    have hkey : key ∉ fields.map Field.name := by
      rw [← hnames]
      rintro hmem
      obtain ⟨entry, hentry, rfl⟩ := List.mem_map.mp hmem
      simpa using List.lookup_eq_none_iff.mp hnone entry hentry
    rw [List.find?_eq_none]
    intro field hfield heq
    exact hkey (beq_iff_eq.mp heq ▸ List.mem_map_of_mem hfield)
  cases h with
  | table htrims => exact entries_of_trims htrims hfields hkeys default

end Trimmed

end Decode

end LinkWarden
