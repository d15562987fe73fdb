import LinkWarden.Proofs.Observe.Tail

/-!
# What listeners leave alone

A listener may act while it is told of a change, and what it does may make other listeners act. As
long as none of them acts on a certain cell or drops a listener, that cell stays as it is, and so do
all listeners there have been; new ones may come, and other cells may change.

* `Command.Spares` are the commands that a listener may carry out then.
* `Spared` is what they leave of a board, and `Leaves` what they do besides: no change of the cell
  is made and nobody is told of one.
* `leaves_executeIn` says so of every such command, whatever it makes other listeners do. The
  induction is on the cells that can still be changed.
-/

namespace LinkWarden

variable {α : Type}

/-- A command that neither acts on the cell at a place nor drops a listener. A listener that it
creates is no different. -/
inductive Command.Spares (i : Nat) : Command α → Prop
  | set {j : Nat} {new : α} (h : j ≠ i) : Spares i (.set j new)
  | update {j : Nat} {next : α → Proposal α} (h : j ≠ i) : Spares i (.update j next)
  | listen {j : Nat} {name : String} {act : Option (Command α)} (h : j ≠ i)
      (hact : ∀ command, act = some command → Spares i command) : Spares i (.listen j name act)
  | unlisten {j token : Nat} (h : j ≠ i) : Spares i (.unlisten j token)
  | identify {j : Nat} : Spares i (.identify j)
  | describe {j : Nat} {v : α} : Spares i (.describe j v)
  | debug {j : Nat} : Spares i (.debug j)
  | lastFor {id : String} : Spares i (.lastFor id)
  | fail : Spares i .fail
  | nothing : Spares i .nothing

/-- What the listener does when it is told of a change spares the cell at a place. -/
def Listener.Spares (i : Nat) (l : Listener α) : Prop :=
  ∀ command, l.act = some command → command.Spares i

namespace Board

/-! ### What is left of a board -/

/-- No listener acts on the cell at a place, and none drops a listener. -/
def AllSpare (i : Nat) (b : Board α) : Prop := ∀ l ∈ b.listeners, l.Spares i

/-- Owned listeners are known by their names. -/
def IsNamed (b : Board α) : Prop :=
  ∀ (m n : Nat) (l k : Listener α), b.listeners[m]? = some l → b.listeners[n]? = some k →
    l.owned = true → k.owned = true → l.name = k.name → m = n

/-- The cell at a place has stayed as it was, and so have all listeners. New ones have an owner and
spare the cell. -/
structure Spared (i : Nat) (b b' : Board α) : Prop where
  cell : b'.cells[i]? = b.cells[i]?
  ids : b'.cells.map Cell.id = b.cells.map Cell.id
  listeners : ∃ new, b'.listeners = b.listeners ++ new ∧
    ∀ l ∈ new, l.owned = true ∧ l.running = 0 ∧ l.Spares i
  nextToken : b.nextToken ≤ b'.nextToken
  named : b.IsNamed → b'.IsNamed

/-- A notice that is about no change of the cell at a place. -/
def IsAside (b : Board α) (i : Nat) : Notice α → Prop
  | .told _ id _ _ _ _ => ∃ j, j ≠ i ∧ (b.cells.map Cell.id)[j]? = some id
  | .acted _ _ => True

/-- Which cells a notice can be about is a matter of their ids only. -/
theorem isAside_congr {b b' : Board α} (hids : b'.cells.map Cell.id = b.cells.map Cell.id) {i : Nat}
    {n : Notice α} : b'.IsAside i n ↔ b.IsAside i n := by
  cases n with
  | told => simp only [IsAside, hids]
  | acted => rfl

/-- A board has become another one, and the cell at a place has had no part in it. -/
structure Leaves (i : Nat) (b b' : Board α) (notices : List (Notice α))
    (changes : List (Change α)) : Prop where
  board : Spared i b b'
  notices : ∀ n ∈ notices, b.IsAside i n
  changes : ∀ c ∈ changes, c.cell ≠ i

namespace Spared

variable {i : Nat} {b b' b'' : Board α}

/-- Nothing but the other cells, the history and the time is different. -/
theorem of_listeners_eq (hcell : b'.cells[i]? = b.cells[i]?)
    (hids : b'.cells.map Cell.id = b.cells.map Cell.id) (hlisteners : b'.listeners = b.listeners)
    (htoken : b.nextToken ≤ b'.nextToken) : Spared i b b' where
  cell := hcell
  ids := hids
  listeners := ⟨[], by simp [hlisteners], by simp⟩
  nextToken := htoken
  named := by
    unfold IsNamed
    rw [hlisteners]
    exact id

/-- A board leaves its own cells and listeners alone. -/
theorem refl (i : Nat) (b : Board α) : Spared i b b := .of_listeners_eq rfl rfl rfl (Nat.le_refl _)

/-- What two steps leave alone is left alone by both together; the new listeners of the second one
come after those of the first one. -/
theorem trans (h : Spared i b b') (h' : Spared i b' b'') : Spared i b b'' where
  cell := h'.cell.trans h.cell
  ids := h'.ids.trans h.ids
  listeners := by
    obtain ⟨new, hb', hnew⟩ := h.listeners
    obtain ⟨new', hb'', hnew'⟩ := h'.listeners
    refine ⟨new ++ new', by rw [hb'', hb', List.append_assoc], ?_⟩
    intro l hl
    exact (List.mem_append.mp hl).elim (hnew l) (hnew' l)
  nextToken := Nat.le_trans h.nextToken h'.nextToken
  named := fun hb => h'.named (h.named hb)

/-- No listener goes away. -/
theorem length_le (h : Spared i b b') : b.listeners.length ≤ b'.listeners.length := by
  obtain ⟨new, hb', -⟩ := h.listeners
  rw [hb', List.length_append]
  exact Nat.le_add_right _ _

/-- Each listener keeps its place. -/
theorem getElem? (h : Spared i b b') {n : Nat} {l : Listener α} (hl : b.listeners[n]? = some l) :
    b'.listeners[n]? = some l := by
  obtain ⟨new, hb', -⟩ := h.listeners
  rw [hb', List.getElem?_append_left (List.getElem?_eq_some_iff.mp hl).1]
  exact hl

/-- If all listeners spare the cell at first, all do so later. -/
theorem allSpare (h : Spared i b b') (hb : b.AllSpare i) : b'.AllSpare i := by
  obtain ⟨new, hb', hnew⟩ := h.listeners
  unfold AllSpare
  rw [hb']
  intro l hl
  exact (List.mem_append.mp hl).elim (hb l) fun hl => (hnew l hl).2.2

end Spared

namespace Leaves

variable {i : Nat} {b b' b'' : Board α} {ns ms : List (Notice α)} {cs ds : List (Change α)}

/-- Nothing is told and nothing changes. -/
theorem still (h : Spared i b b') : Leaves i b b' [] [] := ⟨h, by simp, by simp⟩

/-- Steps that have no part in a cell have none together. The notices of the later one are about the
same cells. -/
theorem trans (h : Leaves i b b' ns cs) (h' : Leaves i b' b'' ms ds) :
    Leaves i b b'' (ns ++ ms) (cs ++ ds) where
  board := h.board.trans h'.board
  notices := by
    intro n hn
    rcases List.mem_append.mp hn with hn | hn
    · exact h.notices n hn
    · exact (isAside_congr h.board.ids).mp (h'.notices n hn)
  changes := by
    intro c hc
    exact (List.mem_append.mp hc).elim (h.changes c) (h'.changes c)

end Leaves

/-! ### Calls on listeners -/

section Calls

variable {i : Nat} {b b' : Board α} {n : Nat} {l : Listener α}

/-- A listener that is running acts as it did before. -/
theorem allSpare_enter (hb : b.AllSpare i) (n : Nat) : (b.enter n).AllSpare i := by
  intro l hl
  obtain ⟨m, hm⟩ := List.mem_iff_getElem?.mp hl
  unfold enter at hm
  rw [List.getElem?_modify] at hm
  obtain ⟨k, hk, hlk⟩ := Option.map_eq_some_iff.mp hm
  have hspares := hb k (List.mem_of_getElem? hk)
  split at hlk <;> cases hlk <;> exact hspares

/-- A call that has begun and is over leaves no trace of itself. -/
theorem modify_modify_append {ls new : List (Listener α)} (hl : ls[n]? = some l) :
    ((ls.modify n fun l => { l with running := l.running + 1 }) ++ new).modify n
      (fun l => { l with running := l.running - 1 }) = ls ++ new := by
  have hn := (List.getElem?_eq_some_iff.mp hl).1
  apply List.ext_getElem?
  intro m
  rw [List.getElem?_modify, List.getElem?_append, List.getElem?_append, List.length_modify]
  by_cases hm : m < ls.length
  · rw [if_pos hm, if_pos hm, List.getElem?_modify]
    by_cases hnm : n = m
    · subst hnm
      simp [hl]
    · simp [hnm]
  · rw [if_neg hm, if_neg hm]
    have hnm : n ≠ m := by omega
    simp [hnm]

/-- Listeners that keep their names, and do not get an owner, are still known by them. -/
theorem isNamed_modify {f : Listener α → Listener α} (hname : ∀ l, (f l).name = l.name)
    (howned : ∀ l, (f l).owned = true → l.owned = true) (hb : b.IsNamed) (n : Nat) :
    IsNamed { b with listeners := b.listeners.modify n f } := by
  have hlook : ∀ (m : Nat) (l : Listener α), (b.listeners.modify n f)[m]? = some l →
      ∃ k, b.listeners[m]? = some k ∧ k.name = l.name ∧ (l.owned = true → k.owned = true) := by
    intro m l hl
    rw [List.getElem?_modify] at hl
    obtain ⟨k, hk, hlk⟩ := Option.map_eq_some_iff.mp hl
    refine ⟨k, hk, ?_⟩
    split at hlk <;> subst hlk
    · exact ⟨(hname k).symm, howned k⟩
    · exact ⟨rfl, id⟩
  intro m m' l l' hl hl' hown hown' hsame
  obtain ⟨k, hk, hkname, hkown⟩ := hlook m l hl
  obtain ⟨k', hk', hkname', hkown'⟩ := hlook m' l' hl'
  exact hb m m' k k' hk hk' (hkown hown) (hkown' hown') (by rw [hkname, hkname', hsame])

/-- What is left while a listener is running is left when the call is over. -/
theorem Spared.leave (hl : b.listeners[n]? = some l) (h : Spared i (b.enter n) b') :
    Spared i b (b'.leave n) where
  cell := h.cell
  ids := h.ids
  listeners := by
    obtain ⟨new, hb', hnew⟩ := h.listeners
    refine ⟨new, ?_, hnew⟩
    unfold Board.leave
    rw [hb']
    exact modify_modify_append hl
  nextToken := h.nextToken
  named := by
    intro hb
    have henter : (b.enter n).IsNamed :=
      isNamed_modify (f := fun l => { l with running := l.running + 1 }) (fun _ => rfl)
        (fun _ => id) hb n
    exact isNamed_modify (f := fun l => { l with running := l.running - 1 }) (fun _ => rfl)
      (fun _ => id) (h.named henter) n

/-- The end of a call tells nobody and changes nothing. -/
theorem Leaves.leave {ns : List (Notice α)} {cs : List (Change α)}
    (hl : b.listeners[n]? = some l) (h : Leaves i (b.enter n) b' ns cs) :
    Leaves i b (b'.leave n) ns cs where
  board := h.board.leave hl
  notices := h.notices
  changes := h.changes

end Calls

/-! ### What is no telling -/

section Steps

variable {i j : Nat} {b b' : Board α}

/-- What never changes of a cell includes its id. -/
theorem map_id_of_map_face (h : b'.cells.map Cell.face = b.cells.map Cell.face) :
    b'.cells.map Cell.id = b.cells.map Cell.id := by
  have hid : ∀ cs : List (Cell α), (cs.map Cell.face).map Prod.fst = cs.map Cell.id := by
    intro cs
    rw [List.map_map]
    rfl
  rw [← hid, h, hid]

/-- A new listener gets a name that no owned one has. -/
theorem isNamed_append {new : Listener α} (hb : b.IsNamed)
    (hfresh : ∀ l ∈ b.listeners, l.owned = true → l.name ≠ new.name) :
    IsNamed { b with listeners := b.listeners ++ [new] } := by
  have hlook : ∀ (n : Nat) (l : Listener α), (b.listeners ++ [new])[n]? = some l →
      b.listeners[n]? = some l ∨ n = b.listeners.length ∧ l = new := by
    intro n l hl
    rw [List.getElem?_append] at hl
    split at hl
    · exact .inl hl
    · next hn =>
      rw [List.getElem?_singleton] at hl
      split at hl
      · next hlast =>
        cases hl
        exact .inr ⟨by omega, rfl⟩
      · cases hl
  intro m n l k hl hk hlown hkown hsame
  rcases hlook m l hl with hl' | ⟨hm, rfl⟩
  · rcases hlook n k hk with hk' | ⟨hn, rfl⟩
    · exact hb m n l k hl' hk' hlown hkown hsame
    · exact absurd hsame (hfresh l (List.mem_of_getElem? hl') hlown)
  · rcases hlook n k hk with hk' | ⟨hn, rfl⟩
    · exact absurd hsame.symm (hfresh k (List.mem_of_getElem? hk') hkown)
    · rw [hm, hn]

/-- To look a name up gives the owned listener that has it, if there is one, so two never share it.
-/
theorem isNamed_own (hb : b.IsNamed) (name : String) (act : Option (Command α)) :
    (b.own name act).2.IsNamed := by
  unfold own
  split
  · exact hb
  · next howned =>
    refine isNamed_append hb fun l hl hown hname => ?_
    have hnone := List.findIdx?_eq_none_iff.mp howned l hl
    simp [hown, hname] at hnone

/-- A new listener leaves a cell alone if its act spares it. -/
theorem spared_own (name : String) {act : Option (Command α)}
    (hact : ∀ command, act = some command → command.Spares i) :
    Spared i b (b.own name act).2 := by
  have hnamed : b.IsNamed → (b.own name act).2.IsNamed := fun hb => isNamed_own hb name act
  unfold own at hnamed ⊢
  split
  · exact .refl i b
  · next howned =>
    rw [howned] at hnamed
    exact ⟨rfl, rfl, ⟨[_], rfl, by simpa [Listener.Spares] using hact⟩, Nat.le_refl _, hnamed⟩

/-- So does its registration with another cell. -/
theorem spared_listen (hj : j ≠ i) (name : String) {act : Option (Command α)}
    (hact : ∀ command, act = some command → command.Spares i) :
    Spared i b (b.listen j name act).2 := by
  refine (spared_own name hact).trans (.of_listeners_eq ?_ ?_ rfl (Nat.le_succ _))
  · exact List.getElem?_modify_ne _ _ hj
  · exact map_id_of_map_face (map_face_of_agrees
      ⟨map_bare_modify (fun c => c.register _) (fun _ => rfl) _ j, rfl⟩)

/-- To take back a registration with another cell leaves this one alone. -/
theorem spared_unlisten (hj : j ≠ i) (token : Nat) : Spared i b (b.unlisten j token) :=
  .of_listeners_eq (List.getElem?_modify_ne _ _ hj)
    (map_id_of_map_face (map_face_of_agrees (agrees_unlisten b j token))) rfl (Nat.le_refl _)

/-- A change is made without any listener. -/
theorem listeners_change (b : Board α) (j : Nat) (new : α) :
    (b.change j new).listeners = b.listeners := by
  unfold change
  split
  · rfl
  · dsimp only
    split <;> rfl

/-- A change gives no token. -/
theorem nextToken_change (b : Board α) (j : Nat) (new : α) :
    (b.change j new).nextToken = b.nextToken := by
  unfold change
  split
  · rfl
  · dsimp only
    split <;> rfl

/-- So the change of another cell leaves this one alone. -/
theorem spared_change {c : Cell α} (hc : b.cells[j]? = some c) (hj : j ≠ i) (new : α) :
    Spared i b (b.change j new) := by
  refine .of_listeners_eq ?_ (map_id_of_map_face (map_face_change hc new))
    (listeners_change b j new) (nextToken_change b j new).ge
  rw [cells_change hc]
  exact List.getElem?_set_ne hj

end Steps
/-! ### Tellings -/

end Board

/-- Whether the listener fails when it is told of a change. -/
def Listener.fails (l : Listener α) : Bool :=
  match l.act with
  | some .fail => true
  | _ => false

namespace Board

/-- Whom a change is told, if these are to be told of it: all up to the first one that fails. -/
def heard (b : Board α) : List Nat → List String
  | [] => []
  | n :: ns =>
    match b.listeners[n]? with
    | none => b.heard ns
    | some l => l.name :: if l.fails then [] else b.heard ns

/-- Listeners with these names have been told of a change, one after another. In between there is no
notice of another change of the cell. -/
inductive InTurn (b : Board α) (i : Nat) (c : Change α) : List String → List (Notice α) → Prop
  | done : InTurn b i c [] []
  | told {name : String} {names : List String} {values : List α} {logged : Option String}
      {later : List (Notice α)} (h : InTurn b i c names later) :
      InTurn b i c (name :: names) (.told name c.id c.old c.new values logged :: later)
  | aside {names : List String} {n : Notice α} {later : List (Notice α)} (hn : b.IsAside i n)
      (h : InTurn b i c names later) : InTurn b i c names (n :: later)

/-- Whom a change is told is a matter of the listeners that it is to be told. -/
theorem heard_congr {b b' : Board α} {ns : List Nat}
    (h : ∀ n ∈ ns, b'.listeners[n]? = b.listeners[n]?) : b'.heard ns = b.heard ns := by
  induction ns with
  | nil => rfl
  | cons n ns ih =>
    obtain ⟨hn, hns⟩ := List.forall_mem_cons.mp h
    simp only [heard, hn, ih hns]

/-- If none of them fails, all are told. -/
theorem heard_eq_filterMap {b : Board α} (hfails : ∀ l ∈ b.listeners, l.fails = false)
    (ns : List Nat) : b.heard ns = ns.filterMap fun n => b.listeners[n]?.map Listener.name := by
  induction ns with
  | nil => rfl
  | cons n ns ih =>
    unfold heard
    cases hn : b.listeners[n]? with
    | none => simp [hn, ih]
    | some l => simp [hn, ih, hfails l (List.mem_of_getElem? hn)]

section Tellings

variable {i : Nat} {act : Command α → Board α → Reaction α}

/-- Whatever spares the cell at a place is carried out without it. -/
def ActsAside (i : Nat) (act : Command α → Board α → Reaction α) : Prop :=
  ∀ (command : Command α) (b : Board α), command.Spares i → b.AllSpare i →
    Leaves i b (act command b).board (act command b).notices (act command b).changes

/-- What telling listeners of a change comes to. -/
structure Spreads (i : Nat) (c : Change α) (ns : List Nat) (b : Board α) (t : Telling α) :
    Prop where
  board : Spared i b t.board
  changes : ∀ d ∈ t.changes, d.cell ≠ i
  /-- Owned listeners are told in turn. -/
  notices : ∃ names, b.InTurn i c names t.notices ∧
    ((∀ n ∈ ns, ∃ l, b.listeners[n]? = some l ∧ l.owned = true) → names = b.heard ns)

namespace InTurn

variable {b b' : Board α} {c : Change α} {names : List String} {ns ms : List (Notice α)}

/-- The same notices come in turn on every board whose cells have these ids. -/
theorem congr (hids : b'.cells.map Cell.id = b.cells.map Cell.id) (ht : b'.InTurn i c names ns) :
    b.InTurn i c names ns := by
  induction ht with
  | done => exact .done
  | told _ ih => exact .told ih
  | aside hn _ ih => exact .aside ((isAside_congr hids).mp hn) ih

/-- Notices that are not about the cell may come first. -/
theorem append (hns : ∀ n ∈ ns, b.IsAside i n) (ht : b.InTurn i c names ms) :
    b.InTurn i c names (ns ++ ms) := by
  induction ns with
  | nil => exact ht
  | cons n ns ih =>
    obtain ⟨hn, hns⟩ := List.forall_mem_cons.mp hns
    exact .aside hn (ih hns)

/-- A change of another cell is none of this one's. -/
theorem isAside (hc : c.cell ≠ i) (hid : (b.cells.map Cell.id)[c.cell]? = some c.id)
    (ht : b.InTurn i c names ns) : ∀ n ∈ ns, b.IsAside i n := by
  induction ht with
  | done => simp
  | told _ ih => exact List.forall_mem_cons.mpr ⟨⟨c.cell, hc, hid⟩, ih⟩
  | aside hn _ ih => exact List.forall_mem_cons.mpr ⟨hn, ih⟩

end InTurn

namespace Spreads

variable {c : Change α} {b b' : Board α} {n : Nat} {ns : List Nat} {l : Listener α} {t : Telling α}

/-- A listener that is passed over is not owned. -/
theorem passed (hn : ∀ l, b.listeners[n]? = some l → l.owned = false) (h : Spreads i c ns b t) :
    Spreads i c (n :: ns) b t := by
  obtain ⟨hboard, hchanges, names, hturn, -⟩ := h
  refine ⟨hboard, hchanges, names, hturn, fun howned => ?_⟩
  obtain ⟨l, hl, hown⟩ := howned n List.mem_cons_self
  rw [hn l hl] at hown
  cases hown

/-- A listener that fails is the last one to be told. -/
theorem failed (hl : b.listeners[n]? = some l) (hfails : l.fails = true) :
    Spreads i c (n :: ns) b { failed := true, board := b, notices := [b.told l.name c] } :=
  ⟨.refl i b, by simp, [l.name], .told .done, fun _ => by simp [heard, hl, hfails]⟩

/-- A listener is told, it does something that has nothing to do with the cell, and then the others
are told. -/
theorem cons (hl : b.listeners[n]? = some l) (hfails : l.fails = false)
    {aside : List (Notice α)} {cs : List (Change α)} (hdone : Leaves i b b' aside cs)
    (hlater : Spreads i c ns b' t) :
    Spreads i c (n :: ns) b { t with
      notices := b.told l.name c :: (aside ++ t.notices)
      changes := cs ++ t.changes } := by
  obtain ⟨hboard, hchanges, names, hturn, hnames⟩ := hlater
  refine ⟨hdone.board.trans hboard, ?_, l.name :: names, ?_, fun howned => ?_⟩
  · intro d hd
    exact (List.mem_append.mp hd).elim (hdone.changes d) (hchanges d)
  · exact .told ((hturn.congr hdone.board.ids).append hdone.notices)
  · obtain ⟨-, hrest⟩ := List.forall_mem_cons.mp howned
    have hsame : ∀ m ∈ ns, b'.listeners[m]? = b.listeners[m]? := by
      intro m hm
      obtain ⟨k, hk, -⟩ := hrest m hm
      rw [hk]
      exact hdone.board.getElem? hk
    have hnames' : names = b'.heard ns := hnames fun m hm => by
      rw [hsame m hm]
      exact hrest m hm
    simp [heard, hl, hfails, hnames', heard_congr hsame]

end Spreads

/-- **Listeners whose acts spare the cell are told in turn, and nothing else happens to it.** -/
theorem spreads_tellAll (hact : ActsAside i act) (c : Change α) (ns : List Nat) {b : Board α}
    (hb : b.AllSpare i) : Spreads i c ns b (tellAll act c ns b) := by
  induction ns generalizing b with
  | nil => exact ⟨.refl i b, by simp [tellAll], [], .done, fun _ => rfl⟩
  | cons n ns ih =>
    unfold tellAll
    split
    · next hn => exact (ih hb).passed fun l hl => by rw [hn] at hl; cases hl
    · next l hl =>
      split
      · next hdead =>
        refine (ih hb).passed fun k hk => ?_
        obtain rfl : l = k := Option.some.inj (hl.symm.trans hk)
        have hgone : l.owned = false ∧ l.running = 0 := by simpa [Listener.isAlive] using hdead
        exact hgone.1
      · dsimp only
        split
        · next hnone =>
          exact .cons hl (by simp [Listener.fails, hnone]) (.still (.refl i b)) (ih hb)
        · next hfail => exact .failed hl (by simp [Listener.fails, hfail])
        · next command hne hcommand =>
          have hfails : l.fails = false := by
            unfold Listener.fails
            split
            · next hfail => exact absurd (Option.some.inj (hcommand.symm.trans hfail)) hne
            · rfl
          -- the listener is running while it acts
          have hdone := (hact command (b.enter n) (hb l (List.mem_of_getElem? hl) command hcommand)
            (allSpare_enter hb n)).leave hl
          have hacted : Leaves i ((act command (b.enter n)).board.leave n)
              ((act command (b.enter n)).board.leave n)
              [.acted l.name (act command (b.enter n)).answer] [] :=
            ⟨.refl i _, by simp [IsAside], by simp⟩
          have htold := Spreads.cons (c := c) hl hfails (hdone.trans hacted)
            (ih (hdone.board.allSpare hb))
          simpa using htold

/-- Those that are told of the change of another cell leave this one alone. -/
theorem leaves_tellAll (hact : ActsAside i act) {c : Change α} {b : Board α} (hc : c.cell ≠ i)
    (hid : (b.cells.map Cell.id)[c.cell]? = some c.id) (ns : List Nat) (hb : b.AllSpare i) :
    Leaves i b (tellAll act c ns b).board (tellAll act c ns b).notices
      (tellAll act c ns b).changes := by
  obtain ⟨hboard, hchanges, names, hturn, -⟩ := spreads_tellAll hact c ns hb
  exact ⟨hboard, hturn.isAside hc hid, hchanges⟩

/-! ### Commands -/

/-- To ask about a cell leaves all cells alone. -/
theorem leaves_about (i : Nat) (b : Board α) (j : Nat) (text : Cell α → String) :
    Leaves i b (b.about j text).board (b.about j text).notices (b.about j text).changes := by
  unfold about
  split <;> exact .still (.refl i b)

variable [BEq α]

/-- A call on another cell leaves this one alone, whether it is accepted or not. -/
theorem leaves_changeTelling (hact : ActsAside i act) {j : Nat} (hj : j ≠ i)
    (next : α → Proposal α) (answer : Option (α × α) → Answer α) {b : Board α}
    (hb : b.AllSpare i) :
    Leaves i b (b.changeTelling act j next answer).board
      (b.changeTelling act j next answer).notices (b.changeTelling act j next answer).changes := by
  unfold changeTelling
  split
  · exact .still (.refl i b)
  · next c hc =>
    split
    · exact .still (.refl i b)
    · dsimp only
      split
      · exact .still (.refl i b)
      · next new _ =>
        have hchange := spared_change hc hj new
        have hid : ((b.change j new).cells.map Cell.id)[j]? = some c.id := by
          rw [hchange.ids, List.getElem?_map, hc]
          rfl
        have htelling := leaves_tellAll hact (c := b.changeOf j c new) hj hid
          ((c.change b.isAlive new).registrations.map Registration.listener)
          (hchange.allSpare hb)
        refine ⟨hchange.trans htelling.board, ?_, ?_⟩
        · intro n hn
          exact (isAside_congr hchange.ids).mp (htelling.notices n hn)
        · exact List.forall_mem_cons.mpr ⟨hj, htelling.changes⟩

/-- **What spares a cell leaves it alone, whatever it makes other listeners do.** -/
theorem leaves_executeIn (i : Nat) (free : List Nat) : ActsAside (α := α) i (executeIn free) := by
  induction hn : free.length using Nat.strongRecOn generalizing free with
  | ind n ih =>
    -- what a listener does can change one cell less
    have hact : ∀ j ∈ free, ActsAside (α := α) i (executeIn (free.erase j)) := by
      intro j hj
      refine ih (free.erase j).length ?_ (free.erase j) rfl
      have := List.length_erase_of_mem hj
      have := List.length_pos_of_mem hj
      omega
    intro command b hcommand hb
    cases hcommand with
    | set hj =>
      rw [executeIn]
      split
      · next hmem => exact leaves_changeTelling (hact _ hmem) hj _ _ hb
      · exact .still (.refl i b)
    | update hj =>
      rw [executeIn]
      split
      · next hmem => exact leaves_changeTelling (hact _ hmem) hj _ _ hb
      · exact .still (.refl i b)
    | listen hj hspares =>
      rw [executeIn]
      split
      · exact .still (spared_listen hj _ hspares)
      · exact .still (.refl i b)
    | unlisten hj =>
      rw [executeIn]
      split
      · exact .still (.refl i b)
      · split
        · exact .still (spared_unlisten hj _)
        · exact .still (.refl i b)
    | identify => rw [executeIn]; exact leaves_about i b _ _
    | describe => rw [executeIn]; exact leaves_about i b _ _
    | debug => rw [executeIn]; exact leaves_about i b _ _
    | lastFor => rw [executeIn]; exact .still (.refl i b)
    | fail => rw [executeIn]; exact .still (.refl i b)
    | nothing => rw [executeIn]; exact .still (.refl i b)

end Tellings

end Board

end LinkWarden
