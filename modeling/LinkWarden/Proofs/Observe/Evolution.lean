import LinkWarden.Observe.Dispatch

/-!
# What a command can do to a board

A command may change a cell. Its listeners are told then, and what they do may change other cells,
whose listeners do more. Whatever comes of that, the board goes through a sequence of single changes
and between them only registrations and listeners come and go.

* `Evolves` is this relation. It has one constructor for a change and one for everything that is no
  change, so a fact about boards needs to be checked for these two only.
* `evolves_executeIn` says that every command is an evolution through the changes that it reports,
  in their order; the induction is on the cells that can still be changed. `evolves_run` says so
  of a sequence of commands.
-/

namespace LinkWarden

/-- A cell without its registrations. -/
def Cell.bare {α : Type} (c : Cell α) : Cell α := { c with registrations := [] }

namespace Board

variable {α : Type}

/-! ### Evolutions -/

/-- The boards differ at most in registrations, in listeners and in the time. -/
structure Agrees (b b' : Board α) : Prop where
  cells : b'.cells.map Cell.bare = b.cells.map Cell.bare
  history : b'.history = b.history

/-- A board becomes another one through changes of its cells. -/
inductive Evolves [BEq α] : Board α → List (Change α) → Board α → Prop
  | still {b b' : Board α} (h : Agrees b b') : Evolves b [] b'
  | change {b : Board α} {i : Nat} {c : Cell α} {new : α} (hc : b.cells[i]? = some c)
      (hne : (new == c.value) = false) :
      Evolves b [b.changeOf i c new] (b.change i new)
  | trans {b b' b'' : Board α} {cs ds : List (Change α)} (h : Evolves b cs b')
      (h' : Evolves b' ds b'') : Evolves b (cs ++ ds) b''

/-! ### What is no change -/

/-- A board differs from itself in nothing. -/
theorem agrees_refl (b : Board α) : Agrees b b := ⟨rfl, rfl⟩

/-- Cells differ in their registrations only. -/
theorem map_bare_modify (f : Cell α → Cell α) (hf : ∀ c, (f c).bare = c.bare)
    (cs : List (Cell α)) (i : Nat) : (cs.modify i f).map Cell.bare = cs.map Cell.bare := by
  apply List.ext_getElem?
  intro j
  rw [List.getElem?_map, List.getElem?_modify, List.getElem?_map]
  cases cs[j]? with
  | none => rfl
  | some c =>
    by_cases hij : i = j
    · simp [hij, hf]
    · simp [hij]

/-- A listener that is created changes no value and adds no record. -/
theorem agrees_own (b : Board α) (name : String) (act : Option (Command α)) :
    Agrees b (b.own name act).2 := by
  unfold own
  split <;> exact ⟨rfl, rfl⟩

/-- Nor does a registration. -/
theorem agrees_listen (b : Board α) (i : Nat) (name : String) (act : Option (Command α)) :
    Agrees b (b.listen i name act).2 := by
  have h := agrees_own b name act
  exact ⟨(map_bare_modify (fun c => c.register _) (fun _ => rfl) _ i).trans h.cells, h.history⟩

/-- Nor does a registration that is taken back. -/
theorem agrees_unlisten (b : Board α) (i token : Nat) : Agrees b (b.unlisten i token) :=
  ⟨map_bare_modify (fun c => c.unregister token) (fun _ => rfl) _ i, rfl⟩

/-- Nor does a listener that is dropped. -/
theorem agrees_drop (b : Board α) (name : String) : Agrees b (b.drop name) := by
  unfold drop
  split <;> exact ⟨rfl, rfl⟩

/-! ### Listeners that do nothing -/

/-- No listener does anything when it is told of a change. -/
def IsQuiet (b : Board α) : Prop := ∀ l ∈ b.listeners, l.act = none

/-- Where no listener does anything, a change that is told leads to no other one. -/
theorem changes_tellAll_of_isQuiet (act : Command α → Board α → Reaction α) (c : Change α)
    (ns : List Nat) {b : Board α} (hb : b.IsQuiet) : (tellAll act c ns b).changes = [] := by
  induction ns with
  | nil => rfl
  | cons n ns ih =>
    unfold tellAll
    split
    · exact ih
    · next l hl =>
      split
      · exact ih
      · have hact : l.act = none := hb l (List.mem_of_getElem? hl)
        simp only [hact]
        exact ih

/-- A change leaves the listeners as they are, so they still do nothing. -/
theorem IsQuiet.change {b : Board α} (hb : b.IsQuiet) (i : Nat) (new : α) :
    (b.change i new).IsQuiet := by
  have hlisteners : (b.change i new).listeners = b.listeners := by
    unfold Board.change
    split
    · rfl
    · dsimp only
      split <;> rfl
  unfold IsQuiet
  rw [hlisteners]
  exact hb

/-! ### What a command does -/

section Commands

variable [BEq α]

/-- A board that stays as it is goes through no change. -/
theorem Evolves.refl (b : Board α) : Evolves b [] b := .still (agrees_refl b)

/-- What is no change may come first. -/
theorem Agrees.evolves {b b' b'' : Board α} {cs : List (Change α)} (h : Agrees b b')
    (h' : Evolves b' cs b'') : Evolves b cs b'' :=
  (Evolves.still h).trans h'

/-- If what a listener does is an evolution, so is what all of them do. -/
theorem evolves_tellAll {act : Command α → Board α → Reaction α}
    (hact : ∀ command b, Evolves b (act command b).changes (act command b).board) (c : Change α)
    (ns : List Nat) (b : Board α) :
    Evolves b (tellAll act c ns b).changes (tellAll act c ns b).board := by
  induction ns generalizing b with
  | nil => exact .refl b
  | cons n ns ih =>
    unfold tellAll
    split
    · exact ih b
    · next l _ =>
      split
      · exact ih b
      · dsimp only
        split
        · exact ih b
        · exact .refl b
        · next command _ _ =>
          -- the listener is running while it acts
          have henter : Agrees b (b.enter n) := ⟨rfl, rfl⟩
          have hleave : Agrees (act command (b.enter n)).board
              ((act command (b.enter n)).board.leave n) := ⟨rfl, rfl⟩
          exact (henter.evolves (hact command _)).trans (hleave.evolves (ih _))

/-- A call on a cell is its change, if it is accepted, and then what the listeners do. -/
theorem evolves_changeTelling {act : Command α → Board α → Reaction α}
    (hact : ∀ command b, Evolves b (act command b).changes (act command b).board) (i : Nat)
    (next : α → Proposal α) (answer : Option (α × α) → Answer α) (b : Board α) :
    Evolves b (b.changeTelling act i next answer).changes
      (b.changeTelling act i next answer).board := by
  unfold changeTelling
  split
  · exact .refl b
  · next c hc =>
    split
    · exact .refl b
    · next proposal _ =>
      dsimp only
      split
      · exact .refl b
      · next new haccepted =>
        have hne := (Cell.accepted?_eq_some_iff.mp haccepted).2
        exact (Evolves.change hc hne).trans (evolves_tellAll hact _ _ _)

/-- To ask about a cell is no change. -/
theorem evolves_about (b : Board α) (i : Nat) (text : Cell α → String) :
    Evolves b (b.about i text).changes (b.about i text).board := by
  unfold about
  split <;> exact .refl b

/-- **Every command is an evolution through the changes that it reports.** -/
theorem evolves_executeIn (free : List Nat) (command : Command α) (b : Board α) :
    Evolves b (executeIn free command b).changes (executeIn free command b).board := by
  induction hn : free.length using Nat.strongRecOn generalizing free command b with
  | ind n ih =>
    -- what a listener does can change one cell less
    have hact : ∀ i ∈ free, ∀ (command : Command α) (b : Board α),
        Evolves b (executeIn (free.erase i) command b).changes
          (executeIn (free.erase i) command b).board := by
      intro i hi command b
      refine ih (free.erase i).length ?_ (free.erase i) command b rfl
      have := List.length_erase_of_mem hi
      have := List.length_pos_of_mem hi
      omega
    cases command with
    | set i new =>
      rw [executeIn]
      split
      · next hi => exact evolves_changeTelling (hact i hi) i _ _ b
      · exact .refl b
    | update i next =>
      rw [executeIn]
      split
      · next hi => exact evolves_changeTelling (hact i hi) i _ _ b
      · exact .refl b
    | listen i name act =>
      rw [executeIn]
      split
      · exact .still (agrees_listen b i name act)
      · exact .refl b
    | unlisten i token =>
      rw [executeIn]
      split
      · exact .refl b
      · split
        · exact .still (agrees_unlisten b i token)
        · exact .refl b
    | drop name =>
      rw [executeIn]
      exact .still (agrees_drop b name)
    | identify i =>
      rw [executeIn]
      exact evolves_about b i _
    | describe i v =>
      rw [executeIn]
      exact evolves_about b i _
    | debug i =>
      rw [executeIn]
      exact evolves_about b i _
    | lastFor id =>
      rw [executeIn]
      exact .refl b
    | fail =>
      rw [executeIn]
      exact .refl b
    | nothing =>
      rw [executeIn]
      exact .refl b

/-! ### A call on one cell -/

/-- What a call on a cell comes to. -/
structure Judges (b : Board α) (i : Nat) (c : Cell α) : Prop where
  /-- A call that is rejected changes nothing, and nobody is told. -/
  rejects : ∀ next, next c.value ≠ .fails → c.accepted? (next c.value) = none →
    b.execute (.update i next) = { answer := .updated none, board := b }
  stays : ∀ v, (v == c.value) = true → b.execute (.set i v) = { answer := .yes false, board := b }
  /-- Of an accepted one the change comes first, and then those that listeners make, if any. -/
  accepts : ∀ next new, c.accepted? (next c.value) = some new →
    ∃ later, (b.execute (.update i next)).changes = b.changeOf i c new :: later ∧
      (b.IsQuiet → later = [])
  moves : ∀ v, (v == c.value) = false →
    ∃ later, (b.execute (.set i v)).changes = b.changeOf i c v :: later ∧
      (b.IsQuiet → later = [])

section Call

variable {b : Board α} {i : Nat} {c : Cell α} (hc : b.cells[i]? = some c)
  (act : Command α → Board α → Reaction α) {next : α → Proposal α}
  (answer : Option (α × α) → Answer α)

include hc

/-- What the cell rejects is answered, and the board stays as it is. -/
theorem changeTelling_of_rejected (hnext : next c.value ≠ .fails)
    (h : c.accepted? (next c.value) = none) :
    b.changeTelling act i next answer = { answer := answer none, board := b } := by
  unfold changeTelling
  rw [hc]
  dsimp only
  split
  · next hfails => exact absurd hfails hnext
  · rw [h]

/-- What the cell accepts is the first change; there are others only if some listener does
something. -/
theorem changes_changeTelling_of_accepted {new : α} (h : c.accepted? (next c.value) = some new) :
    ∃ later, (b.changeTelling act i next answer).changes = b.changeOf i c new :: later ∧
      (b.IsQuiet → later = []) := by
  have hnext := (Cell.accepted?_eq_some_iff.mp h).1
  unfold changeTelling
  rw [hc]
  dsimp only
  split
  · next hfails =>
    rw [hnext] at hfails
    cases hfails
  · rw [h]
    exact ⟨_, rfl, fun hb => changes_tellAll_of_isQuiet act _ _ (hb.change i new)⟩

/-- **A call that is rejected does nothing; one that is accepted changes the cell first.** -/
theorem judges : Judges b i c := by
  have hi : i ∈ List.range b.cells.length :=
    List.mem_range.mpr (List.getElem?_eq_some_iff.mp hc).1
  have hset : ∀ v, b.execute (.set i v) = b.changeTelling
      (executeIn ((List.range b.cells.length).erase i)) i (fun _ => .becomes v)
      fun values => .yes values.isSome := by
    intro v
    unfold execute
    rw [executeIn]
    exact dif_pos hi
  have hupdate : ∀ next, b.execute (.update i next) = b.changeTelling
      (executeIn ((List.range b.cells.length).erase i)) i next .updated := by
    intro next
    unfold execute
    rw [executeIn]
    exact dif_pos hi
  refine ⟨?_, ?_, ?_, ?_⟩
  · intro next hnext hrejected
    rw [hupdate]
    exact changeTelling_of_rejected hc _ _ hnext hrejected
  · intro v hv
    have hrejected : c.accepted? (.becomes v) = none := by simp [Cell.accepted?, hv]
    rw [hset]
    exact changeTelling_of_rejected hc _ _ (by simp) hrejected
  · intro next new haccepted
    rw [hupdate]
    exact changes_changeTelling_of_accepted hc _ _ haccepted
  · intro v hv
    rw [hset]
    exact changes_changeTelling_of_accepted hc _ _ (Cell.accepted?_eq_some_iff.mpr ⟨rfl, hv⟩)

end Call

/-! ### Sequences of commands -/

/-- The board after commands that are carried out one after another, each at its time, and the
changes that were accepted. -/
def run : List (Timestamp × Command α) → Board α → Board α × List (Change α)
  | [], b => (b, [])
  | (time, command) :: rest, b =>
    let reaction := { b with clock := time }.execute command
    let later := run rest reaction.board
    (later.1, reaction.changes ++ later.2)

/-- **So is every sequence of commands.** -/
theorem evolves_run (xs : List (Timestamp × Command α)) (b : Board α) :
    Evolves b (run xs b).2 (run xs b).1 := by
  induction xs generalizing b with
  | nil => exact .refl b
  | cons x xs ih =>
    have hclock : Agrees b { b with clock := x.1 } := ⟨rfl, rfl⟩
    exact (hclock.evolves (evolves_executeIn _ x.2 _)).trans (ih _)

end Commands

end Board

end LinkWarden
