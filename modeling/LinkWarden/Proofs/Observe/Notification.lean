import LinkWarden.Proofs.Observe.Story

/-!
# Whom a change is told

A cell that accepts a change records it and then calls the listeners of its live registrations. Who
these are is read off its story.

* `Announces` is what an accepted change comes to, and `Serves` what any call on the cell does.
* `serves_run` says this of every sequence of commands, as long as no listener acts on the cell or
  drops another one.
-/

namespace LinkWarden

open Happening

variable {α : Type}

/-! ### The record of a change -/

/-- A history that has come about by adding records. -/
def History.IsMade (h : History) : Prop := ∃ k rs, h = (empty k).appendAll rs

/-- A history that gets one more record has come about in this way too. -/
theorem History.IsMade.append {h : History} (hh : h.IsMade) (r : Record) :
    (h.append r).1.IsMade := by
  obtain ⟨k, rs, rfl⟩ := hh
  exact ⟨k, rs ++ [r], (appendAll_append _ rs [r]).symm⟩

/-- A record that has just been added is the latest one of its component. -/
theorem History.IsMade.lastFor?_append {h : History} (hh : h.IsMade) (r : Record) :
    (h.append r).1.lastFor? r.component = some r := by
  obtain ⟨k, rs, rfl⟩ := hh
  have hrecords : (((empty k).appendAll rs).append r).1.records = (rs ++ [r]).rtake (max k 1) := by
    rw [← records_appendAll_empty, appendAll_append]
    rfl
  obtain ⟨m, hm⟩ : ∃ m, max k 1 = m + 1 := ⟨max k 1 - 1, by omega⟩
  rw [lastFor?_eq, hrecords, hm, List.rtake_concat_succ, List.filter_append]
  simp

namespace Board

/-- A change adds at most one record. -/
theorem isMade_change {b : Board α} (hb : ∀ h, b.history = some h → h.IsMade) (i : Nat) (new : α) :
    ∀ h, (b.change i new).history = some h → h.IsMade := by
  unfold change
  split
  · exact hb
  · dsimp only
    split
    · intro h hh
      obtain ⟨h', hh', rfl⟩ := Option.map_eq_some_iff.mp hh
      exact (hb h' hh').append _
    · exact hb

/-- So whatever becomes of a board, its history has come about by adding records. -/
theorem Evolves.isMade [BEq α] {b b' : Board α} {cs : List (Change α)} (he : Evolves b cs b')
    (hb : ∀ h, b.history = some h → h.IsMade) : ∀ h, b'.history = some h → h.IsMade := by
  induction he with
  | still h =>
    rw [h.history]
    exact hb
  | change => exact isMade_change hb _ _
  | trans _ _ ih ih' => exact ih' (ih hb)

/-- The change of a recorded cell is the latest record of that cell. -/
theorem lastFor?_change {b : Board α} (hb : ∀ h, b.history = some h → h.IsMade) {i : Nat}
    {c : Cell α} (hc : b.cells[i]? = some c) (hrecorded : c.recorded = true) {h : History}
    (hh : b.history = some h) (new : α) :
    (b.change i new).lastFor? c.id = some {
      component := c.id, before := c.describe c.value, after := c.describe new,
      time := b.clock } := by
  unfold change
  rw [hc]
  dsimp only
  rw [if_pos hrecorded]
  unfold record lastFor?
  dsimp only
  rw [hh]
  exact (hb h hh).lastFor?_append {
    component := c.id, before := c.describe c.value, after := c.describe new, time := b.clock }

/-! ### Whom a change is told -/

/-- What an accepted change of the cell at a place comes to if these listeners are to be told. -/
structure Announces (b : Board α) (i : Nat) (c : Cell α) (new : α) (listeners : List Nat)
    (r : Reaction α) : Prop where
  /-- The change comes first. All later ones are those of other cells. -/
  changes : ∃ later, r.changes = b.changeOf i c new :: later ∧ ∀ d ∈ later, d.cell ≠ i
  /-- The listeners are told in order, each once. -/
  notices : b.InTurn i (b.changeOf i c new) (b.heard listeners) r.notices
  /-- The first one is told at once, -/
  first : r.notices.head? =
    (b.heard listeners).head?.map fun name => (b.change i new).told name (b.changeOf i c new)
  /-- and the record is there by then. -/
  logged : c.recorded = true → ∀ h, b.history = some h → (b.change i new).lastFor? c.id = some {
    component := c.id, before := c.describe c.value, after := c.describe new, time := b.clock }

/-- If the owners of all listeners are there, the first listener is the first one to be told. -/
theorem head?_tellAll (act : Command α → Board α → Reaction α) (c : Change α) {ns : List Nat}
    {b : Board α} (howned : ∀ n ∈ ns, ∃ l, b.listeners[n]? = some l ∧ l.owned = true) :
    (tellAll act c ns b).notices.head? = (b.heard ns).head?.map fun name => b.told name c := by
  cases ns with
  | nil => rfl
  | cons n ns =>
    obtain ⟨l, hl, hown⟩ := howned n List.mem_cons_self
    have halive : l.isAlive = true := by simp [Listener.isAlive, hown]
    unfold tellAll heard
    simp only [hl, halive, Bool.not_true, Bool.false_eq_true, if_false]
    split <;> rfl

section Serving

variable [BEq α] {i : Nat} {h : List Happening} {b : Board α}

/-- An accepted change of a cell that follows its story is announced to the live registrations. -/
theorem Follows.announces (hb : Follows i h b) (hmade : ∀ h, b.history = some h → h.IsMade)
    {command : Command α} {next : α → Proposal α} {c : Cell α} {new : α}
    (hc : b.cells[i]? = some c) (hnext : command.next? i = some next)
    (haccepted : c.accepted? (next c.value) = some new) :
    Announces b i c new ((live h).map Registration.listener) (b.execute command) := by
  obtain ⟨t, rfl, -, hnotices, -⟩ := execute_of_accepted hc hnext haccepted
  rw [hb.filter_isAlive hc] at hnotices
  have hlisteners := listeners_change b i new
  have howned : ∀ n ∈ (live h).map Registration.listener,
      ∃ l, (b.change i new).listeners[n]? = some l ∧ l.owned = true := by
    intro n hn
    obtain ⟨r, hr, rfl⟩ := List.mem_map.mp hn
    obtain ⟨hroll, hlive⟩ := List.mem_filter.mp hr
    obtain ⟨l, hl, hown⟩ := hb.getElem? hroll
    rw [hlisteners]
    exact ⟨l, hl, hown.trans ((Bool.and_eq_true _ _).mp hlive).2⟩
  have hheard : (b.change i new).heard ((live h).map Registration.listener) =
      b.heard ((live h).map Registration.listener) :=
    heard_congr fun n _ => by rw [hlisteners]
  obtain ⟨names, hturn, hnames⟩ := (spreads_tellAll (leaves_executeIn i _) (b.changeOf i c new)
    ((live h).map Registration.listener) (hb.change hc new).sparing).notices
  refine ⟨(hb.accepts hc hnext haccepted).2, ?_, ?_, ?_⟩
  · rw [hnotices, ← hheard, ← hnames howned]
    exact hturn.congr (map_id_of_map_face (map_face_change hc new))
  · rw [hnotices, head?_tellAll _ _ howned, hheard]
  · intro hrecorded hist hh
    exact lastFor?_change hmade hc hrecorded hh new

/-- Whatever does not change the cell tells nobody of a change of it. -/
theorem Follows.ignores (hb : Follows i h b) (hi : i < b.cells.length) {command : Command α}
    (hfair : command.IsFair i) (hvalue : b.newValue? i command = none) :
    (∀ n ∈ (b.execute command).notices, b.IsAside i n) ∧
      ∀ d ∈ (b.execute command).changes, d.cell ≠ i := by
  have hcall : ∀ next, command.next? i = some next →
      (b.execute command).notices = [] ∧ (b.execute command).changes = [] := by
    intro next hnext
    have hc := List.getElem?_eq_getElem hi
    rw [newValue?_eq hc hnext] at hvalue
    obtain ⟨answer, hexecute⟩ := execute_of_rejected hc hnext hvalue
    rw [hexecute]
    exact ⟨rfl, rfl⟩
  have hsilent : (b.execute command).notices = [] ∧ (b.execute command).changes = [] →
      (∀ n ∈ (b.execute command).notices, b.IsAside i n) ∧
        ∀ d ∈ (b.execute command).changes, d.cell ≠ i := by
    rintro ⟨hnotices, hchanges⟩
    simp [hnotices, hchanges]
  have hspared : command.Spares i →
      (∀ n ∈ (b.execute command).notices, b.IsAside i n) ∧
        ∀ d ∈ (b.execute command).changes, d.cell ≠ i := by
    intro hspares
    have hleaves := leaves_executeIn i (List.range b.cells.length) command b hspares hb.sparing
    exact ⟨hleaves.notices, hleaves.changes⟩
  cases command with
  | set j new =>
    by_cases hj : j = i
    · exact hsilent (hcall _ (if_pos hj))
    · exact hspared (.set hj)
  | update j next =>
    by_cases hj : j = i
    · exact hsilent (hcall _ (if_pos hj))
    · exact hspared (.update hj)
  | listen j name act =>
    refine hsilent ?_
    rw [Board.execute, executeIn]
    split <;> exact ⟨rfl, rfl⟩
  | unlisten j token =>
    refine hsilent ?_
    rw [Board.execute, executeIn]
    split
    · exact ⟨rfl, rfl⟩
    · split <;> exact ⟨rfl, rfl⟩
  | drop name =>
    refine hsilent ?_
    rw [Board.execute, executeIn]
    exact ⟨rfl, rfl⟩
  | identify => exact hspared .identify
  | describe => exact hspared .describe
  | debug => exact hspared .debug
  | lastFor => exact hspared .lastFor
  | fail => exact hspared .fail
  | nothing => exact hspared .nothing

/-- What a cell at a place does after its story, and who is live when the story has gone on. -/
structure Serves (i : Nat) (h : List Happening) (b : Board α) : Prop where
  /-- An accepted change is announced to the live registrations, and they stay live. -/
  accepts : ∀ (c : Cell α) (command : Command α) (next : α → Proposal α) (new : α),
    b.cells[i]? = some c → command.next? i = some next →
    c.accepted? (next c.value) = some new →
    Announces b i c new ((live h).map Registration.listener) (b.execute command) ∧
      b.happening? i command = some .changed ∧ live (.changed :: h) = live h
  /-- Nothing else is announced. -/
  ignores : ∀ command : Command α, command.IsFair i → b.newValue? i command = none →
    (∀ n ∈ (b.execute command).notices, b.IsAside i n) ∧
      ∀ d ∈ (b.execute command).changes, d.cell ≠ i
  /-- If no listener fails, all of them are told. -/
  complete : (∀ l ∈ b.listeners, l.fails = false) →
    b.heard ((live h).map Registration.listener) =
      (live h).filterMap fun r => b.listeners[r.listener]?.map Listener.name
  /-- A listener is there until it is dropped, and it is known by its name. -/
  alive : ∀ r ∈ roll h, b.isAlive r.listener = !isDead h r
  named : b.IsNamed
  count : b.listenerCounts[i]? = some (live h).length
  tokens : (roll h).Pairwise fun r s => r.token < s.token
  /-- A registration gets a token that none has had, and its listener is the last one to be told. -/
  registers : ∀ (name : String) (act : Option (Command α)), (Command.listen i name act).IsFair i →
    ∃ r l, b.happening? i (.listen i name act) = some (.registered r) ∧
      (b.execute (.listen i name act)).answer = .token r.token ∧
      (∀ s ∈ roll h, s.token < r.token) ∧
      (b.execute (.listen i name act)).board.listeners[r.listener]? = some l ∧ l.name = name ∧
      live (.registered r :: h) = live h ++ [r]
  /-- Only the registration with a token is taken back, if it is neither taken back nor pruned. -/
  unregisters : ∀ t, t < b.nextToken →
    b.happening? i (.unlisten i t) = some (.unregistered t) ∧
      (b.execute (.unlisten i t)).answer =
        .yes ((roll h).any fun r => r.token == t && !isRevoked h r && !isPruned h r) ∧
      live (.unregistered t :: h) = (live h).filter fun r => r.token != t
  /-- Only the registrations of a listener that is dropped are lost. -/
  drops : ∀ name n, b.owned? name = some n →
    b.happening? i (.drop name) = some (.dropped n) ∧
      live (.dropped n :: h) = (live h).filter fun r => r.listener != n

/-- A cell that follows its story does all of this. -/
theorem Follows.serves (hb : Follows i h b) (hi : i < b.cells.length)
    (hmade : ∀ h, b.history = some h → h.IsMade) : Serves i h b where
  accepts := by
    intro c command next new hc hnext haccepted
    refine ⟨hb.announces hmade hc hnext haccepted, ?_, live_changed h⟩
    rw [happening?_of_next? hnext, newValue?_eq hc hnext, haccepted]
    rfl
  ignores := fun command hfair hvalue => hb.ignores hi hfair hvalue
  complete := by
    intro hfails
    rw [heard_eq_filterMap hfails, List.filterMap_map]
    rfl
  alive := fun r hr => hb.isAlive_eq hr
  named := hb.named
  count := by
    have hc := List.getElem?_eq_getElem hi
    unfold listenerCounts
    rw [List.getElem?_map, hc, Option.map_some, ← hb.filter_isAlive hc,
      ← List.countP_eq_length_filter]
    rfl
  tokens := hb.increasing
  registers := by
    intro name act hfair
    obtain ⟨l, hl, hname, hown⟩ := getElem?_own b name act
    -- a listener with an owner has not been dropped
    have hdead : isDead h ⟨b.nextToken, (b.own name act).1⟩ = false := by
      have howned := (hb.of_spared (spared_own name hfair)).owned _ l hl
      rw [hown] at howned
      simpa [isDead] using howned
    refine ⟨_, l, if_pos ⟨rfl, hi⟩, ?_, fun s hs => hb.tokens s hs, ?_, hname,
      live_registered (hb.isRevoked_nextToken _) hdead⟩
    · rw [Board.execute, executeIn, if_pos hi]
      exact congrArg Answer.token (nextToken_own b name act)
    · rw [Board.execute, executeIn, if_pos hi]
      exact hl
  unregisters := by
    intro t ht
    refine ⟨if_pos ⟨rfl, hi, ht⟩, ?_, live_unregistered t h⟩
    have hc := List.getElem?_eq_getElem hi
    rw [Board.execute, executeIn, hc]
    dsimp only
    rw [if_pos ht]
    unfold Cell.isRegistered
    rw [hb.registrations _ hc]
    unfold kept
    rw [List.any_filter]
    refine congrArg (fun p => Answer.yes ((roll h).any p)) (funext fun r => ?_)
    rw [Bool.and_comm, Bool.and_assoc]
  drops := by
    intro name n hn
    rw [happening?_drop, hn]
    exact ⟨rfl, live_dropped n h⟩

/-- **Each accepted change of a cell is told to the live registrations, in their order**, whatever
registrations, drops and calls there have been. A listener that has been dropped or whose
registration has been taken back is never told again. -/
theorem serves_run (hi : i < b.cells.length) (hnew : b.IsNew i)
    (hmade : ∀ h, b.history = some h → h.IsMade) {xs : List (Timestamp × Command α)}
    (hfair : ∀ x ∈ xs, x.2.IsFair i) :
    (∀ time, Serves i (story i xs b) { (Board.run xs b).1 with clock := time }) ∧
      ∀ ys, ∀ r ∈ live (story i (xs ++ ys) b),
        isDead (story i xs b) r = false ∧ isRevoked (story i xs b) r = false := by
  constructor
  · intro time
    have hfollows := hnew.follows.run hi hfair
    rw [List.append_nil] at hfollows
    have hevolves := evolves_run xs b
    exact (hfollows.setClock time).serves (hevolves.length_cells ▸ hi)
      (hevolves.isMade hmade)
  · intro ys r hr
    obtain ⟨-, hlive⟩ := List.mem_filter.mp hr
    simp only [isRevoked, isDead, story_append, List.mem_append, Bool.and_eq_true,
      Bool.not_eq_true', decide_eq_false_iff_not, not_or] at hlive ⊢
    exact ⟨hlive.2.2, hlive.1.2⟩

end Serving

/-- A cell with a history that has room for one record. -/
def lamp : Board Nat where
  cells := [{ id := "lamp", describe := toString, value := 0 }]
  history := some (.empty 1)

/-- One listener registers twice. Another one is dropped and then pruned by a change. -/
def lampCalls : List (Timestamp × Command Nat) :=
  [(.epoch, .listen 0 "kept" none), (.epoch, .listen 0 "dropped" none),
    (.epoch, .listen 0 "kept" none), (.epoch, .drop "dropped"), (.epoch, .set 0 1),
    (.epoch, .set 0 1), (.epoch, .unlisten 0 1), (.epoch, .unlisten 0 0)]

/-- Only the later registration of the one that is kept is live. -/
theorem serves_run_lamp :
    Serves 0 (story 0 lampCalls lamp) { (run lampCalls lamp).1 with clock := .epoch } ∧
      live (story 0 lampCalls lamp) = [⟨2, 0⟩] ∧
      isPruned (story 0 lampCalls lamp) ⟨1, 1⟩ = true := by
  have hfair : ∀ x ∈ lampCalls, x.2.IsFair 0 := by simp [lampCalls, Command.IsFair]
  obtain ⟨hserves, -⟩ := serves_run (b := lamp) (by decide) ⟨rfl, by decide⟩
    (fun h hh => ⟨1, [], (Option.some.inj hh).symm⟩) hfair
  exact ⟨hserves .epoch, by decide +kernel, by decide +kernel⟩

end Board

end LinkWarden
