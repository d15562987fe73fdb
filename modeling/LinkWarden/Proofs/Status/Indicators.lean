import LinkWarden.Config.Settings
import LinkWarden.Proofs.Supervisor.Heard
import Mathlib.Data.Finset.Card
import Mathlib.Data.List.Dedup

/-!
# What the indicators show

Supervisors that share a status sink tell it of their transitions, and the sink sets indicators. What
it shows for a component and a state is what the settings say, and it is shown once for each
transition.

* `StatusSettings.Maps` is what the settings say: the last rule for a component and a state decides,
  and the usual rules decide where there is none, if they are wanted.
* `effect?_sink` and `size_sink` say that the sink which is built from the settings is this table.
* `deliverAll` delivers events to several supervisors, and `told` are the transitions that the table
  makes of them.
* `indicators_deliverAll` puts the two together.
-/

namespace LinkWarden

open LinkState

/-! ### The table of effects -/

/-- What a rule is for. -/
def StatusRule.target (r : StatusRule) : String × LinkState := (r.component, r.state)

/-- A rule is about a component in a state just if these are its target. -/
theorem StatusSink.covers_iff {component : String} {state : LinkState} {r : StatusRule} :
    StatusSink.covers component state r = true ↔ r.target = (component, state) := by
  simp [StatusSink.covers, StatusRule.target]

/-- The settings map a component and a state to an effect. -/
inductive StatusSettings.Maps (c : StatusSettings) (component : String) (state : LinkState)
    (e : Effect) : Prop
  | /-- The last rule for them says so. -/
    configured (before later : List StatusRule)
      (split : c.rules = before ++ ⟨component, state, e⟩ :: later)
      (last : ∀ r ∈ later, r.target ≠ (component, state))
  | /-- There is no rule for them, and the usual rules say so. -/
    usual (unruled : ∀ r ∈ c.rules, r.target ≠ (component, state)) (wanted : c.useDefaults = true)
      (rule : ⟨component, state, e⟩ ∈ StatusSink.usualRules)

/-- The rules that settings come to, in the order in which they are added. -/
def StatusSettings.allRules (c : StatusSettings) : List StatusRule :=
  (if c.useDefaults then StatusSink.usualRules else []) ++ c.rules

namespace StatusSink

/-- Rules are put in one after another. -/
theorem insertAll_append (s : StatusSink) (xs ys : List StatusRule) :
    s.insertAll (xs ++ ys) = (s.insertAll xs).insertAll ys :=
  List.foldl_append

/-- The sink of settings has all their rules added to it. -/
theorem sink_eq (c : StatusSettings) : c.sink = empty.insertAll c.allRules := by
  unfold StatusSettings.sink StatusSettings.allRules
  cases c.useDefaults
  · rfl
  · exact (insertAll_append _ _ _).symm

/-- The last of the rules that are added decides. -/
theorem effect?_insertAll (s : StatusSink) (rs : List StatusRule) (component : String)
    (state : LinkState) :
    (s.insertAll rs).effect? component state =
      ((rs.reverse.find? (covers component state)).map StatusRule.effect).or
        (s.effect? component state) := by
  induction rs using List.reverseRecOn with
  | nil => rfl
  | append_singleton rs r ih =>
    have hinsert : s.insertAll (rs ++ [r]) = (s.insertAll rs).insert r :=
      s.insertAll_append rs [r]
    rw [hinsert, effect?_insert, ih, List.reverse_append, List.reverse_singleton,
      List.singleton_append, List.find?_cons]
    cases covers component state r <;> rfl

/-- No two of the usual rules are for the same component and state. -/
theorem eq_of_target_eq_of_usual {q r : StatusRule} (hq : q ∈ usualRules) (hr : r ∈ usualRules)
    (h : q.target = r.target) : q = r := by
  have hall : ∀ q ∈ usualRules, ∀ r ∈ usualRules, q.target = r.target → q = r := by decide
  exact hall q hq r hr h

/-- The usual rules in either order: there is only one to be found. -/
theorem find?_reverse_usualRules {component : String} {state : LinkState} {e : Effect} :
    (usualRules.reverse.find? (covers component state)).map StatusRule.effect = some e ↔
      ⟨component, state, e⟩ ∈ usualRules := by
  rw [Option.map_eq_some_iff]
  constructor
  · rintro ⟨r, hr, rfl⟩
    have htarget := covers_iff.mp (List.find?_some hr)
    have hmem := List.mem_reverse.mp (List.mem_of_find?_eq_some hr)
    obtain ⟨rfl, rfl⟩ := Prod.mk.inj htarget
    exact hmem
  · intro hmem
    have hfound : (usualRules.reverse.find? (covers component state)).isSome = true := by
      rw [List.find?_isSome]
      exact ⟨_, List.mem_reverse.mpr hmem, covers_iff.mpr rfl⟩
    obtain ⟨r, hr⟩ := Option.isSome_iff_exists.mp hfound
    have htarget := covers_iff.mp (List.find?_some hr)
    have hother := List.mem_reverse.mp (List.mem_of_find?_eq_some hr)
    exact ⟨r, hr, congrArg StatusRule.effect (eq_of_target_eq_of_usual hother hmem htarget)⟩

/-- The last rule for a component and a state, found from behind. -/
theorem find?_reverse_eq_some_iff {rs : List StatusRule} {component : String} {state : LinkState}
    {r : StatusRule} :
    rs.reverse.find? (covers component state) = some r ↔
      r.target = (component, state) ∧ ∃ before later, rs = before ++ r :: later ∧
        ∀ q ∈ later, q.target ≠ (component, state) := by
  rw [List.find?_eq_some_iff_append, covers_iff]
  apply and_congr_right
  intro _
  have hnone : ∀ {q : StatusRule}, (!covers component state q) = true ↔
      q.target ≠ (component, state) := by
    intro q
    rw [ne_eq, ← covers_iff, Bool.not_eq_true']
    exact Bool.eq_false_iff
  constructor
  · rintro ⟨as, bs, hsplit, has⟩
    refine ⟨bs.reverse, as.reverse, ?_, fun q hq => hnone.mp (has q (List.mem_reverse.mp hq))⟩
    rw [← List.reverse_reverse rs, hsplit]
    simp
  · rintro ⟨before, later, rfl, hlater⟩
    refine ⟨later.reverse, before.reverse, by simp, ?_⟩
    exact fun q hq => hnone.mpr (hlater q (List.mem_reverse.mp hq))

/-- **The sink of settings shows what the settings map to.** -/
theorem effect?_sink (c : StatusSettings) (component : String) (state : LinkState) (e : Effect) :
    c.sink.effect? component state = some e ↔ c.Maps component state e := by
  have hsink : c.sink.effect? component state =
      (((c.rules.reverse.find? (covers component state)).or
        (if c.useDefaults then usualRules.reverse.find? (covers component state) else none)).map
        StatusRule.effect) := by
    rw [sink_eq, effect?_insertAll, StatusSettings.allRules, List.reverse_append, List.find?_append]
    cases c.useDefaults <;> simp [empty, effect?]
  rw [hsink]
  rcases hfound : c.rules.reverse.find? (covers component state) with _ | r
  · -- no rule of the settings is for them
    have hunruled : ∀ r ∈ c.rules, r.target ≠ (component, state) := by
      intro r hr htarget
      have := List.find?_eq_none.mp hfound r (List.mem_reverse.mpr hr)
      exact this (covers_iff.mpr htarget)
    rw [Option.none_or]
    constructor
    · intro h
      split at h
      · next hwanted => exact .usual hunruled hwanted (find?_reverse_usualRules.mp h)
      · cases h
    · rintro (⟨before, later, hsplit, -⟩ | ⟨-, hwanted, hrule⟩)
      · exact absurd rfl (hunruled ⟨component, state, e⟩ (by simp [hsplit]))
      · rw [if_pos hwanted]
        exact find?_reverse_usualRules.mpr hrule
  · obtain ⟨htarget, before, later, hsplit, hlast⟩ := find?_reverse_eq_some_iff.mp hfound
    rw [Option.some_or, Option.map_some, Option.some.injEq]
    constructor
    · rintro rfl
      obtain ⟨rfl, rfl⟩ := Prod.mk.inj htarget
      exact .configured before later hsplit hlast
    · rintro (⟨before', later', hsplit', hlast'⟩ | ⟨hunruled, -, -⟩)
      · have hfound' := find?_reverse_eq_some_iff.mpr ⟨rfl, before', later', hsplit', hlast'⟩
        rw [hfound] at hfound'
        rw [Option.some.inj hfound']
      · exact absurd htarget (hunruled r (by simp [hsplit]))

/-! ### The size of the table -/

/-- What there are effects for. -/
def targets (s : StatusSink) : List (String × LinkState) := s.rules.map StatusRule.target

/-- A rule takes the place of the one with its target, if there is one, and stands last. -/
theorem targets_insert (s : StatusSink) (r : StatusRule) :
    (s.insert r).targets = s.targets.filter (· ≠ r.target) ++ [r.target] := by
  have hcovers : (fun old => !covers r.component r.state old) =
      (fun t : String × LinkState => decide (t ≠ r.target)) ∘ StatusRule.target := by
    funext old
    rw [Bool.eq_iff_iff, Bool.not_eq_true', ← Bool.not_eq_true, covers_iff, Function.comp_apply,
      decide_eq_true_iff]
    rfl
  unfold targets insert
  rw [List.map_append, hcovers, ← List.filter_map]
  rfl

/-- There is one effect at most for a component and a state. -/
theorem targets_insertAll (s : StatusSink) (rs : List StatusRule) (hs : s.targets.Nodup) :
    (s.insertAll rs).targets.Nodup ∧
      (s.insertAll rs).targets.toFinset = (s.targets ++ rs.map StatusRule.target).toFinset := by
  induction rs generalizing s with
  | nil => simpa [insertAll] using hs
  | cons r rs ih =>
    have hnodup : (s.insert r).targets.Nodup := by
      rw [targets_insert]
      exact (hs.filter _).append (List.nodup_singleton _) (by simp)
    have hsame : (s.insert r).targets.toFinset = {r.target} ∪ s.targets.toFinset := by
      rw [targets_insert]
      ext t
      by_cases ht : t = r.target <;> simp [ht]
    obtain ⟨h, htargets⟩ := ih (s.insert r) hnodup
    refine ⟨h, ?_⟩
    show ((s.insert r).insertAll rs).targets.toFinset = _
    rw [htargets, List.toFinset_append, hsame]
    ext t
    simp

/-- **There are as many effects as there are components and states with a rule.** -/
theorem size_sink (c : StatusSettings) :
    c.sink.size = (c.allRules.map StatusRule.target).toFinset.card := by
  have hempty : empty.targets.Nodup := List.nodup_nil
  obtain ⟨hnodup, hsame⟩ := targets_insertAll empty c.allRules hempty
  have hlength : c.sink.targets.length = c.sink.size := List.length_map _
  rw [← hlength, sink_eq, ← List.toFinset_card_of_nodup hnodup, hsame]
  rfl

end StatusSink

/-! ### Events for several supervisors -/

/-- An event that the transport of the supervisor at a place delivers, at a time and on a thread. If
the supervisor asks for a connection then, that call goes as `reply` says. -/
structure Delivery where
  place : Nat
  time : Timestamp
  actor : Actor
  event : Event
  reply : Reply

/-- What a link in a state hears of a delivery: the event, and those of the call that it leads to. -/
def Delivery.heard (d : Delivery) (l : LinkState) : List Event :=
  ((Reply.delivers d.event d.reply .done).heard l).1

/-- Events are delivered one after another to supervisors in the same surroundings. -/
def deliverAll : List Delivery → List Supervisor → Surroundings → List Supervisor × List Trace
  | [], ss, _ => (ss, [])
  | d :: ds, ss, w =>
    match ss[d.place]? with
    | none => deliverAll ds ss w
    | some s =>
      let (t, acts, _) := s.handle d.actor d.event d.reply
      let (v, here) := { w with clock := d.time }.performAll s.id acts
      let (ss, later) := deliverAll ds (ss.set d.place t) v
      (ss, here ++ later)

/-- The transitions that the table makes of deliveries: the id of the component, and the state that
its link enters. -/
def told : List Delivery → List (String × LinkState) → List (String × LinkState)
  | [], _ => []
  | d :: ds, ls =>
    match ls[d.place]? with
    | none => told ds ls
    | some (id, l) =>
      (moves l (d.heard l)).map (fun m => (id, m.2)) ++
        told ds (ls.set d.place (id, (d.heard l).foldl after l))

/-- Where the links of supervisors stand. -/
def standings (ss : List Supervisor) : List (String × LinkState) := ss.map fun s => (s.id, s.state)

/-- What a sink shows of a transition. -/
def StatusSink.shown? (sink : StatusSink) (t : String × LinkState) : Option (String × Effect) :=
  (sink.effect? t.1 t.2).map fun e => (t.1, e)

/-- **The sink sets an indicator for each transition that has an effect**, in their order, and
nothing else does. -/
theorem indicators_deliverAll {sink : StatusSink} (ds : List Delivery) (ss : List Supervisor)
    {w : Surroundings} (hw : w.sink = some sink) :
    indicators (deliverAll ds ss w).2 = (told ds (standings ss)).filterMap sink.shown? := by
  induction ds generalizing ss w with
  | nil => rfl
  | cons d ds ih =>
    have hplace : (standings ss)[d.place]? = ss[d.place]?.map fun s => (s.id, s.state) :=
      List.getElem?_map
    rcases hs : ss[d.place]? with _ | s
    · rw [hs] at hplace
      simp only [deliverAll, told, hs, hplace, Option.map_none]
      exact ih ss hw
    · rw [hs] at hplace
      have hanswers := (s.answers_play d.actor (.delivers d.event d.reply .done)).1
      have hplain : ∀ a ∈ (s.handle d.actor d.event d.reply).2.1, Surroundings.IsPlain a := by
        intro a ha alert halert
        have := hanswers.noWork a ha
        rw [halert] at this
        exact this trivial
      have hhere : indicators (({ w with clock := d.time } : Surroundings).performAll s.id
          (s.handle d.actor d.event d.reply).2.1).2 =
          ((moves s.state (d.heard s.state)).map fun m => (s.id, m.2)).filterMap sink.shown? := by
        have htransitions := hanswers.transitions
        rw [Surroundings.indicators_performAll s.id _ hplain]
        unfold Supervisor.handle
        rw [htransitions, List.filterMap_map, Surroundings.effects, hw]
        rfl
      have hsink := congrArg Surroundings.sink (Surroundings.performAll_fst s.id
        { w with clock := d.time } (s.handle d.actor d.event d.reply).2.1)
      have hlater := ih (ss.set d.place (s.handle d.actor d.event d.reply).1) (hsink.trans hw)
      have hstandings : standings (ss.set d.place (s.handle d.actor d.event d.reply).1) =
          (standings ss).set d.place (s.id, (d.heard s.state).foldl after s.state) := by
        have hid : (s.handle d.actor d.event d.reply).1.id = s.id := hanswers.id
        have hstate : (s.handle d.actor d.event d.reply).1.state =
            (d.heard s.state).foldl after s.state := hanswers.state
        rw [standings, List.map_set, hid, hstate]
        rfl
      simp only [deliverAll, told, hs, hplace, Option.map_some, indicators_append,
        List.filterMap_append, hhere, hlater, hstandings]

/-- **The indicators show exactly what is configured.** Whatever events come to supervisors with
whatever ids, whatever their transports deliver while they are called, and whatever history is kept:

* each transition into a state that the settings map to an effect sets the indicator of its
  component to this effect, once and in its turn, and no indicator is set otherwise;
* the last rule for a component and a state decides what they are mapped to, and the usual rules do
  so where there is none;
* the table has as many entries as there are components and states among the rules. -/
theorem indicators_as_configured (c : StatusSettings) (ds : List Delivery) (ss : List Supervisor)
    (w : Surroundings) :
    indicators (deliverAll ds ss { w with sink := some c.sink }).2 =
        (told ds (standings ss)).filterMap c.sink.shown? ∧
      (∀ component state e,
        c.sink.effect? component state = some e ↔ c.Maps component state e) ∧
      c.sink.size = (c.allRules.map StatusRule.target).toFinset.card :=
  ⟨indicators_deliverAll ds ss rfl, StatusSink.effect?_sink c, StatusSink.size_sink c⟩

/-- A rule that is given twice, and one with a blank in its component: the last rule for the network
hides the usual one, and the blank makes a component of its own. -/
example :
    let c : StatusSettings := { rules := [⟨"WifiLink", .connected, .off⟩,
      ⟨"WifiLink ", .connecting, .on⟩, ⟨"WifiLink", .connected, .blink 7⟩] }
    let up : List Event := [.started, .established none, .established none, .lost none]
    let ds := up.map fun e : Event => ⟨0, .epoch, .caller, e, .done⟩
    let ss := [Supervisor.make "WifiLink" .persistent]
    indicators (deliverAll ds ss { sink := some c.sink }).2 =
        [("WifiLink", .blink 7), ("WifiLink", .off)] ∧
      c.sink.size = 5 := by
  decide

end LinkWarden
