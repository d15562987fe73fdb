import LinkWarden.Proofs.Config.RoundTrip
import Mathlib.Data.List.Nodup

/-!
# The effect inside a rule

The keys of an effect stand in the table of a rule beside the rule's own, so an effect is read in
two places: by itself, and from what a rule leaves over. The two differ in one respect only, an
integer where the name of the effect belongs.

* `HasTarget` says that a table has a component and a state that decode. Then the rule gets these
  two, wherever they stand in the table (`entries_ruleFields`), and the other entries decide.
* The entries that are left over have all keys of an effect (`lookup?_effectEntries`), and its name
  is read alike unless it is an integer (`ruleEffectKind_eq`).
* **Main statement** (`effect_read_alike`): a rule is read as its target together with the effect
  that the rest of its table is by itself, and a rule that has been written is read back.
-/

namespace LinkWarden.Decode

open Value

/-! ### The target of a rule -/

/-- No key of the table is repeated, and there are a component and a state that decode. -/
structure HasTarget (f : Format) (es : List (String × Value)) (component : String)
    (state : LinkState) : Prop where
  distinct : (es.map Prod.fst).Nodup
  component : ∃ v, ("component", v) ∈ es ∧ text v = .ok component
  state : ∃ v, ("state", v) ∈ es ∧ linkState f v = .ok state

variable {f : Format} {es : List (String × Value)} {component : String} {state : LinkState}

/-- The target of a rule is read from the entries with its keys, wherever they stand, unless it is
known already; the other entries add nothing. -/
theorem entries_ruleFields (hcomponent : ∀ v, ("component", v) ∈ es → text v = .ok component)
    (hstate : ∀ v, ("state", v) ∈ es → linkState f v = .ok state) {r : PartialRule}
    (hc : r.component = some component ∨ ∃ v, ("component", v) ∈ es)
    (hs : r.state = some state ∨ ∃ v, ("state", v) ∈ es) :
    entries ruleFields f es r = .ok { component := some component, state := some state } := by
  induction es generalizing r with
  | nil =>
    obtain ⟨c, s⟩ := r
    obtain rfl : c = some component := by simpa using hc
    obtain rfl : s = some state := by simpa using hs
    rfl
  | cons e rest ih =>
    obtain ⟨key, v⟩ := e
    have hrest := @ih (fun w hw => hcomponent w (List.mem_cons_of_mem _ hw))
      fun w hw => hstate w (List.mem_cons_of_mem _ hw)
    by_cases hkc : key = "component"
    · subst hkc
      have hentry : entry ruleFields f r ("component", v) =
          .ok { r with component := some component } := by
        show Decoded.under "component" ((text v).map _) = _
        rw [hcomponent v List.mem_cons_self]
        rfl
      rw [entries, hentry]
      exact hrest (.inl rfl) (by simpa using hs)
    · by_cases hks : key = "state"
      · subst hks
        have hentry : entry ruleFields f r ("state", v) = .ok { r with state := some state } := by
          show Decoded.under "state" ((linkState f v).map _) = _
          rw [hstate v List.mem_cons_self]
          rfl
        rw [entries, hentry]
        exact hrest (by simpa using hc) (.inl rfl)
      · have hfind : ruleFields.find? (fun field => field.name == key) = none := by
          simp [ruleFields, Field.plain, Field.of, Ne.symm hkc, Ne.symm hks]
        have hentry : entry ruleFields f r (key, v) = .ok r := by
          simp only [entry, hfind]
        rw [entries, hentry]
        exact hrest (by simpa [Ne.symm hkc] using hc) (by simpa [Ne.symm hks] using hs)

/-- Under a key that is not repeated there is one value. -/
theorem eq_of_mem_of_nodup {key : String} {v w : Value} (hes : (es.map Prod.fst).Nodup)
    (hv : (key, v) ∈ es) (hw : (key, w) ∈ es) : w = v :=
  congrArg Prod.snd (List.inj_on_of_nodup_map hes hw hv rfl)

/-- **A rule gets its target, and its effect from the other entries.** -/
theorem rule_of_hasTarget (h : HasTarget f es component state) :
    rule f (.table es) =
      (effectOf (ruleEffectKind f) (effectEntries es)).map fun effect =>
        { component, state, effect } := by
  obtain ⟨hdistinct, ⟨c, hc, hcomponent⟩, s, hs, hstate⟩ := h
  have hown : entries ruleFields f es {} =
      .ok { component := some component, state := some state } := by
    refine entries_ruleFields (fun v hv => ?_) (fun v hv => ?_) (.inr ⟨c, hc⟩) (.inr ⟨s, hs⟩)
    · rwa [eq_of_mem_of_nodup hdistinct hc hv]
    · rwa [eq_of_mem_of_nodup hdistinct hs hv]
  rw [rule, hown]
  rcases effectOf (ruleEffectKind f) (effectEntries es) with fault | effect <;> rfl

/-! ### The effect -/

/-- The keys of a rule's own are none of an effect, so what is left over has all of the latter. -/
theorem lookup?_effectEntries {key : String} (hc : key ≠ "component") (hs : key ≠ "state") :
    lookup? (effectEntries es) key = lookup? es key := by
  unfold lookup? effectEntries
  rw [List.find?_filter]
  congr 2
  funext e
  by_cases he : e.1 = key
  · simp [he, hc, hs]
  · simp [he]

/-- The name of an effect is read alike in a rule, if it is not an integer of a JSON object. -/
theorem ruleEffectKind_eq {v : Value} (h : f = .json → ∀ n, v ≠ .int n) :
    ruleEffectKind f v = effectKind v := by
  cases v with
  | int n =>
    cases f with
    | json => exact absurd rfl (h rfl n)
    | toml => rfl
  | _ => rfl

/-- The kind of an effect is read in a rule as it is read elsewhere, unless it is a number in JSON.
-/
theorem effectOf_ruleEffectKind (h : f = .json → ∀ n, lookup? es "effect" ≠ some (.int n)) :
    effectOf (ruleEffectKind f) es = effectOf effectKind es := by
  unfold effectOf
  cases hv : lookup? es "effect" with
  | none => rfl
  | some v =>
    have hkind : ruleEffectKind f v = effectKind v :=
      ruleEffectKind_eq fun hf n hn => h hf n (hn ▸ hv)
    simp only [hkind]

/-- **An effect is read in a rule as it is by itself.**

* Take any table with a component and a state that decode, in which the name of the effect is not an
  integer of a JSON object. It is a rule just if the table without its component and state is an
  effect, the rule has that effect, and otherwise both report the same fault.
* A rule that has been written is read back. -/
theorem effect_read_alike (f : Format) :
    (∀ es component state, HasTarget f es component state →
      (f = .json → ∀ n, lookup? es "effect" ≠ some (.int n)) →
      rule f (.table es) = (effect (.table (effectEntries es))).map fun effect =>
        { component, state, effect }) ∧
    ∀ r, rule f (Encode.rule r) = .ok r := by
  refine ⟨fun es component state htarget hname => ?_, rule_encode f⟩
  have hrest : f = .json → ∀ n, lookup? (effectEntries es) "effect" ≠ some (.int n) := by
    rw [lookup?_effectEntries (by decide) (by decide)]
    exact hname
  rw [rule_of_hasTarget htarget, effectOf_ruleEffectKind hrest]
  rfl

/-- A rule with its keys in order, a state that is written as an object, the longest interval and a
key that means nothing. -/
theorem effect_read_alike_longest :
    let es : List (String × Value) := [("component", .text "WifiLink"), ("effect", .text "blink"),
      ("interval_ms", .int 4294967295), ("note", .seq []), ("state", .table [("connected", .null)])]
    HasTarget .json es "WifiLink" .connected ∧ (∀ n, lookup? es "effect" ≠ some (.int n)) ∧
      rule .json (.table es) = .ok ⟨"WifiLink", .connected, .blink 4294967295⟩ := by
  intro es
  have htarget : HasTarget .json es "WifiLink" .connected :=
    ⟨by decide, ⟨.text "WifiLink", by simp [es], rfl⟩,
      ⟨.table [("connected", .null)], by simp [es], rfl⟩⟩
  have hname : ∀ n, lookup? es "effect" ≠ some (.int n) := by
    intro n hn
    have htext : lookup? es "effect" = some (.text "blink") := rfl
    cases htext.symm.trans hn
  exact ⟨htarget, hname, (effect_read_alike .json).1 es _ _ htarget fun _ => hname⟩

end LinkWarden.Decode
