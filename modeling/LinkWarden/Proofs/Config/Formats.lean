import LinkWarden.Proofs.Config.RoundTrip
import LinkWarden.Proofs.Config.Search

/-!
# Settings in both formats

A document of settings means the same in both formats. One of them has no null, so what is compared
is the document of settings without the keys of absent texts.

* `Value.IsToml` says which values can stand in a TOML document, and `Value.FitsToml` which can once
  keys with null are left out. Of settings these are all but those with a number that has no place
  in 64 bits with a sign (`isToml_settings_iff`).
* `Value.withoutNulls` leaves those keys out. It is one of the ways in which keys of settings may be
  left out (`settings_trims`), and nothing is lost by it (`kept_withoutNulls`).
* **Main statement** (`formats_agree`): both formats read what is left as the settings, also when
  other keys are left out or added outside the rules, and so does whoever reads the section of a
  file.
-/

namespace LinkWarden

namespace Value

/-! ### Values of TOML -/

/-- The value can stand in a TOML document: there is no null in it, and integers have 64 bits with a
sign. -/
inductive IsToml : Value → Prop
  | bool (b : Bool) : IsToml (.bool b)
  | int {n : Int} (low : Int64.minValue.toInt ≤ n) (high : n ≤ Int64.maxValue.toInt) :
    IsToml (.int n)
  | float (x : Binary64) : IsToml (.float x)
  | text (s : String) : IsToml (.text s)
  | moment (s : String) : IsToml (.moment s)
  | seq {items : List Value} (all : ∀ v ∈ items, IsToml v) : IsToml (.seq items)
  | table {entries : List (String × Value)} (all : ∀ e ∈ entries, IsToml e.2) :
    IsToml (.table entries)

/-- An integer of TOML has 64 bits with a sign. -/
theorem isToml_int_iff {n : Int} :
    IsToml (.int n) ↔ Int64.minValue.toInt ≤ n ∧ n ≤ Int64.maxValue.toInt := by
  refine ⟨fun h => ?_, fun h => .int h.1 h.2⟩
  cases h with
  | int low high => exact ⟨low, high⟩

/-- An array can stand in TOML just if all of its items can. -/
theorem isToml_seq_iff {items : List Value} :
    IsToml (.seq items) ↔ ∀ v ∈ items, IsToml v := by
  refine ⟨fun h => ?_, .seq⟩
  cases h with
  | seq all => exact all

/-- A table can stand in TOML just if all of its values can. -/
theorem isToml_table_iff {entries : List (String × Value)} :
    IsToml (.table entries) ↔ ∀ e ∈ entries, IsToml e.2 := by
  refine ⟨fun h => ?_, .table⟩
  cases h with
  | table all => exact all

/-! ### Without nulls -/

mutual

/-- The value without the keys under which there is null, in all of its tables. -/
def withoutNulls : Value → Value
  | .seq items => .seq (itemsWithoutNulls items)
  | .table entries => .table (entriesWithoutNulls entries)
  | v => v

/-- The items of an array, each without nulls. A null among them stays. -/
def itemsWithoutNulls : List Value → List Value
  | [] => []
  | v :: rest => v.withoutNulls :: itemsWithoutNulls rest

/-- The entries of a table. Those with a null are left out. -/
def entriesWithoutNulls : List (String × Value) → List (String × Value)
  | [] => []
  | (_, .null) :: rest => entriesWithoutNulls rest
  | (key, v) :: rest => (key, v.withoutNulls) :: entriesWithoutNulls rest

end

/-- No item of an array is left out: each is taken without its own nulls. -/
theorem itemsWithoutNulls_eq_map (items : List Value) :
    itemsWithoutNulls items = items.map withoutNulls := by
  induction items with
  | nil => rfl
  | cons v rest ih => rw [itemsWithoutNulls, ih, List.map_cons]

/-- A key with a value other than null is kept. -/
theorem entriesWithoutNulls_cons_of_ne {key : String} {v : Value} (h : v ≠ .null)
    (rest : List (String × Value)) :
    entriesWithoutNulls ((key, v) :: rest) = (key, v.withoutNulls) :: entriesWithoutNulls rest := by
  cases v <;> first | exact absurd rfl h | rfl

/-- The value can stand under a key of a TOML document, or is left out. -/
def FitsToml (v : Value) : Prop := v = .null ∨ v.withoutNulls.IsToml

/-- A value other than null is not left out, so it has to stand there itself. -/
theorem fitsToml_iff_of_ne {v : Value} (h : v ≠ .null) : v.FitsToml ↔ v.withoutNulls.IsToml :=
  or_iff_right h

/-- What is left of a table without nulls can stand in TOML just if each of its values fits. -/
theorem forall_entriesWithoutNulls_isToml_iff {es : List (String × Value)} :
    (∀ e ∈ entriesWithoutNulls es, e.2.IsToml) ↔ ∀ e ∈ es, e.2.FitsToml := by
  induction es with
  | nil => exact iff_of_true (List.forall_mem_nil _) (List.forall_mem_nil _)
  | cons e rest ih =>
    obtain ⟨key, v⟩ := e
    rw [List.forall_mem_cons, ← ih]
    by_cases hv : v = .null
    · subst hv
      rw [entriesWithoutNulls]
      exact (and_iff_right (.inl rfl)).symm
    · rw [entriesWithoutNulls_cons_of_ne hv, List.forall_mem_cons, fitsToml_iff_of_ne hv]

/-- A table fits just if all of its values do. -/
theorem fitsToml_table_iff {es : List (String × Value)} :
    (Value.table es).FitsToml ↔ ∀ e ∈ es, e.2.FitsToml := by
  rw [fitsToml_iff_of_ne (by rintro ⟨⟩), withoutNulls, isToml_table_iff,
    forall_entriesWithoutNulls_isToml_iff]

/-- An array fits just if none of its items is null and each of them can stand there. -/
theorem fitsToml_seq_iff {items : List Value} :
    (Value.seq items).FitsToml ↔ ∀ v ∈ items, v.withoutNulls.IsToml := by
  rw [fitsToml_iff_of_ne (by rintro ⟨⟩), withoutNulls, isToml_seq_iff, itemsWithoutNulls_eq_map,
    List.forall_mem_map]

/-- A truth value fits. -/
@[simp] theorem fitsToml_bool (b : Bool) : (Value.bool b).FitsToml := .inr (.bool b)

/-- A text fits. -/
@[simp] theorem fitsToml_text (s : String) : (Value.text s).FitsToml := .inr (.text s)

/-- An integer fits just if it has 64 bits with a sign. -/
theorem fitsToml_int_iff {n : Int} :
    (Value.int n).FitsToml ↔ Int64.minValue.toInt ≤ n ∧ n ≤ Int64.maxValue.toInt := by
  rw [fitsToml_iff_of_ne (by rintro ⟨⟩)]
  exact isToml_int_iff

/-- A natural number has to be in the upper half. -/
theorem fitsToml_natCast_iff {n : Nat} :
    (Value.int n).FitsToml ↔ (n : Int) ≤ Int64.maxValue.toInt := by
  have hlow : Int64.minValue.toInt ≤ 0 := by decide
  rw [fitsToml_int_iff]
  omega

/-- A number of 16 bits always fits. -/
@[simp] theorem fitsToml_uint16 (n : UInt16) : (Value.int n.toNat).FitsToml := by
  have hsize : (UInt16.size : Int) ≤ Int64.maxValue.toInt := by decide
  have hn := n.toNat_lt_size
  rw [fitsToml_natCast_iff]
  omega

/-- A number of 32 bits always fits. -/
@[simp] theorem fitsToml_uint32 (n : UInt32) : (Value.int n.toNat).FitsToml := by
  have hsize : (UInt32.size : Int) ≤ Int64.maxValue.toInt := by decide
  have hn := n.toNat_lt_size
  rw [fitsToml_natCast_iff]
  omega

/-- A number of 64 bits fits just if it is in the lower half of them. -/
@[simp] theorem fitsToml_uint64_iff {n : UInt64} :
    (Value.int n.toNat).FitsToml ↔ (n.toNat : Int) ≤ Int64.maxValue.toInt :=
  fitsToml_natCast_iff

/-- A number of 32 bits with a sign always fits. -/
@[simp] theorem fitsToml_int32 (n : Int32) : (Value.int n.toInt).FitsToml := by
  have hlow : Int64.minValue.toInt ≤ Int32.minValue.toInt := by decide
  have hhigh : Int32.maxValue.toInt ≤ Int64.maxValue.toInt := by decide
  rw [fitsToml_int_iff]
  exact ⟨Int.le_trans hlow n.minValue_le_toInt, Int.le_trans n.toInt_le hhigh⟩

/-- Leaving nulls out is a way of leaving keys out, if it is one in every table under a key. -/
theorem trimsEntries_withoutNulls {fields : List (String × Shape)} {es : List (String × Value)}
    (h : ∀ e ∈ es, ∃ shape, fields.lookup e.1 = some shape ∧ Trims shape e.2 e.2.withoutNulls) :
    TrimsEntries fields es (entriesWithoutNulls es) := by
  induction es with
  | nil => exact .nothing
  | cons e rest ih =>
    obtain ⟨key, v⟩ := e
    rw [List.forall_mem_cons] at h
    obtain ⟨⟨shape, hshape, hv⟩, hrest⟩ := h
    by_cases hnull : v = .null
    · subst hnull
      exact .drop (ih hrest)
    · rw [entriesWithoutNulls_cons_of_ne hnull]
      exact .keep_of_trims hshape hv (ih hrest)

end Value

open Value

/-! ### Numbers that are too wide -/

/-- The numbers of a simulated link that have 64 bits. -/
def LinkBehavior.wideNumbers (s : LinkBehavior) : List UInt64 :=
  [s.connectLatencyMs, s.dropAfterMs, s.unreachableAfterMs]

/-- The numbers of settings that have 64 bits. -/
def Settings.wideNumbers (c : Settings) : List UInt64 :=
  [c.diagnostics.logCapacity, c.health.intervalMs, c.reconnect.initialDelayMs,
    c.reconnect.maxDelayMs] ++ c.simulation.broker.wideNumbers ++ c.simulation.wifi.wideNumbers

/-- All numbers of the settings have a place in 64 bits with a sign. Those of fewer bits always
have. -/
def Settings.FitsInt64 (c : Settings) : Prop :=
  ∀ n ∈ c.wideNumbers, (n.toNat : Int) ≤ Int64.maxValue.toInt

namespace Encode

/-- A text is written as a value that fits. -/
@[simp] theorem fitsToml_text (s : String) : (text s).FitsToml := .inr (.text s)

/-- A text that may be absent is written as a value that fits: an absent one is left out. -/
@[simp] theorem fitsToml_optionalText (s : Option String) : (optionalText s).FitsToml := by
  rcases s with _ | s
  · exact .inl rfl
  · exact Value.fitsToml_text s

/-- There are no nulls in a rule. -/
theorem withoutNulls_rule (r : StatusRule) : (rule r).withoutNulls = rule r := by
  obtain ⟨component, state, effect⟩ := r
  rcases effect with _ | _ | ms <;> rfl

/-- A rule is written as a value that fits. -/
theorem fitsToml_rule (r : StatusRule) : (rule r).FitsToml := by
  obtain ⟨component, state, effect⟩ := r
  rcases effect with _ | _ | ms <;> simp [rule, effectEntries, fitsToml_table_iff, linkState]

/-- The settings of the indicators fit, with all of their rules. -/
theorem fitsToml_status (s : StatusSettings) : (status s).FitsToml := by
  have hrules : (Value.seq (s.rules.map rule)).FitsToml := by
    rw [fitsToml_seq_iff, List.forall_mem_map]
    intro r _
    apply (fitsToml_iff_of_ne _).mp (fitsToml_rule r)
    rintro ⟨⟩
  simp [status, fitsToml_table_iff, hrules]

/-- The general settings fit. -/
theorem fitsToml_general (s : GeneralSettings) : (general s).FitsToml := by
  simp [general, fitsToml_table_iff]

/-- The credentials of the network fit. -/
theorem fitsToml_wifi (s : WifiCredentials) : (wifi s).FitsToml := by
  simp [wifi, fitsToml_table_iff]

/-- The broker fits. -/
theorem fitsToml_broker (s : BrokerEndpoint) : (broker s).FitsToml := by
  simp [broker, fitsToml_table_iff]

/-- The settings of reconnecting fit just if their two waits do. -/
theorem fitsToml_reconnect_iff {s : ReconnectSettings} : (reconnect s).FitsToml ↔
    ∀ n ∈ [s.initialDelayMs, s.maxDelayMs], (n.toNat : Int) ≤ Int64.maxValue.toInt := by
  have hstrategy : (strategy s.strategy).FitsToml := by
    rcases s.strategy with _ | _ <;> exact Value.fitsToml_text _
  simp [reconnect, fitsToml_table_iff, hstrategy]

/-- The settings of the health checks fit just if their interval does. -/
theorem fitsToml_health_iff {s : HealthSettings} :
    (health s).FitsToml ↔ (s.intervalMs.toNat : Int) ≤ Int64.maxValue.toInt := by
  simp [health, fitsToml_table_iff]

/-- The settings of the diagnostics fit just if the capacity of the history does. -/
theorem fitsToml_diagnostics_iff {s : DiagnosticsSettings} :
    (diagnostics s).FitsToml ↔ (s.logCapacity.toNat : Int) ≤ Int64.maxValue.toInt := by
  simp [diagnostics, fitsToml_table_iff]

/-- The behaviour of a simulated link fits just if its numbers of 64 bits do. -/
theorem fitsToml_behavior_iff {s : LinkBehavior} :
    (behavior s).FitsToml ↔ ∀ n ∈ s.wideNumbers, (n.toNat : Int) ≤ Int64.maxValue.toInt := by
  simp [behavior, fitsToml_table_iff, LinkBehavior.wideNumbers]

/-- A simulation fits just if both of its links do. -/
theorem fitsToml_simulation_iff {s : SimulationSettings} : (simulation s).FitsToml ↔
    ∀ n ∈ s.broker.wideNumbers ++ s.wifi.wideNumbers, (n.toNat : Int) ≤ Int64.maxValue.toInt := by
  simp [simulation, fitsToml_table_iff, fitsToml_behavior_iff, List.forall_mem_append,
    -List.mem_append]

/-- Settings can be written in TOML if and only if their numbers are not too wide. -/
theorem isToml_settings_iff {c : Settings} :
    (settings c).withoutNulls.IsToml ↔ c.FitsInt64 := by
  have hne : settings c ≠ .null := by rintro ⟨⟩
  rw [← fitsToml_iff_of_ne hne, settings, fitsToml_table_iff]
  simp [fitsToml_general, fitsToml_wifi, fitsToml_broker, fitsToml_status, fitsToml_reconnect_iff,
    fitsToml_health_iff, fitsToml_diagnostics_iff, fitsToml_simulation_iff, Settings.FitsInt64,
    Settings.wideNumbers, List.forall_mem_append, and_assoc, -List.mem_append]

end Encode

/-! ### Leaving out the nulls of settings -/

open Slot

namespace Decode

variable {σ : Type} {fields : List (Field σ)} {shapes : List (String × Shape)} {f : Format}

/-- The nulls can be left out of a table if they can be left out of what its slots have written. -/
theorem trims_withoutNulls (slots : List (Slot fields shapes f))
    (h : ∀ x ∈ slots, Trims x.shape x.value x.value.withoutNulls) :
    Trims (.table shapes) (.table (slots.map Slot.entry))
      (Value.table (slots.map Slot.entry)).withoutNulls := by
  apply Trims.table
  apply trimsEntries_withoutNulls
  intro e he
  obtain ⟨x, hx, rfl⟩ := List.mem_map.mp he
  exact ⟨x.shape, x.known, h x hx⟩

/-- A value without nulls in it is kept as it is. -/
theorem trims_whole {v : Value} (h : v.withoutNulls = v) : Trims .whole v v.withoutNulls := by
  rw [h]
  exact .whole v

/-- There is nothing to be left out inside of a text, nor inside of null. -/
theorem withoutNulls_optionalText (s : Option String) :
    (Encode.optionalText s).withoutNulls = Encode.optionalText s := by
  rcases s with _ | s <;> rfl

/-- The nulls of the general settings can be left out. -/
theorem general_trims (s : GeneralSettings) :
    Trims (.table (plainShapes generalFields)) (Encode.general s)
      (Encode.general s).withoutNulls := by
  apply trims_withoutNulls (generalSlots .json s)
  simp only [generalSlots, List.forall_mem_cons]
  exact ⟨trims_whole rfl, trims_whole (withoutNulls_optionalText _), by simp⟩

/-- The nulls of the broker can be left out. -/
theorem broker_trims (s : BrokerEndpoint) :
    Trims (.table (plainShapes brokerFields)) (Encode.broker s)
      (Encode.broker s).withoutNulls := by
  apply trims_withoutNulls (brokerSlots .json s)
  simp only [brokerSlots, List.forall_mem_cons]
  exact ⟨trims_whole (withoutNulls_optionalText _), trims_whole rfl,
    trims_whole (withoutNulls_optionalText _), trims_whole rfl,
    trims_whole (withoutNulls_optionalText _), by simp⟩

/-- There are no nulls in the settings of reconnecting. -/
theorem reconnect_trims (s : ReconnectSettings) :
    Trims (.table (plainShapes reconnectFields)) (Encode.reconnect s)
      (Encode.reconnect s).withoutNulls := by
  have hstrategy : (Encode.strategy s.strategy).withoutNulls = Encode.strategy s.strategy := by
    rcases s.strategy with _ | _ <;> rfl
  apply trims_withoutNulls (reconnectSlots .json s)
  simp only [reconnectSlots, List.forall_mem_cons]
  exact ⟨trims_whole rfl, trims_whole rfl, trims_whole rfl, trims_whole hstrategy, by simp⟩

/-- There are no nulls in the settings of the indicators, nor in their rules. -/
theorem status_trims (s : StatusSettings) :
    Trims (.table (plainShapes statusFields)) (Encode.status s)
      (Encode.status s).withoutNulls := by
  apply trims_withoutNulls (statusSlots .json s)
  simp only [statusSlots, List.forall_mem_cons]
  refine ⟨trims_whole ?_, trims_whole rfl, by simp⟩
  show Value.seq (itemsWithoutNulls (s.rules.map Encode.rule)) = .seq (s.rules.map Encode.rule)
  rw [itemsWithoutNulls_eq_map, List.map_map]
  exact congrArg _ (List.map_congr_left fun r _ => Encode.withoutNulls_rule r)

/-- Leaving out the nulls of settings is a way of leaving keys out. -/
theorem settings_trims (c : Settings) :
    Trims (.table settingsShapes) (Encode.settings c) (Encode.settings c).withoutNulls := by
  apply trims_withoutNulls (settingsSlots .json c)
  simp only [settingsSlots, List.forall_mem_cons]
  exact ⟨broker_trims c.broker, trims_self (diagnosticsSlots .json c.diagnostics),
    general_trims c.general, trims_self (healthSlots .json c.health),
    reconnect_trims c.reconnect, trims_self (simulationSlots .json c.simulation),
    status_trims c.status, trims_self (wifiSlots .json c.wifi), by simp⟩

/-- An absent text is what its field has by default, so nothing is lost without the nulls. -/
theorem kept_withoutNulls (c : Settings) : c.kept (Encode.settings c).withoutNulls = c := by
  have hgeneral : c.general.kept (Encode.general c.general).withoutNulls = c.general := by
    rcases c.general with ⟨_ | level, device⟩ <;> rfl
  have hbroker : c.broker.kept (Encode.broker c.broker).withoutNulls = c.broker := by
    rcases c.broker with ⟨host, port, _ | username, _ | password, _ | clientId⟩ <;> rfl
  have hreconnect : c.reconnect.kept (Encode.reconnect c.reconnect).withoutNulls = c.reconnect := by
    rcases c.reconnect with ⟨_ | _, _, _, _⟩ <;> rfl
  -- The other sections have no case distinction that could hide what they are written as.
  calc c.kept (Encode.settings c).withoutNulls
      = { c with
          general := c.general.kept (Encode.general c.general).withoutNulls
          broker := c.broker.kept (Encode.broker c.broker).withoutNulls
          reconnect := c.reconnect.kept (Encode.reconnect c.reconnect).withoutNulls } := rfl
    _ = c := by rw [hgeneral, hbroker, hreconnect]

end Decode

/-! ### Both formats -/

namespace Settings

/-- Both formats read the value as the settings, and so is it read as the section of a file. -/
structure IsReadFrom (c : Settings) (v : Value) : Prop where
  toml : Decode.settings .toml v = .ok c
  json : Decode.settings .json v = .ok c
  ofSection? : ∀ path content, HasSection content v →
    Settings.ofSection? path content = .ok (some c)

end Settings

namespace Decode

/-- Whatever is left of the document of settings is read alike in both formats. -/
theorem isReadFrom_of_trims {c : Settings} {v : Value}
    (h : Trims (.table settingsShapes) (Encode.settings c) v) : (c.kept v).IsReadFrom v where
  toml := settings_of_trims .toml c h
  json := settings_of_trims .json c h
  ofSection? := by
    intro path content hsection
    rw [Settings.ofSection?_of_hasSection hsection, settings_of_trims .toml c h]
    rfl

/-- **Settings mean the same in both formats.**

* The document of settings without the keys of absent texts can stand in TOML if and only if the
  numbers of the settings have a place in 64 bits with a sign.
* It is read as these settings in both formats, and as the section of a file.
* Leave out any keys of its tables, and add keys that are no fields: what is left is read in both
  formats as the same settings, which are those with the missing fields at their defaults. Only the
  rules are left as they are or left out together. -/
theorem formats_agree (c : Settings) :
    let tree := (Encode.settings c).withoutNulls
    (tree.IsToml ↔ c.FitsInt64) ∧ c.IsReadFrom tree ∧
      ∀ v, Trims (.table settingsShapes) tree v → (c.kept v).IsReadFrom v := by
  intro tree
  have htree : Trims (.table settingsShapes) (Encode.settings c) tree := settings_trims c
  refine ⟨Encode.isToml_settings_iff, ?_, fun v hv => isReadFrom_of_trims (htree.trans hv)⟩
  have hread := isReadFrom_of_trims htree
  rwa [kept_withoutNulls] at hread

/-- Of a network and a broker only the name of the network is left, and then nothing at all, as in
a file with an empty section. -/
theorem formats_agree_name_and_nothing :
    let c : Settings := {
      wifi := { ssid := "home", password := "password" }
      broker := { host := "hub", username := some "user" } }
    let v : Value := .table [("wifi", .table [("ssid", .text "home")])]
    Trims (.table settingsShapes) (Encode.settings c).withoutNulls v ∧
      settings .toml v = .ok { wifi := { ssid := "home" } } ∧
      settings .json v = .ok { wifi := { ssid := "home" } } ∧
      Settings.ofSection? "lnk-rs.toml" "lnk-agent={}" = .ok (some {}) := by
  intro c v
  have hwifi : Trims (.table (plainShapes wifiFields)) (Encode.wifi c.wifi).withoutNulls
      (.table [("ssid", .text "home")]) :=
    .table (.drop (.keep rfl .nothing))
  have hname : Trims (.table settingsShapes) (Encode.settings c).withoutNulls v :=
    .table (.drop (.drop (.drop (.drop (.drop (.drop (.drop (.keep_of_trims rfl hwifi .nothing))))))))
  have hnothing : Trims (.table settingsShapes) (Encode.settings c).withoutNulls (.table []) :=
    .table (.drop (.drop (.drop (.drop (.drop (.drop (.drop (.drop .nothing))))))))
  have hsection : Settings.HasSection "lnk-agent={}" (.table []) :=
    ⟨[("lnk-agent", .table [])], rfl, rfl⟩
  have hread := (formats_agree c).2.2 v hname
  exact ⟨hname, hread.toml, hread.json,
    ((formats_agree c).2.2 _ hnothing).ofSection? _ _ hsection⟩

end Decode

end LinkWarden
