import LinkWarden.Config.Decode
import LinkWarden.Config.Encode
import LinkWarden.Proofs.Document.Trimmed

/-!
# Settings that are written and read back

Reading undoes writing, and a key that is missing stands for the value that its field has by
default, at every level of the document.

* A value of any kind is read back as it was written (`uint64_encode`, `effectOf_encode`,
  `rules_encode` and others).
* `Settings.kept` says what becomes of settings when only some keys of their document are left: each
  field is kept if its key is, and a section is kept field by field.
* `settings_of_trims`: whatever is left of the document of settings when keys are left out and
  others are added, outside the rules, is read as `Settings.kept` says. The lemmas of the sections
  are assembled from slots, one for each key.
* **Main statement** (`settings_inverts_encode`): with that, the document itself is read as the
  settings that it was made from.
-/

namespace LinkWarden

open Slot

/-! ### Single values -/

namespace Decode

/-- A text is read back. -/
theorem text_encode (s : String) : text (Encode.text s) = .ok s := rfl

/-- A text that may be absent is read back, and null as its absence. -/
theorem optionalText_encode (s : Option String) : optionalText (Encode.optionalText s) = .ok s := by
  cases s <;> rfl

/-- A truth value is read back. -/
theorem bool_encode (b : Bool) : bool (.bool b) = .ok b := rfl

/-- An integer within the bounds of its type is read back. -/
theorem intWithin_of_mem {type : String} {low high n : Int} (hlow : low ≤ n) (hhigh : n ≤ high) :
    intWithin type low high (.int n) = .ok n :=
  if_pos ⟨hlow, hhigh⟩

/-- A natural number below a size is within its bounds. -/
theorem intWithin_of_lt {type : String} {n size : Nat} (h : n < size) :
    intWithin type 0 (size - 1) (.int n) = .ok n :=
  intWithin_of_mem (Int.natCast_nonneg n) (Int.le_sub_one_of_lt (Int.ofNat_lt.mpr h))

/-- A number of 16 bits is read back. -/
theorem uint16_encode (n : UInt16) : uint16 (.int n.toNat) = .ok n := by
  rw [uint16, intWithin_of_lt n.toNat_lt_size]
  simp [Except.map]

/-- A number of 32 bits is read back. -/
theorem uint32_encode (n : UInt32) : uint32 (.int n.toNat) = .ok n := by
  rw [uint32, intWithin_of_lt n.toNat_lt_size]
  simp [Except.map]

/-- A number of 64 bits is read back. -/
theorem uint64_encode (n : UInt64) : uint64 (.int n.toNat) = .ok n := by
  rw [uint64, intWithin_of_lt n.toNat_lt_size]
  simp [Except.map]

/-- A size is read back. -/
theorem size_encode (n : UInt64) : size (.int n.toNat) = .ok n := by
  rw [size, intWithin_of_lt n.toNat_lt_size]
  simp [Except.map]

/-- A number of 32 bits with a sign is read back. -/
theorem int32_encode (n : Int32) : int32 (.int n.toInt) = .ok n := by
  rw [int32, intWithin_of_mem n.minValue_le_toInt n.toInt_le]
  simp [Except.map]

/-- The state of a link is read back in both formats. -/
theorem linkState_encode (f : Format) (s : LinkState) :
    linkState f (Encode.linkState s) = .ok s := by
  cases s <;> rfl

/-- The strategy of reconnecting is read back in both formats. -/
theorem strategy_encode (f : Format) (s : ReconnectStrategy) :
    variant f strategyNames (Encode.strategy s) = .ok s := by
  cases s <;> rfl

/-- The entries of an effect are read back in both formats. -/
theorem effectOf_encode (f : Format) (e : Effect) :
    effectOf (ruleEffectKind f) (Encode.effectEntries e) = .ok e := by
  cases e with
  | off => rfl
  | on => rfl
  | blink ms =>
    have hfield : effectFrom (Encode.effectEntries (.blink ms)) .blink =
        (uint32 (.int ms.toNat)).map .blink := rfl
    rw [uint32_encode] at hfield
    exact hfield

/-- The entries of a rule. -/
def ruleEntries (r : StatusRule) : List (String × Value) :=
  ("component", .text r.component) :: Encode.effectEntries r.effect ++
    [("state", Encode.linkState r.state)]

/-- The keys of an effect are none of the rule's own. -/
theorem effectEntries_ruleEntries (r : StatusRule) :
    effectEntries (ruleEntries r) = Encode.effectEntries r.effect := by
  obtain ⟨component, state, effect⟩ := r
  cases effect <;> rfl

/-- The keys of an effect give a rule nothing of its own. -/
theorem ruleFields_ruleEntries (f : Format) (r : StatusRule) :
    entries ruleFields f (ruleEntries r) {} =
      .ok { component := some r.component, state := some r.state } := by
  obtain ⟨component, state, effect⟩ := r
  have hstate : entry ruleFields f { component := some component }
      ("state", Encode.linkState state) =
      .ok { component := some component, state := some state } := by
    show Decoded.under "state" ((linkState f (Encode.linkState state)).map _) = _
    rw [linkState_encode]
    rfl
  have hlast : entries ruleFields f [("state", Encode.linkState state)]
      { component := some component } =
      .ok { component := some component, state := some state } := by
    rw [entries, hstate]
    rfl
  cases effect <;> exact hlast

/-- A rule is read back in both formats. -/
theorem rule_encode (f : Format) (r : StatusRule) : rule f (Encode.rule r) = .ok r := by
  have hrule : rule f (.table (ruleEntries r)) =
      (effectOf (ruleEffectKind f) (effectEntries (ruleEntries r))).bind fun effect =>
        .ok { component := r.component, state := r.state, effect } := by
    rw [rule, ruleFields_ruleEntries]
    rfl
  rw [effectEntries_ruleEntries, effectOf_encode] at hrule
  exact hrule

/-- **A list of rules is read back in both formats.** -/
theorem rules_encode (f : Format) (rules : List StatusRule) :
    seqOf (rule f) (.seq (rules.map Encode.rule)) = .ok rules := by
  have hmap : (rules.map Encode.rule).mapM (rule f) = .ok rules := by
    induction rules with
    | nil => rfl
    | cons r rest ih =>
      rw [List.map_cons, List.mapM_cons, rule_encode, ih]
      rfl
  exact hmap

end Decode

/-! ### What is kept -/

/-- What a field becomes: `kept v` where its key still has a value `v`, and `gone` where the key has
been left out. -/
def Value.pick {α : Type} (v : Value) (key : String) (gone : α) (kept : Value → α) : α :=
  (v.get? key).elim gone kept

/-- The general settings of which some keys are left. -/
def GeneralSettings.kept (c : GeneralSettings) (v : Value) : GeneralSettings :=
  let usual : GeneralSettings := {}
  { logLevel := v.pick "log_level" usual.logLevel fun _ => c.logLevel
    device := v.pick "device" usual.device fun _ => c.device }

/-- The credentials of the network of which some keys are left. -/
def WifiCredentials.kept (c : WifiCredentials) (v : Value) : WifiCredentials :=
  let usual : WifiCredentials := {}
  { ssid := v.pick "ssid" usual.ssid fun _ => c.ssid
    password := v.pick "password" usual.password fun _ => c.password }

/-- The settings of the broker of which some keys are left. -/
def BrokerEndpoint.kept (c : BrokerEndpoint) (v : Value) : BrokerEndpoint :=
  let usual : BrokerEndpoint := {}
  { host := v.pick "host" usual.host fun _ => c.host
    port := v.pick "port" usual.port fun _ => c.port
    username := v.pick "username" usual.username fun _ => c.username
    password := v.pick "password" usual.password fun _ => c.password
    clientId := v.pick "client_id" usual.clientId fun _ => c.clientId }

/-- The settings of the retries of which some keys are left. -/
def ReconnectSettings.kept (c : ReconnectSettings) (v : Value) : ReconnectSettings :=
  let usual : ReconnectSettings := {}
  { strategy := v.pick "strategy" usual.strategy fun _ => c.strategy
    initialDelayMs := v.pick "initial_delay_ms" usual.initialDelayMs fun _ => c.initialDelayMs
    maxDelayMs := v.pick "max_delay_ms" usual.maxDelayMs fun _ => c.maxDelayMs
    maxAttempts := v.pick "max_attempts" usual.maxAttempts fun _ => c.maxAttempts }

/-- The settings of the health checks of which some keys are left. -/
def HealthSettings.kept (c : HealthSettings) (v : Value) : HealthSettings :=
  let usual : HealthSettings := {}
  { enabled := v.pick "enabled" usual.enabled fun _ => c.enabled
    intervalMs := v.pick "interval_ms" usual.intervalMs fun _ => c.intervalMs
    unreachableThreshold := v.pick "unreachable_threshold" usual.unreachableThreshold fun _ =>
      c.unreachableThreshold }

/-- The settings of the diagnostics of which some keys are left. -/
def DiagnosticsSettings.kept (c : DiagnosticsSettings) (v : Value) : DiagnosticsSettings :=
  let usual : DiagnosticsSettings := {}
  { logCapacity := v.pick "log_capacity" usual.logCapacity fun _ => c.logCapacity
    dumpOnExit := v.pick "dump_on_exit" usual.dumpOnExit fun _ => c.dumpOnExit }

/-- The settings of the indicators of which some keys are left. -/
def StatusSettings.kept (c : StatusSettings) (v : Value) : StatusSettings :=
  let usual : StatusSettings := {}
  { useDefaults := v.pick "use_defaults" usual.useDefaults fun _ => c.useDefaults
    rules := v.pick "rules" usual.rules fun _ => c.rules }

/-- The behaviour of a simulated link of which some keys are left. -/
def LinkBehavior.kept (c : LinkBehavior) (v : Value) : LinkBehavior :=
  let usual : LinkBehavior := {}
  { connectLatencyMs := v.pick "connect_latency_ms" usual.connectLatencyMs fun _ =>
      c.connectLatencyMs
    failFirstAttempts := v.pick "fail_first_attempts" usual.failFirstAttempts fun _ =>
      c.failFirstAttempts
    dropAfterMs := v.pick "drop_after_ms" usual.dropAfterMs fun _ => c.dropAfterMs
    unreachableAfterMs := v.pick "unreachable_after_ms" usual.unreachableAfterMs fun _ =>
      c.unreachableAfterMs
    rssiDbm := v.pick "rssi_dbm" usual.rssiDbm fun _ => c.rssiDbm }

/-- The behaviour of both links of which some keys are left. -/
def SimulationSettings.kept (c : SimulationSettings) (v : Value) : SimulationSettings :=
  let usual : SimulationSettings := {}
  { wifi := v.pick "wifi" usual.wifi c.wifi.kept
    broker := v.pick "broker" usual.broker c.broker.kept }

/-- The settings of which some keys are left: a field is kept if its key is, and has the value that
it has by default if its key has been left out, whether the key of the field or of its section. -/
def Settings.kept (c : Settings) (v : Value) : Settings :=
  let usual : Settings := {}
  { general := v.pick "general" usual.general c.general.kept
    wifi := v.pick "wifi" usual.wifi c.wifi.kept
    broker := v.pick "broker" usual.broker c.broker.kept
    reconnect := v.pick "reconnect" usual.reconnect c.reconnect.kept
    health := v.pick "health" usual.health c.health.kept
    diagnostics := v.pick "diagnostics" usual.diagnostics c.diagnostics.kept
    status := v.pick "status" usual.status c.status.kept
    simulation := v.pick "sim" usual.simulation c.simulation.kept }

namespace Decode

/-! ### Which tables may be changed -/

/-- The shapes of fields that are kept as they are or left out. -/
def plainShapes {σ : Type} (fields : List (Field σ)) : List (String × Shape) :=
  fields.map fun field => (field.name, .whole)

/-- The tables of the simulation: one for each link. -/
def simulationShapes : List (String × Shape) := [
  ("wifi", .table (plainShapes behaviorFields)),
  ("broker", .table (plainShapes behaviorFields))]

/-- The tables of settings: all of the document except the rules. -/
def settingsShapes : List (String × Shape) := [
  ("general", .table (plainShapes generalFields)),
  ("wifi", .table (plainShapes wifiFields)),
  ("broker", .table (plainShapes brokerFields)),
  ("reconnect", .table (plainShapes reconnectFields)),
  ("health", .table (plainShapes healthFields)),
  ("diagnostics", .table (plainShapes diagnosticsFields)),
  ("status", .table (plainShapes statusFields)),
  ("sim", .table simulationShapes)]

/-! ### Sections

The slots of a section stand in the order in which its keys are written. -/

section Sections

variable (f : Format) {v : Value}

def generalSlots (c : GeneralSettings) :
    List (Slot generalFields (plainShapes generalFields) f) := [
  .plain "device" _ (·.device) _ rfl rfl (fun _ => rfl) (text_encode c.device),
  .plain "log_level" _ (·.logLevel) _ rfl rfl (fun _ => rfl) (optionalText_encode c.logLevel)]

/-- What is left of the general settings is read as they are kept. -/
theorem general_of_trims (c : GeneralSettings)
    (h : Trims (.table (plainShapes generalFields)) (Encode.general c) v) :
    general f v = .ok (c.kept v) :=
  struct_of_trims (generalSlots f c) h rfl (by simp [generalSlots, plain, of])

def wifiSlots (c : WifiCredentials) : List (Slot wifiFields (plainShapes wifiFields) f) := [
  .plain "password" _ (·.password) _ rfl rfl (fun _ => rfl) (text_encode c.password),
  .plain "ssid" _ (·.ssid) _ rfl rfl (fun _ => rfl) (text_encode c.ssid)]

/-- What is left of the credentials of the network is read as they are kept. -/
theorem wifi_of_trims (c : WifiCredentials)
    (h : Trims (.table (plainShapes wifiFields)) (Encode.wifi c) v) :
    wifi f v = .ok (c.kept v) :=
  struct_of_trims (wifiSlots f c) h rfl (by simp [wifiSlots, plain, of])

def brokerSlots (c : BrokerEndpoint) : List (Slot brokerFields (plainShapes brokerFields) f) := [
  .plain "client_id" _ (·.clientId) _ rfl rfl (fun _ => rfl) (optionalText_encode c.clientId),
  .plain "host" _ (·.host) _ rfl rfl (fun _ => rfl) (text_encode c.host),
  .plain "password" _ (·.password) _ rfl rfl (fun _ => rfl) (optionalText_encode c.password),
  .plain "port" _ (·.port) _ rfl rfl (fun _ => rfl) (uint16_encode c.port),
  .plain "username" _ (·.username) _ rfl rfl (fun _ => rfl) (optionalText_encode c.username)]

/-- What is left of the broker is read as it is kept. -/
theorem broker_of_trims (c : BrokerEndpoint)
    (h : Trims (.table (plainShapes brokerFields)) (Encode.broker c) v) :
    broker f v = .ok (c.kept v) :=
  struct_of_trims (brokerSlots f c) h rfl (by simp [brokerSlots, plain, of])

def reconnectSlots (c : ReconnectSettings) :
    List (Slot reconnectFields (plainShapes reconnectFields) f) := [
  .plain "initial_delay_ms" _ (·.initialDelayMs) _ rfl rfl (fun _ => rfl)
    (uint64_encode c.initialDelayMs),
  .plain "max_attempts" _ (·.maxAttempts) _ rfl rfl (fun _ => rfl) (uint32_encode c.maxAttempts),
  .plain "max_delay_ms" _ (·.maxDelayMs) _ rfl rfl (fun _ => rfl) (uint64_encode c.maxDelayMs),
  .plain "strategy" _ (·.strategy) _ rfl rfl (fun _ => rfl) (strategy_encode f c.strategy)]

/-- What is left of the settings of reconnecting is read as they are kept. -/
theorem reconnect_of_trims (c : ReconnectSettings)
    (h : Trims (.table (plainShapes reconnectFields)) (Encode.reconnect c) v) :
    reconnect f v = .ok (c.kept v) :=
  struct_of_trims (reconnectSlots f c) h rfl (by simp [reconnectSlots, plain, of])

def healthSlots (c : HealthSettings) : List (Slot healthFields (plainShapes healthFields) f) := [
  .plain "enabled" _ (·.enabled) _ rfl rfl (fun _ => rfl) (bool_encode c.enabled),
  .plain "interval_ms" _ (·.intervalMs) _ rfl rfl (fun _ => rfl) (uint64_encode c.intervalMs),
  .plain "unreachable_threshold" _ (·.unreachableThreshold) _ rfl rfl (fun _ => rfl)
    (uint32_encode c.unreachableThreshold)]

/-- What is left of the settings of the health checks is read as they are kept. -/
theorem health_of_trims (c : HealthSettings)
    (h : Trims (.table (plainShapes healthFields)) (Encode.health c) v) :
    health f v = .ok (c.kept v) :=
  struct_of_trims (healthSlots f c) h rfl (by simp [healthSlots, plain, of])

def diagnosticsSlots (c : DiagnosticsSettings) :
    List (Slot diagnosticsFields (plainShapes diagnosticsFields) f) := [
  .plain "dump_on_exit" _ (·.dumpOnExit) _ rfl rfl (fun _ => rfl) (bool_encode c.dumpOnExit),
  .plain "log_capacity" _ (·.logCapacity) _ rfl rfl (fun _ => rfl) (size_encode c.logCapacity)]

/-- What is left of the settings of the diagnostics is read as they are kept. -/
theorem diagnostics_of_trims (c : DiagnosticsSettings)
    (h : Trims (.table (plainShapes diagnosticsFields)) (Encode.diagnostics c) v) :
    diagnostics f v = .ok (c.kept v) :=
  struct_of_trims (diagnosticsSlots f c) h rfl (by simp [diagnosticsSlots, plain, of])

def statusSlots (c : StatusSettings) : List (Slot statusFields (plainShapes statusFields) f) := [
  .plain "rules" _ (·.rules) _ rfl rfl (fun _ => rfl) (rules_encode f c.rules),
  .plain "use_defaults" _ (·.useDefaults) _ rfl rfl (fun _ => rfl) (bool_encode c.useDefaults)]

/-- What is left of the settings of the indicators is read as they are kept. -/
theorem status_of_trims (c : StatusSettings)
    (h : Trims (.table (plainShapes statusFields)) (Encode.status c) v) :
    status f v = .ok (c.kept v) :=
  struct_of_trims (statusSlots f c) h rfl (by simp [statusSlots, plain, of])

def behaviorSlots (c : LinkBehavior) :
    List (Slot behaviorFields (plainShapes behaviorFields) f) := [
  .plain "connect_latency_ms" _ (·.connectLatencyMs) _ rfl rfl (fun _ => rfl)
    (uint64_encode c.connectLatencyMs),
  .plain "drop_after_ms" _ (·.dropAfterMs) _ rfl rfl (fun _ => rfl) (uint64_encode c.dropAfterMs),
  .plain "fail_first_attempts" _ (·.failFirstAttempts) _ rfl rfl (fun _ => rfl)
    (uint32_encode c.failFirstAttempts),
  .plain "rssi_dbm" _ (·.rssiDbm) _ rfl rfl (fun _ => rfl) (int32_encode c.rssiDbm),
  .plain "unreachable_after_ms" _ (·.unreachableAfterMs) _ rfl rfl (fun _ => rfl)
    (uint64_encode c.unreachableAfterMs)]

/-- What is left of the behaviour of a simulated link is read as it is kept. -/
theorem behavior_of_trims (c : LinkBehavior)
    (h : Trims (.table (plainShapes behaviorFields)) (Encode.behavior c) v) :
    behavior f v = .ok (c.kept v) :=
  struct_of_trims (behaviorSlots f c) h rfl (by simp [behaviorSlots, plain, of])

def simulationSlots (c : SimulationSettings) :
    List (Slot simulationFields simulationShapes f) := [
  .of "broker" _ _ (·.broker) _ rfl rfl (fun _ => rfl) (trims_self (behaviorSlots f c.broker))
    fun _ => behavior_of_trims f c.broker,
  .of "wifi" _ _ (·.wifi) _ rfl rfl (fun _ => rfl) (trims_self (behaviorSlots f c.wifi))
    fun _ => behavior_of_trims f c.wifi]

/-- What is left of the simulation is read as it is kept, link by link. -/
theorem simulation_of_trims (c : SimulationSettings)
    (h : Trims (.table simulationShapes) (Encode.simulation c) v) :
    simulation f v = .ok (c.kept v) :=
  struct_of_trims (simulationSlots f c) h rfl (by simp [simulationSlots, of])

def settingsSlots (c : Settings) : List (Slot settingsFields settingsShapes f) := [
  .of "broker" _ _ (·.broker) _ rfl rfl (fun _ => rfl) (trims_self (brokerSlots f c.broker))
    fun _ => broker_of_trims f c.broker,
  .of "diagnostics" _ _ (·.diagnostics) _ rfl rfl (fun _ => rfl)
    (trims_self (diagnosticsSlots f c.diagnostics)) fun _ => diagnostics_of_trims f c.diagnostics,
  .of "general" _ _ (·.general) _ rfl rfl (fun _ => rfl) (trims_self (generalSlots f c.general))
    fun _ => general_of_trims f c.general,
  .of "health" _ _ (·.health) _ rfl rfl (fun _ => rfl) (trims_self (healthSlots f c.health))
    fun _ => health_of_trims f c.health,
  .of "reconnect" _ _ (·.reconnect) _ rfl rfl (fun _ => rfl)
    (trims_self (reconnectSlots f c.reconnect)) fun _ => reconnect_of_trims f c.reconnect,
  .of "sim" _ _ (·.simulation) _ rfl rfl (fun _ => rfl)
    (trims_self (simulationSlots f c.simulation)) fun _ => simulation_of_trims f c.simulation,
  .of "status" _ _ (·.status) _ rfl rfl (fun _ => rfl) (trims_self (statusSlots f c.status))
    fun _ => status_of_trims f c.status,
  .of "wifi" _ _ (·.wifi) _ rfl rfl (fun _ => rfl) (trims_self (wifiSlots f c.wifi))
    fun _ => wifi_of_trims f c.wifi]

/-- What is left of the document of settings is read as the settings that are kept. -/
theorem settings_of_trims (c : Settings)
    (h : Trims (.table settingsShapes) (Encode.settings c) v) : settings f v = .ok (c.kept v) :=
  struct_of_trims (settingsSlots f c) h rfl (by simp [settingsSlots, of])

/-- Where nothing is missing, all settings are kept. -/
theorem kept_encode (c : Settings) : c.kept (Encode.settings c) = c := rfl

/-- The document of settings is read as these settings. -/
theorem settings_encode (c : Settings) : settings f (Encode.settings c) = .ok c := by
  have h : settings f (Encode.settings c) = .ok (c.kept (Encode.settings c)) :=
    settings_of_trims f c (trims_self (settingsSlots f c))
  rwa [kept_encode] at h

end Sections

/-! ### The round trip -/

/-- **Reading settings undoes writing them, and missing keys stand for defaults.**

* The document of any settings is read as these settings, in both formats.
* Leave out any keys of its tables, whole sections or single fields, and add keys that are no
  fields, with any values: what is left can still be read, and gives the settings with the fields
  that have been left out at their defaults and all others as they were. Only the rules are left as
  they are or left out together. -/
theorem settings_inverts_encode (f : Format) (c : Settings) :
    settings f (Encode.settings c) = .ok c ∧
      ∀ v, Trims (.table settingsShapes) (Encode.settings c) v → settings f v = .ok (c.kept v) :=
  ⟨settings_encode f c, fun _ h => settings_of_trims f c h⟩

/-- Of a network and a persistent reconnector only the name and the longest wait are left, beside
two keys that mean nothing. -/
theorem settings_of_name_and_ceiling :
    let c : Settings := {
      wifi := { ssid := "home", password := "password" }
      reconnect := { strategy := .persist, maxDelayMs := 60000 } }
    let v : Value := .table [
      ("colour", .text "red"),
      ("reconnect", .table [("max_delay_ms", .int 60000), ("jitter", .null)]),
      ("wifi", .table [("ssid", .text "home")])]
    Trims (.table settingsShapes) (Encode.settings c) v ∧
      settings .json v = .ok {
        wifi := { ssid := "home", password := "" }
        reconnect := { strategy := .escalate, maxDelayMs := 60000 } } := by
  intro c v
  have hreconnect : Trims (.table (plainShapes reconnectFields)) (Encode.reconnect c.reconnect)
      (.table [("max_delay_ms", .int 60000), ("jitter", .null)]) :=
    .table (.drop (.drop (.keep rfl (.drop (.add rfl .nothing)))))
  have hwifi : Trims (.table (plainShapes wifiFields)) (Encode.wifi c.wifi)
      (.table [("ssid", .text "home")]) :=
    .table (.drop (.keep rfl .nothing))
  have htrims : Trims (.table settingsShapes) (Encode.settings c) v :=
    .table (.add rfl (.drop (.drop (.drop (.drop (.keep_of_trims rfl hreconnect
      (.drop (.drop (.keep_of_trims rfl hwifi .nothing)))))))))
  exact ⟨htrims, (settings_inverts_encode .json c).2 v htrims⟩

end Decode

end LinkWarden
