import LinkWarden.Config.Check
import Mathlib.Data.List.Basic
import Mathlib.Data.List.TakeWhile

/-!
# The first violation is reported

Settings can be used unless something is wrong with them, and of all that is wrong the first in a
fixed order is reported.

* `Violation` lists what can be wrong, in that order. `Violation.Holds` says when it is the case,
  and `Violation.text` what is reported then; neither speaks of how settings are checked.
* The check looks at settings in groups, and each group reports the first of its own violations
  (`message_levelFault?` and the lemmas after it). `message_fault?` puts the groups together.
* `Settings.CheckedAlike` relates settings that differ only in what a check does not look at.
* **Main statement** (`check_reports_first`): the check passes just if there is no violation, fails
  with the text of the first one otherwise, and looks at nothing else.
-/

namespace LinkWarden

/-! ### Blank texts -/

namespace Text

/-- Nothing is left of characters that are all blank, and of no others. -/
theorem trimChars_eq_nil_iff {cs : List Char} :
    trimChars cs = [] ↔ ∀ c ∈ cs, isBlank c = true := by
  rw [trimChars, List.reverse_eq_nil_iff, List.dropWhile_eq_nil_iff]
  constructor
  · intro h c hc
    rw [← List.takeWhile_append_dropWhile (p := isBlank) (l := cs), List.mem_append] at hc
    rcases hc with hc | hc
    · exact List.mem_takeWhile_imp hc
    · exact h c (List.mem_reverse.mpr hc)
  · intro h c hc
    rw [List.dropWhile_eq_nil_iff.mpr h] at hc
    exact absurd hc List.not_mem_nil

/-- A text holds nothing but blanks just if nothing is left of it without those at its ends. -/
theorem isBlankText_iff {s : String} : isBlankText s = true ↔ trim s = "" := by
  rw [isBlankText, List.all_eq_true, trim, String.ofList_eq_empty_iff, trimChars_eq_nil_iff]

end Text

/-! ### What can be wrong -/

/-- What can be wrong with settings, in the order in which it is reported. -/
inductive Violation
  | unknownLevel
  | emptySsid
  | longSsid
  | passphraseLength
  | blankHost
  | zeroPort
  | passwordWithoutUsername
  | zeroInitialDelay
  | maxDelayBelowInitial
  | zeroMaxAttempts
  | zeroInterval
  | zeroThreshold
  | zeroLogCapacity
  | blankComponent
  deriving DecidableEq, Repr

namespace Violation

/-- The violations in order. -/
def all : List Violation := [
  .unknownLevel, .emptySsid, .longSsid, .passphraseLength, .blankHost, .zeroPort,
  .passwordWithoutUsername, .zeroInitialDelay, .maxDelayBelowInitial, .zeroMaxAttempts,
  .zeroInterval, .zeroThreshold, .zeroLogCapacity, .blankComponent]

/-- No violation is missing from the list. -/
theorem mem_all (v : Violation) : v ∈ all := by
  cases v <;> decide

/-- When it is the case. A network name is measured in bytes and a passphrase in characters. The
number of attempts matters only if the device is restarted after them, and what is set about probes
only if there are any. -/
def Holds (s : Settings) : Violation → Prop
  | .unknownLevel =>
    ∃ level ∈ s.general.logLevel, level ∉ ["trace", "debug", "info", "warn", "error"]
  | .emptySsid => s.wifi.ssid = ""
  | .longSsid => 32 < s.wifi.ssid.utf8ByteSize
  | .passphraseLength =>
    s.wifi.password.length ≠ 0 ∧ ¬ (8 ≤ s.wifi.password.length ∧ s.wifi.password.length ≤ 63)
  | .blankHost => Text.trim s.broker.host = ""
  | .zeroPort => s.broker.port = 0
  | .passwordWithoutUsername => s.broker.password.isSome ∧ s.broker.username = none
  | .zeroInitialDelay => s.reconnect.initialDelayMs = 0
  | .maxDelayBelowInitial => s.reconnect.maxDelayMs < s.reconnect.initialDelayMs
  | .zeroMaxAttempts => s.reconnect.strategy = .escalate ∧ s.reconnect.maxAttempts = 0
  | .zeroInterval => s.health.enabled ∧ s.health.intervalMs = 0
  | .zeroThreshold => s.health.enabled ∧ s.health.unreachableThreshold = 0
  | .zeroLogCapacity => s.diagnostics.logCapacity = 0
  | .blankComponent => ∃ r ∈ s.status.rules, Text.trim r.component = ""

/-- What is reported. -/
def text (s : Settings) : Violation → String
  | .unknownLevel =>
    "[general].log_level '" ++ s.general.logLevel.getD "" ++
      "' is invalid (expected one of: trace, debug, info, warn, error)"
  | .emptySsid => "[wifi]: invalid configuration: wifi ssid must not be empty"
  | .longSsid =>
    "[wifi]: invalid configuration: wifi ssid must be at most 32 bytes (got " ++
      toString s.wifi.ssid.utf8ByteSize ++ ")"
  | .passphraseLength =>
    "[wifi]: invalid configuration: wifi password must be empty or 8..=63 characters (got " ++
      toString s.wifi.password.length ++ ")"
  | .blankHost => "[broker]: invalid configuration: broker host must not be empty"
  | .zeroPort => "[broker]: invalid configuration: broker port must be > 0"
  | .passwordWithoutUsername =>
    "[broker]: invalid configuration: broker password requires a username"
  | .zeroInitialDelay => "[reconnect].initial_delay_ms must be > 0"
  | .maxDelayBelowInitial => "[reconnect].max_delay_ms must be >= initial_delay_ms"
  | .zeroMaxAttempts => "[reconnect].max_attempts must be > 0 with the escalate strategy"
  | .zeroInterval => "[health].interval_ms must be > 0 when enabled"
  | .zeroThreshold => "[health].unreachable_threshold must be > 0"
  | .zeroLogCapacity => "[diagnostics].log_capacity must be > 0"
  | .blankComponent => "[status].rules entries need a component"

instance (s : Settings) (v : Violation) : Decidable (v.Holds s) :=
  match v with
  | .unknownLevel => inferInstanceAs (Decidable (∃ level ∈ s.general.logLevel, level ∉ _))
  | .emptySsid => inferInstanceAs (Decidable (s.wifi.ssid = ""))
  | .longSsid => inferInstanceAs (Decidable (32 < s.wifi.ssid.utf8ByteSize))
  | .passphraseLength => inferInstanceAs (Decidable (_ ≠ 0 ∧ ¬ (8 ≤ _ ∧ _ ≤ 63)))
  | .blankHost => inferInstanceAs (Decidable (Text.trim s.broker.host = ""))
  | .zeroPort => inferInstanceAs (Decidable (s.broker.port = 0))
  | .passwordWithoutUsername =>
    inferInstanceAs (Decidable (s.broker.password.isSome ∧ s.broker.username = none))
  | .zeroInitialDelay => inferInstanceAs (Decidable (s.reconnect.initialDelayMs = 0))
  | .maxDelayBelowInitial => inferInstanceAs (Decidable (_ < s.reconnect.initialDelayMs))
  | .zeroMaxAttempts =>
    inferInstanceAs (Decidable (s.reconnect.strategy = .escalate ∧ s.reconnect.maxAttempts = 0))
  | .zeroInterval => inferInstanceAs (Decidable (s.health.enabled ∧ s.health.intervalMs = 0))
  | .zeroThreshold =>
    inferInstanceAs (Decidable (s.health.enabled ∧ s.health.unreachableThreshold = 0))
  | .zeroLogCapacity => inferInstanceAs (Decidable (s.diagnostics.logCapacity = 0))
  | .blankComponent =>
    inferInstanceAs (Decidable (∃ r ∈ s.status.rules, Text.trim r.component = ""))

/-- It is the case, and none of those before it is. -/
def IsFirst (s : Settings) (v : Violation) : Prop :=
  ∃ before after, all = before ++ v :: after ∧ v.Holds s ∧ ∀ w ∈ before, ¬ w.Holds s

/-! ### The first text -/

/-- The text of the first violation among some. -/
def firstText (s : Settings) (vs : List Violation) : Option String :=
  vs.findSome? fun v => if v.Holds s then some (v.text s) else none

/-- Among no violations there is no first one. -/
@[simp] theorem firstText_nil (s : Settings) : firstText s [] = none := rfl

/-- The first violation is reported if it is the case, and otherwise the search goes on. -/
@[simp] theorem firstText_cons (s : Settings) (v : Violation) (vs : List Violation) :
    firstText s (v :: vs) = if v.Holds s then some (v.text s) else firstText s vs := by
  unfold firstText
  rw [List.findSome?_cons]
  split_ifs <;> rfl

/-- The later violations matter only if none of the earlier ones is the case. -/
theorem firstText_append (s : Settings) (vs ws : List Violation) :
    firstText s (vs ++ ws) = (firstText s vs).or (firstText s ws) :=
  List.findSome?_append

/-- Nothing is reported just if nothing is wrong. -/
theorem firstText_all_eq_none_iff {s : Settings} :
    firstText s all = none ↔ ∀ v : Violation, ¬ v.Holds s := by
  rw [firstText, List.findSome?_eq_none_iff]
  constructor
  · intro h v hv
    simpa [hv] using h v (mem_all v)
  · intro h v _
    exact if_neg (h v)

/-- **What is reported is the text of the first violation.** -/
theorem firstText_all_eq_some_iff {s : Settings} {message : String} :
    firstText s all = some message ↔ ∃ v : Violation, v.IsFirst s ∧ message = v.text s := by
  rw [firstText, List.findSome?_eq_some_iff]
  constructor
  · rintro ⟨before, v, after, hall, hv, hbefore⟩
    obtain ⟨hholds, htext⟩ := Option.ite_none_right_eq_some.mp hv
    refine ⟨v, ⟨before, after, hall, hholds, fun w hw hwholds => ?_⟩, (Option.some.inj htext).symm⟩
    simpa [hwholds] using hbefore w hw
  · rintro ⟨v, ⟨before, after, hall, hholds, hbefore⟩, rfl⟩
    exact ⟨before, v, after, hall, if_pos hholds, fun w hw => if_neg (hbefore w hw)⟩

end Violation

namespace Settings

open Violation

/-! ### Texts

The texts of the faults of credentials and endpoints are put together from parts. -/

/-- The text about an unknown level quotes it. -/
theorem message_logLevel {s : Settings} {level : String} (h : s.general.logLevel = some level) :
    (SettingsFault.logLevel level).message = Violation.text s .unknownLevel := by
  unfold Violation.text
  rw [h]
  rfl

/-- The text about a network without a name. -/
theorem message_emptySsid (s : Settings) :
    (SettingsFault.wifi (.config WifiCredentials.Fault.emptySsid.message)).message =
      Violation.text s .emptySsid := by
  show _ = "[wifi]: invalid configuration: wifi ssid must not be empty"
  decide

/-- The text about a name that is too long says how long it is. -/
theorem message_longSsid (s : Settings) :
    (SettingsFault.wifi (.config
      (WifiCredentials.Fault.longSsid s.wifi.ssid.utf8ByteSize).message)).message =
      Violation.text s .longSsid := by
  have hhead : "[wifi]: invalid configuration: wifi ssid must be at most 32 bytes (got " =
      "[wifi]: " ++ ("invalid configuration: " ++ ("wifi ssid must be at most " ++
        (toString WifiCredentials.longestSsid ++ " bytes (got "))) := by decide
  unfold Violation.text SettingsFault.message LinkError.message WifiCredentials.Fault.message
  rw [hhead]
  simp only [String.append_assoc]

/-- The text about a passphrase of a wrong length says how long it is. -/
theorem message_passphraseLength (s : Settings) :
    (SettingsFault.wifi (.config
      (WifiCredentials.Fault.passphraseLength s.wifi.password.length).message)).message =
      Violation.text s .passphraseLength := by
  have hhead :
      "[wifi]: invalid configuration: wifi password must be empty or 8..=63 characters (got " =
      "[wifi]: " ++ ("invalid configuration: " ++ ("wifi password must be empty or " ++
        (toString WifiCredentials.shortestPassphrase ++ ("..=" ++
          (toString WifiCredentials.longestPassphrase ++ " characters (got "))))) := by decide
  unfold Violation.text SettingsFault.message LinkError.message WifiCredentials.Fault.message
  rw [hhead]
  simp only [String.append_assoc]

/-- The text about a host that is blank. -/
theorem message_emptyHost (s : Settings) :
    (SettingsFault.broker (.config BrokerEndpoint.Fault.emptyHost.message)).message =
      Violation.text s .blankHost := by
  show _ = "[broker]: invalid configuration: broker host must not be empty"
  decide

/-- The text about a port that is zero. -/
theorem message_zeroPort (s : Settings) :
    (SettingsFault.broker (.config BrokerEndpoint.Fault.zeroPort.message)).message =
      Violation.text s .zeroPort := by
  show _ = "[broker]: invalid configuration: broker port must be > 0"
  decide

/-- The text about a password without a name. -/
theorem message_passwordWithoutUsername (s : Settings) :
    (SettingsFault.broker (.config
      BrokerEndpoint.Fault.passwordWithoutUsername.message)).message =
      Violation.text s .passwordWithoutUsername := by
  show _ = "[broker]: invalid configuration: broker password requires a username"
  decide

/-! ### Groups -/

/-- A fault that is found just where a violation is. -/
theorem message_faultIf {s : Settings} {v : Violation} {condition : Bool} {fault : SettingsFault}
    (hcondition : condition = true ↔ v.Holds s) (htext : fault.message = v.text s) :
    (faultIf condition fault).map SettingsFault.message = firstText s [v] := by
  rw [firstText_cons, firstText_nil, faultIf]
  by_cases hv : v.Holds s
  · rw [if_pos hv, if_pos (hcondition.mpr hv), Option.map_some, htext]
  · rw [if_neg hv, if_neg (mt hcondition.mp hv), Option.map_none]

/-- The level of the log has one violation. -/
theorem message_levelFault? (s : Settings) :
    s.levelFault?.map SettingsFault.message = firstText s [.unknownLevel] := by
  unfold levelFault?
  rcases hlevel : s.general.logLevel with _ | level
  · have hnot : ¬ Holds s .unknownLevel := by
      rintro ⟨level, hsome, -⟩
      rw [hlevel] at hsome
      exact Option.not_mem_none level hsome
    rw [firstText_cons, if_neg hnot, firstText_nil, Option.map_none]
  · apply message_faultIf _ (message_logLevel hlevel)
    have hholds : Holds s .unknownLevel ↔ level ∉ levelNames := by
      show (∃ l ∈ s.general.logLevel, l ∉ levelNames) ↔ _
      rw [hlevel]
      simp
    rw [hholds, Bool.not_eq_true', List.contains_eq_mem, decide_eq_false_iff_not]

/-- The first fault of the network is the first of its three violations. -/
theorem message_wifiFault? (s : Settings) :
    s.wifiFault?.map SettingsFault.message =
      firstText s [.emptySsid, .longSsid, .passphraseLength] := by
  have hcheck : s.wifiFault? =
      s.wifi.fault?.map fun f => SettingsFault.wifi (.config f.message) := by
    unfold wifiFault? WifiCredentials.check
    rcases s.wifi.fault? with _ | f <;> rfl
  have hfault : s.wifi.fault? =
      if Holds s .emptySsid then some .emptySsid
      else if Holds s .longSsid then some (.longSsid s.wifi.ssid.utf8ByteSize)
      else if Holds s .passphraseLength then some (.passphraseLength s.wifi.password.length)
      else none := by
    unfold WifiCredentials.fault?
    simp only [String.isEmpty_iff]
    rfl
  rw [hcheck, hfault, firstText_cons, firstText_cons, firstText_cons, firstText_nil]
  split_ifs
  · exact congrArg some (message_emptySsid s)
  · exact congrArg some (message_longSsid s)
  · exact congrArg some (message_passphraseLength s)
  · rfl

/-- The first fault of the broker is the first of its three violations. -/
theorem message_brokerFault? (s : Settings) :
    s.brokerFault?.map SettingsFault.message =
      firstText s [.blankHost, .zeroPort, .passwordWithoutUsername] := by
  have hcheck : s.brokerFault? =
      s.broker.fault?.map fun f => SettingsFault.broker (.config f.message) := by
    unfold brokerFault? BrokerEndpoint.check
    rcases s.broker.fault? with _ | f <;> rfl
  have hfault : s.broker.fault? =
      if Holds s .blankHost then some .emptyHost
      else if Holds s .zeroPort then some .zeroPort
      else if Holds s .passwordWithoutUsername then some .passwordWithoutUsername
      else none := by
    unfold BrokerEndpoint.fault?
    simp only [Text.isBlankText_iff, Bool.and_eq_true, Option.isNone_iff_eq_none]
    rfl
  rw [hcheck, hfault, firstText_cons, firstText_cons, firstText_cons, firstText_nil]
  split_ifs
  · exact congrArg some (message_emptyHost s)
  · exact congrArg some (message_zeroPort s)
  · exact congrArg some (message_passwordWithoutUsername s)
  · rfl

/-- If every fault of a list is the first of its group of violations, then the first fault is the
first violation of all. -/
theorem message_findSome? {s : Settings} {faults : List (Option SettingsFault)}
    {groups : List (List Violation)}
    (h : List.Forall₂ (fun fault vs => fault.map SettingsFault.message = firstText s vs)
      faults groups) :
    (faults.findSome? id).map SettingsFault.message = firstText s groups.flatten := by
  induction h with
  | nil => rfl
  | @cons fault vs _ _ hfault _ ih =>
    rw [List.findSome?_cons, List.flatten_cons, firstText_append, ← hfault, ← ih]
    rcases fault with _ | fault <;> rfl

/-- The first fault is the first violation. -/
theorem message_fault? (s : Settings) :
    s.fault?.map SettingsFault.message = firstText s Violation.all := by
  have hattempts : (s.reconnect.strategy == .escalate && s.reconnect.maxAttempts == 0) = true ↔
      Holds s .zeroMaxAttempts := by
    rw [Bool.and_eq_true, beq_iff_eq, beq_iff_eq]
    rfl
  have hinterval : (s.health.enabled && s.health.intervalMs == 0) = true ↔
      Holds s .zeroInterval := by
    rw [Bool.and_eq_true, beq_iff_eq]
    rfl
  have hthreshold : (s.health.enabled && s.health.unreachableThreshold == 0) = true ↔
      Holds s .zeroThreshold := by
    rw [Bool.and_eq_true, beq_iff_eq]
    rfl
  have hcomponent : (s.status.rules.any fun r => Text.isBlankText r.component) = true ↔
      Holds s .blankComponent := by
    simp only [List.any_eq_true, Text.isBlankText_iff]
    rfl
  have hgroups : Violation.all = [[.unknownLevel], [.emptySsid, .longSsid, .passphraseLength],
      [.blankHost, .zeroPort, .passwordWithoutUsername], [.zeroInitialDelay],
      [.maxDelayBelowInitial], [.zeroMaxAttempts], [.zeroInterval], [.zeroThreshold],
      [.zeroLogCapacity], [.blankComponent]].flatten := rfl
  rw [hgroups]
  apply message_findSome?
  refine .cons (message_levelFault? s) <| .cons (message_wifiFault? s) <|
    .cons (message_brokerFault? s) <| .cons (message_faultIf beq_iff_eq rfl) <|
    .cons (message_faultIf decide_eq_true_iff rfl) <| .cons (message_faultIf hattempts rfl) <|
    .cons (message_faultIf hinterval rfl) <| .cons (message_faultIf hthreshold rfl) <|
    .cons (message_faultIf beq_iff_eq rfl) <| .cons (message_faultIf hcomponent rfl) .nil

/-- The check reports the first violation. -/
theorem mapError_check (s : Settings) :
    s.check.mapError SettingsFault.message =
      (firstText s Violation.all).elim (.ok ()) .error := by
  rw [← message_fault?, check]
  rcases s.fault? with _ | fault <;> rfl

/-- The check passes just if there is nothing to be reported. -/
theorem check_eq_ok_iff {s : Settings} :
    s.check = .ok () ↔ firstText s Violation.all = none := by
  rw [← message_fault?, Option.map_eq_none_iff, check]
  rcases s.fault? with _ | fault
  · exact iff_of_true rfl rfl
  · exact iff_of_false (by rintro ⟨⟩) (by rintro ⟨⟩)

/-! ### What has no influence -/

/-- Settings that differ at most in what a check does not look at: how the device and the session
are called, whether the history is listed, how the links are simulated, which effects are shown in
which states, whether the usual ones come first, how often attempts are made where no restart
follows, and how probes are made where there are none. -/
structure CheckedAlike (s t : Settings) : Prop where
  logLevel : t.general.logLevel = s.general.logLevel
  wifi : t.wifi = s.wifi
  host : t.broker.host = s.broker.host
  port : t.broker.port = s.broker.port
  username : t.broker.username = s.broker.username
  password : t.broker.password = s.broker.password
  strategy : t.reconnect.strategy = s.reconnect.strategy
  initialDelay : t.reconnect.initialDelayMs = s.reconnect.initialDelayMs
  maxDelay : t.reconnect.maxDelayMs = s.reconnect.maxDelayMs
  maxAttempts : s.reconnect.strategy = .escalate →
    t.reconnect.maxAttempts = s.reconnect.maxAttempts
  enabled : t.health.enabled = s.health.enabled
  interval : s.health.enabled = true → t.health.intervalMs = s.health.intervalMs
  threshold : s.health.enabled = true →
    t.health.unreachableThreshold = s.health.unreachableThreshold
  logCapacity : t.diagnostics.logCapacity = s.diagnostics.logCapacity
  components : t.status.rules.map StatusRule.component = s.status.rules.map StatusRule.component

namespace CheckedAlike

variable {s t : Settings} (h : CheckedAlike s t)
include h

/-- The name of the session at the broker has no influence on its fault. -/
theorem brokerFault?_eq : t.brokerFault? = s.brokerFault? := by
  unfold brokerFault? BrokerEndpoint.check BrokerEndpoint.fault?
  rw [h.host, h.port, h.username, h.password]

/-- Of the rules only the components matter. -/
theorem blankComponent_eq :
    (t.status.rules.any fun r => Text.isBlankText r.component) =
      s.status.rules.any fun r => Text.isBlankText r.component := by
  have hany : ∀ rules : List StatusRule, (rules.any fun r => Text.isBlankText r.component) =
      (rules.map StatusRule.component).any Text.isBlankText := by
    intro rules
    rw [List.any_map]
    rfl
  rw [hany, hany, h.components]

/-- Each single check has the same result. -/
theorem checks_eq : t.checks = s.checks := by
  have hlevel : t.levelFault? = s.levelFault? := by
    unfold levelFault?
    rw [h.logLevel]
  have hwifi : t.wifiFault? = s.wifiFault? := by
    unfold wifiFault?
    rw [h.wifi]
  have hattempts : (t.reconnect.strategy == .escalate && t.reconnect.maxAttempts == 0) =
      (s.reconnect.strategy == .escalate && s.reconnect.maxAttempts == 0) := by
    rw [h.strategy]
    rcases hstrategy : s.reconnect.strategy
    · rw [h.maxAttempts hstrategy]
    · rfl
  have hinterval : (t.health.enabled && t.health.intervalMs == 0) =
      (s.health.enabled && s.health.intervalMs == 0) := by
    rw [h.enabled]
    rcases henabled : s.health.enabled
    · rfl
    · rw [h.interval henabled]
  have hthreshold : (t.health.enabled && t.health.unreachableThreshold == 0) =
      (s.health.enabled && s.health.unreachableThreshold == 0) := by
    rw [h.enabled]
    rcases henabled : s.health.enabled
    · rfl
    · rw [h.threshold henabled]
  unfold checks
  rw [hlevel, hwifi, h.brokerFault?_eq, h.initialDelay, h.maxDelay, hattempts, hinterval,
    hthreshold, h.logCapacity, h.blankComponent_eq]

/-- **What a check does not look at has no influence on its result.** -/
theorem check_eq : t.check = s.check := by
  unfold check fault?
  rw [h.checks_eq]

end CheckedAlike

/-! ### What a check reports -/

/-- **A check passes exactly usable settings and reports the first violation of others.**

* The check passes just if there is no violation.
* It fails with the text of a violation just if this is the first one, whatever else is wrong.
* Nothing else has any influence on it. -/
theorem check_reports_first (s : Settings) :
    (s.check = .ok () ↔ ∀ v : Violation, ¬ v.Holds s) ∧
      (∀ message, s.check.mapError SettingsFault.message = .error message ↔
        ∃ v : Violation, v.IsFirst s ∧ message = v.text s) ∧
      ∀ t, CheckedAlike s t → t.check = s.check := by
  refine ⟨?_, fun message => ?_, fun t h => h.check_eq⟩
  · rw [check_eq_ok_iff, firstText_all_eq_none_iff]
  · rw [mapError_check, ← firstText_all_eq_some_iff]
    rcases firstText s Violation.all with _ | text
    · exact iff_of_false (by rintro ⟨⟩) (by rintro ⟨⟩)
    · show Except.error text = .error message ↔ _
      rw [Except.error.injEq, Option.some.injEq]

/-- A host of blanks is reported and not the history without room, which comes after it. Nothing
changes with the attempts of settings without a restart and the interval of probes that are not
made, or with another device. -/
theorem check_of_blankHost :
    let s : Settings := {
      wifi := { ssid := "home" }
      broker := { host := " \u00a0" }
      reconnect := { strategy := .persist, maxAttempts := 0 }
      health := { enabled := false }
      diagnostics := { logCapacity := 0 } }
    let t : Settings := { s with
      general := { device := "greenhouse-node" }
      reconnect := { strategy := .persist, maxAttempts := 7 }
      health := { enabled := false, intervalMs := 0 } }
    CheckedAlike s t ∧ t.check = s.check ∧
      s.check.mapError SettingsFault.message =
        .error "[broker]: invalid configuration: broker host must not be empty" := by
  intro s t
  have halike : CheckedAlike s t := by
    constructor <;> first | rfl | rintro ⟨⟩
  have hfirst : IsFirst s .blankHost :=
    ⟨[.unknownLevel, .emptySsid, .longSsid, .passphraseLength], _, rfl, by decide, by decide⟩
  exact ⟨halike, (check_reports_first s).2.2 t halike,
    ((check_reports_first s).2.1 _).mpr ⟨.blankHost, hfirst, rfl⟩⟩

end Settings

end LinkWarden
