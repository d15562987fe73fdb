import LinkWarden.Config.Settings

/-!
# Whether settings can be used

`Settings.fault?` is the first fault of settings that decode but cannot be used.
-/

namespace LinkWarden

/-- What can be wrong with settings. -/
inductive SettingsFault
  | logLevel (level : String)
  | wifi (error : LinkError)
  | broker (error : LinkError)
  | zeroInitialDelay
  | maxDelayBelowInitial
  | zeroMaxAttempts
  | zeroHealthInterval
  | zeroThreshold
  | zeroLogCapacity
  | ruleWithoutComponent
  deriving DecidableEq, Repr

namespace SettingsFault

def message : SettingsFault → String
  | .logLevel level =>
    "[general].log_level '" ++ level ++
      "' is invalid (expected one of: trace, debug, info, warn, error)"
  | .wifi e => "[wifi]: " ++ e.message
  | .broker e => "[broker]: " ++ e.message
  | .zeroInitialDelay => "[reconnect].initial_delay_ms must be > 0"
  | .maxDelayBelowInitial => "[reconnect].max_delay_ms must be >= initial_delay_ms"
  | .zeroMaxAttempts => "[reconnect].max_attempts must be > 0 with the escalate strategy"
  | .zeroHealthInterval => "[health].interval_ms must be > 0 when enabled"
  | .zeroThreshold => "[health].unreachable_threshold must be > 0"
  | .zeroLogCapacity => "[diagnostics].log_capacity must be > 0"
  | .ruleWithoutComponent => "[status].rules entries need a component"

end SettingsFault

namespace Settings

/-- The level names that the settings may use. -/
def levelNames : List String := ["trace", "debug", "info", "warn", "error"]

/-- A fault where a condition holds. -/
def faultIf (condition : Bool) (fault : SettingsFault) : Option SettingsFault :=
  if condition then some fault else none

def levelFault? (s : Settings) : Option SettingsFault :=
  match s.general.logLevel with
  | none => none
  | some level => faultIf (!levelNames.contains level) (.logLevel level)

def wifiFault? (s : Settings) : Option SettingsFault :=
  match s.wifi.check with
  | .ok () => none
  | .error e => some (.wifi e)

def brokerFault? (s : Settings) : Option SettingsFault :=
  match s.broker.check with
  | .ok () => none
  | .error e => some (.broker e)

/-- What is checked, in the order in which faults are reported. -/
def checks (s : Settings) : List (Option SettingsFault) := [
  s.levelFault?,
  s.wifiFault?,
  s.brokerFault?,
  faultIf (s.reconnect.initialDelayMs == 0) .zeroInitialDelay,
  faultIf (s.reconnect.maxDelayMs < s.reconnect.initialDelayMs) .maxDelayBelowInitial,
  faultIf (s.reconnect.strategy == .escalate && s.reconnect.maxAttempts == 0) .zeroMaxAttempts,
  faultIf (s.health.enabled && s.health.intervalMs == 0) .zeroHealthInterval,
  faultIf (s.health.enabled && s.health.unreachableThreshold == 0) .zeroThreshold,
  faultIf (s.diagnostics.logCapacity == 0) .zeroLogCapacity,
  faultIf (s.status.rules.any fun r => Text.isBlankText r.component) .ruleWithoutComponent]

/-- The first fault of the settings. -/
def fault? (s : Settings) : Option SettingsFault := s.checks.findSome? id

/-- Whether the settings can be used. -/
def check (s : Settings) : Except SettingsFault Unit :=
  match s.fault? with
  | some f => .error f
  | none => .ok ()

end Settings

end LinkWarden
