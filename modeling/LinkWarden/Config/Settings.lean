import LinkWarden.Link.Credentials
import LinkWarden.Link.Retry
import LinkWarden.Status.Sink

/-!
# Settings of the agent

What can be configured, with the values that hold where nothing is configured, and the policies and
tables that the settings describe.
-/

namespace LinkWarden

/-- General settings. -/
structure GeneralSettings where
  /-- The level of the log. -/
  logLevel : Option String := none
  /-- What the device is called in the log. -/
  device : String := "lnk-device"
  deriving DecidableEq, Repr

/-- What happens when the budget of attempts is used up. -/
inductive ReconnectStrategy
  | /-- The device is restarted. -/
    escalate
  | /-- There is no budget. -/
    persist
  deriving DecidableEq, Repr

/-- How a lost link is brought back. -/
structure ReconnectSettings where
  strategy : ReconnectStrategy := .escalate
  initialDelayMs : UInt64 := 10000
  maxDelayMs : UInt64 := 300000
  /-- The budget of attempts, if the device is to be restarted after them. -/
  maxAttempts : UInt32 := 5
  deriving DecidableEq, Repr

/-- How a link is probed. -/
structure HealthSettings where
  enabled : Bool := true
  intervalMs : UInt64 := 5000
  /-- So many unreachable probes in a row end a session. -/
  unreachableThreshold : UInt32 := 3
  deriving DecidableEq, Repr

/-- What is kept for diagnosis. -/
structure DiagnosticsSettings where
  /-- How many transitions the history keeps. -/
  logCapacity : UInt64 := 30
  /-- Whether the history is listed in the log at the end. -/
  dumpOnExit : Bool := true
  deriving DecidableEq, Repr

/-- What the indicators show. -/
structure StatusSettings where
  /-- Whether the usual rules come before the configured ones. -/
  useDefaults : Bool := true
  rules : List StatusRule := []
  deriving DecidableEq, Repr

/-- How a simulated link behaves. -/
structure LinkBehavior where
  /-- The time from an attempt to connect to its outcome. -/
  connectLatencyMs : UInt64 := 300
  /-- So many attempts fail before one succeeds. -/
  failFirstAttempts : UInt32 := 0
  /-- The link drops so long after it came up; with 0 it stays up. -/
  dropAfterMs : UInt64 := 0
  /-- The peer stops answering probes so long after the link came up; with 0 it goes on. -/
  unreachableAfterMs : UInt64 := 0
  /-- The signal strength that a probe reports. -/
  rssiDbm : Int32 := -60
  deriving DecidableEq, Repr

/-- How the simulated links behave. -/
structure SimulationSettings where
  wifi : LinkBehavior := {}
  broker : LinkBehavior := {}
  deriving DecidableEq, Repr

/-- All settings of the agent. -/
structure Settings where
  general : GeneralSettings := {}
  wifi : WifiCredentials := {}
  broker : BrokerEndpoint := {}
  reconnect : ReconnectSettings := {}
  health : HealthSettings := {}
  diagnostics : DiagnosticsSettings := {}
  status : StatusSettings := {}
  simulation : SimulationSettings := {}
  deriving DecidableEq, Repr

/-! ### What the settings describe -/

/-- The doubling waits that the settings describe; a budget holds only where a restart follows. -/
def ReconnectSettings.backoff (r : ReconnectSettings) : ExponentialBackoff :=
  .make (.ofMillis r.initialDelayMs) (.ofMillis r.maxDelayMs)
    (match r.strategy with
      | .escalate => some r.maxAttempts
      | .persist => none)

/-- The probes that the settings describe. -/
def HealthSettings.policy (h : HealthSettings) : HealthPolicy :=
  if h.enabled then .every (.ofMillis h.intervalMs) h.unreachableThreshold else .disabled

/-- The table of effects that the settings describe. -/
def StatusSettings.sink (s : StatusSettings) : StatusSink :=
  (if s.useDefaults then StatusSink.usual else StatusSink.empty).insertAll s.rules

end LinkWarden
