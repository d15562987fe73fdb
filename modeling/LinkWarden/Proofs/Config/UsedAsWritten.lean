import LinkWarden.Config.Check
import LinkWarden.Proofs.Agent.Build
import LinkWarden.Proofs.Link.Waits
import LinkWarden.Proofs.Supervisor.FirstAttempt

/-!
# Settings that can be used are used as written

What is made of settings has guards of its own: a ceiling is raised to the first wait, a threshold
and a capacity are never zero, a link checks its credentials when it is started. Where the settings
have passed their check, none of these guards has anything to do.

* `Settings.IsUsable` is what the check is worth to the rest of the program
  (`isUsable_of_check`).
* `Settings.UsedAsWritten` lists what becomes of the settings, and `usedAsWritten_of_check` is the
  main statement.
-/

namespace LinkWarden

/-! ### What the check is worth -/

namespace Settings

/-- What the guards of the rest of the program ask of settings. -/
structure IsUsable (s : Settings) : Prop where
  wifi : s.wifi.check = .ok ()
  broker : s.broker.check = .ok ()
  initialDelay : 0 < s.reconnect.initialDelayMs
  maxDelay : s.reconnect.initialDelayMs ≤ s.reconnect.maxDelayMs
  maxAttempts : s.reconnect.strategy = .escalate → 0 < s.reconnect.maxAttempts
  interval : s.health.enabled = true → 0 < s.health.intervalMs
  threshold : s.health.enabled = true → 0 < s.health.unreachableThreshold
  logCapacity : 0 < s.diagnostics.logCapacity

/-- Settings that pass have none of the faults. -/
theorem eq_none_of_check {s : Settings} (h : s.check = .ok ()) {fault : Option SettingsFault}
    (hmem : fault ∈ s.checks) : fault = none := by
  have hnone : s.fault? = none := by
    unfold check at h
    split at h
    · cases h
    · assumption
  exact List.findSome?_eq_none_iff.mp hnone fault hmem

/-- There is no fault just if its condition does not hold. -/
theorem faultIf_eq_none_iff {condition : Bool} {fault : SettingsFault} :
    faultIf condition fault = none ↔ condition = false := by
  cases condition <;> simp [faultIf]

/-- **Settings that pass their check satisfy all guards of the rest of the program.** -/
theorem isUsable_of_check {s : Settings} (h : s.check = .ok ()) : s.IsUsable := by
  have hfault : ∀ {condition : Bool} {fault : SettingsFault},
      faultIf condition fault ∈ s.checks → condition = false :=
    fun hmem => faultIf_eq_none_iff.mp (eq_none_of_check h hmem)
  have hwifi : s.wifiFault? = none := eq_none_of_check h (by simp [checks])
  have hbroker : s.brokerFault? = none := eq_none_of_check h (by simp [checks])
  have hinitial := @hfault (s.reconnect.initialDelayMs == 0) .zeroInitialDelay (by simp [checks])
  have hmax := @hfault (s.reconnect.maxDelayMs < s.reconnect.initialDelayMs)
    .maxDelayBelowInitial (by simp [checks])
  have hattempts := @hfault (s.reconnect.strategy == .escalate && s.reconnect.maxAttempts == 0)
    .zeroMaxAttempts (by simp [checks])
  have hinterval := @hfault (s.health.enabled && s.health.intervalMs == 0) .zeroHealthInterval
    (by simp [checks])
  have hthreshold := @hfault (s.health.enabled && s.health.unreachableThreshold == 0)
    .zeroThreshold (by simp [checks])
  have hcapacity := @hfault (s.diagnostics.logCapacity == 0) .zeroLogCapacity (by simp [checks])
  constructor
  · unfold wifiFault? at hwifi
    split at hwifi
    · assumption
    · cases hwifi
  · unfold brokerFault? at hbroker
    split at hbroker
    · assumption
    · cases hbroker
  · simpa [UInt64.pos_iff_ne_zero] using hinitial
  · simpa using hmax
  · intro he
    simpa [he, UInt32.pos_iff_ne_zero] using hattempts
  · intro he
    simpa [he, UInt64.pos_iff_ne_zero] using hinterval
  · intro he
    simpa [he, UInt32.pos_iff_ne_zero] using hthreshold
  · simpa [UInt64.pos_iff_ne_zero] using hcapacity

end Settings

/-! ### Waits -/

namespace Duration

/-- Milliseconds in 64 bits are within the bound of durations. -/
@[simp] theorem nanoseconds_ofMillis (ms : UInt64) :
    (ofMillis ms).nanoseconds = ms.toNat * 1000000 := by
  have hms := ms.toNat_lt_size
  have hlongest : longestNanoseconds = (UInt64.size - 1) * 1000000000 + 999999999 := rfl
  rw [ofMillis, nanoseconds_ofNanoseconds]
  omega

/-- More milliseconds are no shorter duration. -/
theorem ofMillis_le_ofMillis {m n : UInt64} (h : m ≤ n) : ofMillis m ≤ ofMillis n := by
  show (ofMillis m).nanoseconds ≤ (ofMillis n).nanoseconds
  rw [nanoseconds_ofMillis, nanoseconds_ofMillis]
  exact Nat.mul_le_mul_right _ (UInt64.le_iff_toNat_le.mp h)

end Duration

/-! ### What becomes of the settings -/

/-- The settings are used as they are written. -/
structure Settings.UsedAsWritten (s : Settings) : Prop where
  /-- The first wait and the ceiling are what they are set to. -/
  baseDelay : s.reconnect.backoff.baseDelay.nanoseconds = s.reconnect.initialDelayMs.toNat * 1000000
  maxDelay : s.reconnect.backoff.maxDelay.nanoseconds = s.reconnect.maxDelayMs.toNat * 1000000
  /-- The reconnector never waits shorter or longer than that. -/
  delay : ∀ n, s.reconnect.backoff.baseDelay ≤ s.supervision.retry.delay n ∧
    s.supervision.retry.delay n ≤ s.reconnect.backoff.maxDelay
  /-- Without a restart there is no budget, and with one it is what it is set to. -/
  persist : s.reconnect.strategy = .persist → s.supervision.retry.maxAttempts = none
  escalate : s.reconnect.strategy = .escalate →
    s.supervision.retry.maxAttempts = some s.reconnect.maxAttempts ∧ 1 ≤ s.reconnect.maxAttempts
  /-- A supervisor escalates only after its reconnector has made an attempt. -/
  attempted : ∀ (id : String) (xs : List Supervisor.Stride) (before rest : List Act) (a : Act),
    (Supervisor.strides xs (.make id s.supervision)).2 = before ++ a :: rest →
      a.deed.Escalates → Attempted before
  /-- Links are probed just if they are meant to be, at the interval and up to the threshold that
  are set. -/
  unprobed : s.supervision.health.isEnabled = false ↔ s.health.enabled = false
  probed : s.health.enabled = true → ∃ interval : Duration,
    s.supervision.health = ⟨some interval, s.health.unreachableThreshold⟩ ∧
      interval.nanoseconds = s.health.intervalMs.toNat * 1000000 ∧
      0 < interval.nanoseconds ∧ 0 < s.health.unreachableThreshold
  /-- The history has at all times room for as many records as it is set to. -/
  history : ∀ os, ∃ h, ((Agent.ofSettings s).after os).surroundings.history = some h ∧
    h.capacity = s.diagnostics.logCapacity.toNat
  /-- Both links start once they are bound, in whatever state they are. -/
  start : ∀ l : SimulatedLink, l.profile = .wifi s.wifi ∨ l.profile = .broker s.broker →
    l.bound = true → l.start.result = .ok ()
  /-- So an initialisation is at no time refused for the credentials, and the first ones of the two
  supervisors succeed. -/
  init : ∀ os side message,
    (((Agent.ofSettings s).after os).init side).2.1 ≠ .error (.config message)
  launch : (Autopilot.start s).2.1 = .ok ()

namespace Settings

variable {s : Settings}

/-- The budget that a supervisor gets. -/
theorem maxAttempts_supervision (s : Settings) : s.supervision.retry.maxAttempts =
    match s.reconnect.strategy with
    | .escalate => some s.reconnect.maxAttempts
    | .persist => none := rfl

/-- The guard against a threshold of zero leaves any other one alone. -/
theorem health_of_enabled (he : s.health.enabled = true) (ht : 0 < s.health.unreachableThreshold) :
    s.supervision.health =
      ⟨some (.ofMillis s.health.intervalMs), s.health.unreachableThreshold⟩ := by
  show s.health.policy = _
  rw [HealthSettings.policy, if_pos he, HealthPolicy.every,
    if_neg (UInt32.pos_iff_ne_zero.mp ht)]

/-- Links are probed just if the settings ask for it. -/
theorem isEnabled_supervision (s : Settings) :
    s.supervision.health.isEnabled = s.health.enabled := by
  show s.health.policy.isEnabled = _
  cases he : s.health.enabled <;> simp [HealthSettings.policy, he, HealthPolicy.isEnabled,
    HealthPolicy.every, HealthPolicy.disabled]

namespace IsUsable

variable (h : s.IsUsable)
include h

/-- The ceiling is not raised. -/
theorem maxDelay_backoff : s.reconnect.backoff.maxDelay = .ofMillis s.reconnect.maxDelayMs :=
  ExponentialBackoff.maxDelay_make (Duration.ofMillis_le_ofMillis h.maxDelay) _

/-- There is room for an attempt in the budget. -/
theorem maxAttempts_ne_zero : s.supervision.retry.maxAttempts ≠ some 0 := by
  rw [maxAttempts_supervision]
  cases hs : s.reconnect.strategy with
  | escalate => simpa [UInt32.pos_iff_ne_zero] using h.maxAttempts hs
  | persist => simp

/-- The credentials on both sides can be used. -/
theorem check_profile (side : Side) :
    ((Agent.ofSettings s).on side).link.profile.check = .ok () := by
  cases side with
  | wifi => exact h.wifi
  | broker => exact h.broker

/-- The history is built with the capacity that is set, and keeps it. -/
theorem history_after (os : List Agent.Occurrence) :
    ∃ history, ((Agent.ofSettings s).after os).surroundings.history = some history ∧
      history.capacity = s.diagnostics.logCapacity.toNat := by
  have hpos : 0 < s.diagnostics.logCapacity.toNat := UInt64.lt_iff_toNat_lt.mp h.logCapacity
  have hsame := (Agent.sameBuild_after (Agent.ofSettings s) os).capacity
  have hbuilt : (Agent.ofSettings s).surroundings.history.map History.capacity =
      some s.diagnostics.logCapacity.toNat := by
    show some (History.empty s.diagnostics.logCapacity.toNat).capacity = _
    rw [History.capacity, History.empty, Ring.capacity_empty, Nat.max_eq_left hpos]
  exact Option.map_eq_some_iff.mp (hsame.trans hbuilt)

end IsUsable

/-- **Settings that pass their check are used as they are written.**

* The waits of the reconnector begin with the delay that is set and end at the ceiling that is set,
  and none lies outside; there is a budget just if a restart follows, and it leaves room for an
  attempt, so that no supervisor escalates without one.
* Links are probed if they are meant to be, at the interval and up to the threshold that are set.
* The history has the capacity that is set.
* Both links start, so no initialisation is ever refused for the credentials. -/
theorem usedAsWritten_of_check (h : s.check = .ok ()) : s.UsedAsWritten := by
  have hs := isUsable_of_check h
  have hceiling := hs.maxDelay_backoff
  constructor
  · exact Duration.nanoseconds_ofMillis s.reconnect.initialDelayMs
  · rw [hceiling, Duration.nanoseconds_ofMillis]
  · apply ExponentialBackoff.delay_mem s.reconnect.backoff
    rw [hceiling]
    exact Duration.ofMillis_le_ofMillis hs.maxDelay
  · intro hpersist
    rw [maxAttempts_supervision, hpersist]
  · intro hescalate
    rw [maxAttempts_supervision, hescalate]
    have hpos := UInt32.lt_iff_toNat_lt.mp (hs.maxAttempts hescalate)
    exact ⟨rfl, UInt32.le_iff_toNat_le.mpr hpos⟩
  · intro id xs before rest a
    exact Supervisor.attempted_before_escalation id hs.maxAttempts_ne_zero xs
  · rw [isEnabled_supervision]
  · intro he
    have hinterval := UInt64.lt_iff_toNat_lt.mp (hs.interval he)
    refine ⟨_, health_of_enabled he (hs.threshold he), Duration.nanoseconds_ofMillis _, ?_,
      hs.threshold he⟩
    rw [Duration.nanoseconds_ofMillis]
    exact Nat.mul_pos hinterval (by decide)
  · exact hs.history_after
  · rintro l (hl | hl) hb
    · exact SimulatedLink.start_of_check hb (by rw [hl]; exact hs.wifi)
    · exact SimulatedLink.start_of_check hb (by rw [hl]; exact hs.broker)
  · intro os side message hfailed
    rcases Agent.init_after_of_check (hs.check_profile side) os with hok | hagain
    · rw [hok] at hfailed
      cases hfailed
    · rw [hagain] at hfailed
      cases hfailed
  · exact Autopilot.start_of_check hs.wifi hs.broker

/-- The smallest settings that pass: every number is one, and the names are no longer than that. -/
def smallest : Settings := {
  wifi := { ssid := "a" }
  broker := { host := "b", port := 1 }
  reconnect := { initialDelayMs := 1, maxDelayMs := 1, maxAttempts := 1 }
  health := { intervalMs := 1, unreachableThreshold := 1 }
  diagnostics := { logCapacity := 1 } }

/-- Each number is the smallest one that passes. -/
theorem usedAsWritten_smallest : smallest.check = .ok () ∧ smallest.UsedAsWritten :=
  ⟨rfl, usedAsWritten_of_check rfl⟩

end Settings

end LinkWarden
