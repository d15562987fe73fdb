import LinkWarden.Status.Effect
import LinkWarden.Text.Quoted

/-!
# Giving up on a link

When the budget of attempts is used up, the device is restarted; an alert may be shown before.
-/

namespace LinkWarden

/-- An indicator to set before a restart. -/
structure Alert where
  component : String
  effect : Effect
  deriving DecidableEq, Repr

/-- What is done when the budget is used up. -/
structure Escalation where
  alert : Option Alert := none
  deriving DecidableEq, Repr

/-- The usual alert: the indicator for errors blinks fast. -/
def Alert.usual : Alert := ⟨"Error", .blink 200⟩

namespace Escalation

/-- The same with an alert. -/
def withAlert (_ : Escalation) (a : Alert) : Escalation := ⟨some a⟩

/-- The line that announces the restart. -/
def announcement (id : String) (attempts : UInt32) : LogLine :=
  .error (id ++ ": giving up after " ++ toString attempts.toNat ++
    " reconnect attempts, restarting device")

/-- The escalation in diagnostics: of the alert only the component is named. -/
def debugText (e : Escalation) : String :=
  let alert := match e.alert with
    | none => "None"
    | some a => "Some(" ++ Text.quote a.component ++ ")"
  "Escalation \x7b alert: " ++ alert ++ " \x7d"

end Escalation

end LinkWarden
