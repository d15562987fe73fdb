import LinkWarden.Link.State
import LinkWarden.Status.Effect

/-!
# Which effect a state shows

A `StatusSink` maps components and states to effects. Told of a transition, it sets the indicator
of the component to the effect of the new state, if there is one.
-/

namespace LinkWarden

/-- A rule: in this state, the indicator of this component shows this effect. -/
structure StatusRule where
  component : String
  state : LinkState
  effect : Effect
  deriving DecidableEq, Repr

/-- A table of effects with at most one for each component and state. -/
structure StatusSink where
  rules : List StatusRule

namespace StatusSink

/-- The table without effects. -/
def empty : StatusSink := ⟨[]⟩

/-- Whether a rule is for a component and a state. -/
def covers (component : String) (state : LinkState) (r : StatusRule) : Bool :=
  r.component == component && r.state == state

/-- Adds a rule in place of the one for its component and state. -/
def insert (s : StatusSink) (r : StatusRule) : StatusSink :=
  ⟨s.rules.filter (fun old => !covers r.component r.state old) ++ [r]⟩

/-- The effect for a component and a state. -/
def effect? (s : StatusSink) (component : String) (state : LinkState) : Option Effect :=
  (s.rules.find? (covers component state)).map StatusRule.effect

/-- A rule that is added decides for its component and state, and changes nothing else. -/
theorem effect?_insert (s : StatusSink) (r : StatusRule) (component : String) (state : LinkState) :
    (s.insert r).effect? component state =
      if covers component state r then some r.effect else s.effect? component state := by
  have hkept : ∀ old : StatusRule,
      (covers component state r = true → covers r.component r.state old = false →
        covers component state old = false) ∧
      (covers component state r = false → covers r.component r.state old = true →
        covers component state old = false) := by
    intro old
    simp only [covers]
    constructor <;> intro h₁ h₂ <;> simp_all
  unfold effect? insert
  rw [List.find?_append, List.find?_filter]
  by_cases h : covers component state r = true
  · have : s.rules.find? (fun old =>
        !covers r.component r.state old && covers component state old) = none := by
      rw [List.find?_eq_none]
      intro old _
      cases hc : covers r.component r.state old
      · simp [(hkept old).1 h hc]
      · simp
    simp [this, h]
  · have h' : covers component state r = false := by simpa using h
    have : (fun old => !covers r.component r.state old && covers component state old) =
        covers component state := by
      funext old
      cases hc : covers r.component r.state old
      · simp
      · simp [(hkept old).2 h' hc]
    simp [this, h']

/-- How many components and states have an effect. -/
def size (s : StatusSink) : Nat := s.rules.length

/-- The table with the rules of a list, later ones in place of earlier ones. -/
def insertAll (s : StatusSink) (rules : List StatusRule) : StatusSink := rules.foldl insert s

/-- The usual rules: a network blinks every 500 ms and a broker session every second while it is
connected, and both are dark while disconnected. -/
def usualRules : List StatusRule := [
  ⟨"WifiLink", .connected, .blink 500⟩,
  ⟨"WifiLink", .disconnected, .off⟩,
  ⟨"BrokerSession", .connected, .blink 1000⟩,
  ⟨"BrokerSession", .disconnected, .off⟩]

/-- The usual table. -/
def usual : StatusSink := empty.insertAll usualRules

/-- The line that says that an indicator is about to be set. -/
def noticeLine (component : String) (e : Effect) : LogLine :=
  .debug (component ++ ": indicator " ++ e.text)

end StatusSink

end LinkWarden
