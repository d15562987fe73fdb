import LinkWarden.Log.Line

/-!
# Indicators

An indicator is a lamp or the like that belongs to a component. An `Effect` is what it shows.
-/

namespace LinkWarden

/-- What an indicator shows. -/
inductive Effect
  | off
  | on
  | blink (intervalMs : UInt32)
  deriving DecidableEq, Repr

namespace Effect

def text : Effect → String
  | .off => "off"
  | .on => "on"
  | .blink ms => "blink " ++ toString ms.toNat ++ " ms"

end Effect

/-- The line that an indicator without hardware writes when it is set. -/
def indicatorLine (component : String) (e : Effect) : LogLine :=
  .info ("[indicator] " ++ component ++ " -> " ++ e.text)

end LinkWarden
