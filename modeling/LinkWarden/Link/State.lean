/-!
# The life of a link

A link is in one of four states, and its transport reports events. `LinkState.next` is the table of
the transitions: which events move the link, where to, and what has to be done then. An event for
which the table has no entry is ignored.
-/

namespace LinkWarden

/-! ### States -/

/-- Where a link is in its life. -/
inductive LinkState
  | /-- The transport has not reported anything yet; no transition leads back here. -/
    notInitialized
  | disconnected
  | connecting
  | connected
  deriving DecidableEq, Repr

namespace LinkState

/-- The states in the order in which tables list them. -/
def all : List LinkState := [.notInitialized, .disconnected, .connecting, .connected]

/-- The state of a link at first. -/
def initial : LinkState := .notInitialized

/-- The name in diagnostics. -/
def name : LinkState → String
  | .notInitialized => "NOT_INITIALIZED"
  | .disconnected => "DISCONNECTED"
  | .connecting => "CONNECTING"
  | .connected => "CONNECTED"

/-- The name in configuration. -/
def key : LinkState → String
  | .notInitialized => "not_initialized"
  | .disconnected => "disconnected"
  | .connecting => "connecting"
  | .connected => "connected"

end LinkState

/-! ### Events -/

/-- What a transport reports. -/
inductive Event
  | /-- The transport is ready and may be asked to connect. -/
    started
  | /-- The link or session dropped, or an attempt to connect failed. -/
    lost (reason : Option String)
  | /-- The link or session can be used; the detail is an address or the like. -/
    established (detail : Option String)
  deriving DecidableEq, Repr

namespace Event

/-- A note in parentheses behind a word. -/
def withNote (word : String) : Option String → String
  | none => word
  | some note => word ++ " (" ++ note ++ ")"

/-- The event in diagnostics. -/
def text : Event → String
  | .started => "started"
  | .lost reason => withNote "lost" reason
  | .established detail => withNote "established" detail

end Event

/-! ### Transitions -/

/-- What an accepted event asks for besides the new state. -/
inductive LinkAction
  | /-- Ask the transport to connect. -/
    connect
  | /-- Forget the attempts made so far. -/
    resetBackoff
  deriving DecidableEq, Repr

/-- An entry of the transition table. -/
structure Move where
  «to» : LinkState
  action : Option LinkAction
  deriving DecidableEq, Repr

/-- The transition table. -/
def LinkState.next : LinkState → Event → Option Move
  | .notInitialized, .started => some ⟨.connecting, some .connect⟩
  | .disconnected, .started => some ⟨.connecting, some .connect⟩
  | .connecting, .established _ => some ⟨.connected, some .resetBackoff⟩
  | .disconnected, .established _ => some ⟨.connected, some .resetBackoff⟩
  | .notInitialized, .lost _ => some ⟨.disconnected, none⟩
  | .connecting, .lost _ => some ⟨.disconnected, none⟩
  | .connected, .lost _ => some ⟨.disconnected, none⟩
  | _, _ => none

/-- What an event means where it is accepted: the move does not depend on the state before. -/
def Event.move : Event → Move
  | .started => ⟨.connecting, some .connect⟩
  | .lost _ => ⟨.disconnected, none⟩
  | .established _ => ⟨.connected, some .resetBackoff⟩

/-- Where an event is accepted, its move depends on the event alone. -/
theorem LinkState.eq_move_of_next {s : LinkState} {e : Event} {m : Move} (h : s.next e = some m) :
    m = e.move := by
  cases s <;> cases e <;> simp_all [LinkState.next, Event.move]

/-- A transition changes the state. -/
theorem LinkState.next_to_ne {s : LinkState} {e : Event} {m : Move} (h : s.next e = some m) :
    m.to ≠ s := by
  cases s <;> cases e <;> simp_all [LinkState.next] <;> (subst h; decide)

end LinkWarden
