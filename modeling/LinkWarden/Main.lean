import LinkWarden.Program
import Std.Time.DateTime.Timestamp

/-!
# The command line

The outer layer of the program: it reads the files with the settings, the environment and the clock,
writes to the standard streams, and sleeps until the agent has something to do.
-/

namespace LinkWarden.Main

/-! ### Files -/

/-- The number that the operating system gives to an error; some calls report it with a minus. -/
def osCode (e : IO.Error) : UInt32 :=
  let code := match e with
    | .noFileOrDirectory _ code _ => code
    | .inappropriateType _ code _ => code
    | .otherError code _ => code
    | _ => 0
  if 0x80000000 ≤ code then 0 - code else code

/-- What there is at a path that cannot be read. -/
def viewOfError (e : IO.Error) : FileView :=
  match osCode e with
  | 2 => .absent .notFound
  | 20 => .absent .notADirectory
  | 21 => .unreadable .isADirectory
  | _ => .unreadable (.other (toString e))

/-- What there is at a path. -/
def view (path : String) : IO FileView := do
  match ← (IO.FS.readBinFile path).toBaseIO with
  | .error e => pure (viewOfError e)
  | .ok bytes =>
    match String.fromUTF8? bytes with
    | some content => pure (.text content)
    | none => pure (.unreadable .notText)

/-- What there is at the paths given; elsewhere nothing is looked for. -/
def views (paths : List String) : IO Files := do
  let found ← paths.mapM fun path => do pure (path, ← view path)
  pure fun path => (found.lookup path).getD (.absent .notFound)

/-! ### Streams -/

/-- The present time. -/
def present : IO Timestamp := do
  let t ← Std.Time.Timestamp.now
  let seconds := t.toSecondsSinceUnixEpoch.val
  let nanoseconds := t.toNanosecondsSinceUnixEpoch.val
  pure ⟨seconds, (nanoseconds - seconds * 1000000000).toNat⟩

/-- Writes lines to the log that are important enough. -/
def log (r : Run) (thread : String) (lines : List LogLine) : IO Unit := do
  let time ← present
  for l in lines do
    if l.level.number ≤ r.level.number then
      IO.println (time.millisText ++ " " ++ l.level.name ++ " " ++ thread ++ " " ++ l.body)

/-- Writes what can be seen of the agent to the log. A restart cuts it off. -/
def report (r : Run) (seen : List Sighting) : IO Unit := do
  for s in seen.takeWhile fun s => s.trace != .restart do
    match s.trace with
    | .line actor l => log r (actor.thread s.side.id) [l]
    | _ => pure ()

/-! ### The run -/

/-- The agent with the present time for its records. -/
def atPresent (p : Autopilot) : IO Autopilot := do
  pure { p with agent.surroundings.clock := ← present }

/-- Runs the agent until the device is restarted. Times are counted from `origin`. -/
partial def fly (r : Run) (origin : Nat) (p : Autopilot) : IO UInt32 := do
  let now := (← IO.monoMsNow) - origin
  match p.next? with
  | none =>
    IO.sleep 1000
    fly r origin p
  | some due =>
    if now < due then
      IO.sleep (UInt32.ofNat (min (due - now) 1000))
      fly r origin p
    else
      let (p, seen) := (← atPresent p).step now
      report r seen
      if Autopilot.isRestart seen then
        log r "main" (r.farewell p.agent.surroundings.history)
        pure (UInt32.ofNat Program.restartStatus)
      else fly r origin p

/-- Starts the agent and runs it. -/
def launch (r : Run) : IO UInt32 := do
  log r "main" r.greeting
  let origin ← IO.monoMsNow
  let (p, result, seen) := Autopilot.start r.settings
  report r seen
  match result with
  | .error e =>
    IO.eprint (StartError.link e).report
    pure (UInt32.ofNat Program.failureStatus)
  | .ok () => fly r origin p

/-- Does what the program does with its arguments. -/
def perform : Program → IO UInt32
  | .refuse e => do
    let status := UInt32.ofNat (Program.refusalStatus e)
    if status = 0 then IO.print e.message else IO.eprint e.message
    pure status
  | .write text => do
    IO.print text
    pure 0
  | .fail e => do
    IO.eprint e.report
    pure (UInt32.ofNat Program.failureStatus)
  | .run r => launch r

end LinkWarden.Main

/-- Runs the agent as the arguments say. -/
def main (args : List String) : IO UInt32 := do
  let configured ← IO.getEnv "XDG_CONFIG_HOME"
  let home ← IO.getEnv "HOME"
  let user := LinkWarden.Settings.userDirectory? configured home
  let named := match LinkWarden.Arguments.read args with
    | .ok a => a.config.toList
    | .error _ => []
  let files ← LinkWarden.Main.views (named ++ LinkWarden.Settings.searchPaths user)
  LinkWarden.Main.perform (LinkWarden.Program.ofArguments files user args)
