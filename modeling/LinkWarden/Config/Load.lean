import LinkWarden.Config.Decode
import LinkWarden.Toml.Document

/-!
# Loading settings

The settings are one table of a TOML document, its *section*. They come from a text, from a file
that is named, or from the first file of a list of places that has the section. A file may lack the
section only if it was not named.
-/

namespace LinkWarden

/-! ### Files -/

/-- Why a file cannot be read. -/
inductive ReadFault
  | notFound
  | notADirectory
  | isADirectory
  | notText
  | other (message : String)
  deriving DecidableEq, Repr

def ReadFault.message : ReadFault → String
  | .notFound => "No such file or directory (os error 2)"
  | .notADirectory => "Not a directory (os error 20)"
  | .isADirectory => "Is a directory (os error 21)"
  | .notText => "stream did not contain valid UTF-8"
  | .other m => m

/-- What there is at a path. -/
inductive FileView
  | /-- Nothing, for the reason given. -/
    absent (why : ReadFault)
  | /-- Something that cannot be read as a text. -/
    unreadable (why : ReadFault)
  | text (content : String)
  deriving DecidableEq, Repr

/-- What there is at every path. -/
abbrev Files := String → FileView

/-- Whether there is anything at a path. -/
def FileView.isPresent : FileView → Bool
  | .absent _ => false
  | _ => true

/-- The text at a path. -/
def FileView.read : FileView → Except ReadFault String
  | .absent why => .error why
  | .unreadable why => .error why
  | .text content => .ok content

/-! ### Errors -/

/-- Why settings cannot be loaded from a path. -/
inductive LoadError
  | read (path : String) (fault : ReadFault)
  | /-- The text is no TOML document. -/
    syntaxError (path : String)
  | /-- The section does not decode. -/
    decode (path : String) (fault : Fault)
  | missingSection (path : String)
  deriving DecidableEq, Repr

namespace LoadError

/-- Where loading failed. -/
def path : LoadError → String
  | .read p _ => p
  | .syntaxError p => p
  | .decode p _ => p
  | .missingSection p => p

/-- Why loading failed. -/
def reason : LoadError → String
  | .read _ fault => fault.message
  | .syntaxError _ => "TOML parse error"
  | .decode _ fault => fault.message .toml
  | .missingSection _ => "missing [lnk-agent] section"

def message (e : LoadError) : String :=
  let verb := match e with
    | .read _ _ => "read"
    | _ => "parse"
  "Failed to " ++ verb ++ " config file " ++ e.path ++ ": " ++ e.reason

/-- The error as a constructor and its parts. -/
def debugText (e : LoadError) : String :=
  let name := match e with
    | .read _ _ => "ReadError"
    | _ => "ParseError"
  name ++ "(" ++ Text.quote e.path ++ ", " ++ Text.quote e.reason ++ ")"

end LoadError

/-! ### Loading -/

namespace Settings

/-- The name of the section. -/
def sectionKey : String := "lnk-agent"

/-- The settings in the section of a text, if it has the section. -/
def ofSection? (path content : String) : Except LoadError (Option Settings) :=
  match Toml.parse? content with
  | none => .error (.syntaxError path)
  | some entries =>
    match Value.lookup? entries sectionKey with
    | none => .ok none
    | some v =>
      match Decode.settings .toml v with
      | .ok s => .ok (some s)
      | .error fault => .error (.decode path fault)

/-- What a text without a path is called. -/
def inlinePath : String := "<inline>"

/-- The settings of a text; without the section all of them are the default ones. -/
def ofText (content : String) : Except LoadError Settings :=
  (ofSection? inlinePath content).map fun s => s.getD {}

/-- The settings in the section of a file, if it has the section. -/
def ofFile? (files : Files) (path : String) : Except LoadError (Option Settings) :=
  match (files path).read with
  | .error fault => .error (.read path fault)
  | .ok content => ofSection? path content

/-- The settings of a file that is named; it has to have the section. -/
def ofFile (files : Files) (path : String) : Except LoadError Settings :=
  match ofFile? files path with
  | .error e => .error e
  | .ok none => .error (.missingSection path)
  | .ok (some s) => .ok s

/-- The settings of the first file of a list that has the section, and its path. Without such a file
all settings are the default ones. -/
def ofPaths (files : Files) : List String → Except LoadError (Settings × Option String)
  | [] => .ok ({}, none)
  | path :: rest =>
    if (files path).isPresent then
      match ofFile? files path with
      | .error e => .error e
      | .ok none => ofPaths files rest
      | .ok (some s) => .ok (s, some path)
    else ofPaths files rest

/-- The file name looked for. -/
def fileName : String := "lnk-rs.toml"

/-- The user's configuration directory: the one configured, if its path begins at the root, and
otherwise the usual one in the home directory. -/
def userDirectory? (configured home : Option String) : Option String :=
  match configured.filter fun d => d.startsWith "/" with
  | some d => some d
  | none => home.map fun d => d ++ "/.config"

/-- The places where settings are looked for: the working directory, the user's configuration
directory, if there is one, and that of the system. -/
def searchPaths (userDirectory : Option String) : List String :=
  [fileName] ++ (userDirectory.map fun d => d ++ "/lnk-rs/" ++ fileName).toList ++
    ["/etc/lnk-rs/" ++ fileName]

/-- The settings of the file that is named, or of the usual places. -/
def load (files : Files) (userDirectory : Option String) (named : Option String) :
    Except LoadError (Settings × Option String) :=
  match named with
  | some path => (ofFile files path).map fun s => (s, some path)
  | none => ofPaths files (searchPaths userDirectory)

end Settings

end LinkWarden
