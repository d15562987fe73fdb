import LinkWarden.Config.Load

/-!
# A directory in memory

A `Directory` is a working directory given by its files. `view` says what there is at a path: the
path is followed name by name, and a name may be looked up only in a directory. Nothing outside the
working directory is known to exist but the directories above it.
-/

namespace LinkWarden

/-- What a file holds. -/
inductive FileContent
  | text (content : String)
  | bytes (content : ByteArray)
  | directory

/-- A working directory: its files, each under the names that lead to it. -/
structure Directory where
  files : List (List String × FileContent)

namespace Directory

/-- The names in a path. A name that is empty or a point leads nowhere. -/
def names (path : String) : List String :=
  (path.splitOn "/").filter fun name => name != "" && name != "."

/-- A directory with files at paths. -/
def ofFiles (files : List (String × FileContent)) : Directory :=
  ⟨files.map fun (path, content) => (names path, content)⟩

/-- The file at exactly these names. -/
def at? (d : Directory) (place : List String) : Option FileContent :=
  (d.files.find? fun file => file.1 == place).map Prod.snd

/-- Whether these names lead to a directory: the working directory, one of the files given as such,
or one on the way to a file. -/
def isDirectory (d : Directory) (place : List String) : Bool :=
  place.isEmpty ||
    d.files.any fun (names, content) =>
      (names == place && (match content with | .directory => true | _ => false)) ||
        (place.length < names.length && names.take place.length == place)

/-- Follows names from a place. -/
def follow (d : Directory) : List String → List String → Except ReadFault (List String)
  | place, [] => .ok place
  | place, name :: rest =>
    if !d.isDirectory place then
      .error (if (d.at? place).isSome then .notADirectory else .notFound)
    else if name = ".." then
      if !place.isEmpty then d.follow place.dropLast rest
      else .error (if rest.all (· == "..") then .isADirectory else .notFound)
    else d.follow (place ++ [name]) rest

/-- What there is at a path. -/
def view (d : Directory) (path : String) : FileView :=
  if path = "" then .absent .notFound
  else if path.startsWith "/" then
    if (names path).isEmpty then .unreadable .isADirectory else .absent .notFound
  else
    let steps := names path
    -- a slash at the end asks for a directory
    let asDirectory := path.endsWith "/" || path.endsWith "/."
    match d.follow [] steps with
    | .error .isADirectory => .unreadable .isADirectory
    | .error why => .absent why
    | .ok place =>
      if d.isDirectory place then .unreadable .isADirectory
      else match d.at? place with
        | none => .absent .notFound
        | some content =>
          if asDirectory then .absent .notADirectory
          else match content with
            | .directory => .unreadable .isADirectory
            | .text s => .text s
            | .bytes b =>
              match String.fromUTF8? b with
              | some s => .text s
              | none => .unreadable .notText

end Directory

end LinkWarden
