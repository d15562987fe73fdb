import LinkWarden.Config.Load

/-!
# The first file that decides

A search for settings goes through places in order. A place decides if the file there carries the
section or fails, that is, cannot be read, is no document or has a section that does not decode.
Places where there is no file, or a document without the section, are passed over.

* `Settings.Lacks`, `Settings.Gives` and `Settings.Fails` say what there is at a path, by the text
  of the file and the document that it stands for. At a path there is nothing or one of these
  (`absent_or_found`).
* `Settings.IsDeciding` is the first path of a list that decides.
* `ofPaths_of_isDeciding` and `ofPaths_of_forall_not_decides` say how a search ends, and
  `ofPaths_congr` that what comes after the deciding path is of no account.
* **Main statement** (`searchesInOrder`): these together, for all files and all lists of paths, and
  how the same text is read where the file is named and where it has no path.
-/

namespace LinkWarden

/-- The same error on another path. -/
def LoadError.movedTo (path : String) : LoadError → LoadError
  | .read _ fault => .read path fault
  | .syntaxError _ => .syntaxError path
  | .decode _ fault => .decode path fault
  | .missingSection _ => .missingSection path

namespace Settings

/-! ### What there is at a path -/

/-- The text is a document in which the section has the value. -/
def HasSection (content : String) (v : Value) : Prop :=
  ∃ entries, Toml.parse? content = some entries ∧ Value.lookup? entries sectionKey = some v

/-- The file is a document without the section. -/
def Lacks (files : Files) (path : String) : Prop :=
  ∃ content entries, files path = .text content ∧ Toml.parse? content = some entries ∧
    Value.lookup? entries sectionKey = none

/-- The file carries the section, and it decodes to settings. -/
def Gives (files : Files) (path : String) (s : Settings) : Prop :=
  ∃ content v, files path = .text content ∧ HasSection content v ∧
    Decode.settings .toml v = .ok s

/-- The file fails with an error. -/
inductive Fails (files : Files) (path : String) : LoadError → Prop
  | unreadable {why : ReadFault} (file : files path = .unreadable why) :
    Fails files path (.read path why)
  | malformed {content : String} (file : files path = .text content)
    (document : Toml.parse? content = none) : Fails files path (.syntaxError path)
  | undecodable {content : String} {v : Value} {fault : Fault} (file : files path = .text content)
    (carried : HasSection content v) (decoded : Decode.settings .toml v = .error fault) :
    Fails files path (.decode path fault)

/-- The file carries the section or fails. -/
def Decides (files : Files) (path : String) : Prop :=
  (∃ content v, files path = .text content ∧ HasSection content v) ∨ ∃ e, Fails files path e

/-- The path decides, and none of those before it in the list does. -/
def IsDeciding (files : Files) (paths : List String) (path : String) : Prop :=
  ∃ before after, paths = before ++ path :: after ∧ Decides files path ∧
    ∀ q ∈ before, ¬ Decides files q

variable {files : Files} {path : String}

/-- A file that gives settings decides. -/
theorem Gives.decides {s : Settings} (h : Gives files path s) : Decides files path := by
  obtain ⟨content, v, hfile, hsection, -⟩ := h
  exact .inl ⟨content, v, hfile, hsection⟩

/-- A file that fails decides as well: nothing after it is looked at. -/
theorem Fails.decides {e : LoadError} (h : Fails files path e) : Decides files path :=
  .inr ⟨e, h⟩

/-- A section decodes or does not. -/
theorem Decides.gives_or_fails (h : Decides files path) :
    (∃ s, Gives files path s) ∨ ∃ e, Fails files path e := by
  rcases h with ⟨content, v, hfile, hsection⟩ | hfails
  · rcases hdecode : Decode.settings .toml v with fault | s
    · exact .inr ⟨_, .undecodable hfile hsection hdecode⟩
    · exact .inl ⟨s, content, v, hfile, hsection, hdecode⟩
  · exact .inr hfails

/-- At a path there is nothing, a document without the section, or something that decides. -/
theorem absent_or_found (files : Files) (path : String) :
    (files path).isPresent = false ∨ Lacks files path ∨ Decides files path := by
  rcases hfile : files path with why | why | content
  · exact .inl rfl
  · exact .inr (.inr (Fails.unreadable hfile).decides)
  · apply Or.inr
    rcases hparse : Toml.parse? content with _ | entries
    · exact .inr (Fails.malformed hfile hparse).decides
    · rcases hlookup : Value.lookup? entries sectionKey with _ | v
      · exact .inl ⟨content, entries, hfile, hparse, hlookup⟩
      · exact .inr (.inl ⟨content, v, hfile, entries, hparse, hlookup⟩)

/-! ### Reading one file -/

/-- A section that is there is decoded, and its faults name the file. -/
theorem ofSection?_of_hasSection {content : String} {v : Value} (h : HasSection content v)
    (path : String) :
    ofSection? path content =
      ((Decode.settings .toml v).map some).mapError fun fault => .decode path fault := by
  obtain ⟨entries, hparse, hlookup⟩ := h
  simp only [ofSection?, hparse, hlookup]
  rcases Decode.settings .toml v with fault | s <;> rfl

/-- The path is nothing but the name of the text. -/
theorem ofSection?_movedTo (path other content : String) :
    ofSection? other content = (ofSection? path content).mapError (LoadError.movedTo other) := by
  unfold ofSection?
  rcases Toml.parse? content with _ | entries
  · rfl
  · rcases hlookup : Value.lookup? entries sectionKey with _ | v
    · simp only [hlookup]
      rfl
    · simp only [hlookup]
      rcases Decode.settings .toml v with fault | s <;> rfl

/-- A file with a text is read as that text. -/
theorem ofFile?_of_text {content : String} (h : files path = .text content) :
    ofFile? files path = ofSection? path content := by
  rw [ofFile?, h]
  rfl

/-- A document without the section gives nothing, and is no error here. -/
theorem ofFile?_of_lacks (h : Lacks files path) : ofFile? files path = .ok none := by
  obtain ⟨content, entries, hfile, hparse, hlookup⟩ := h
  rw [ofFile?_of_text hfile]
  simp only [ofSection?, hparse, hlookup]

/-- A file that gives settings is read as these. -/
theorem ofFile?_of_gives {s : Settings} (h : Gives files path s) :
    ofFile? files path = .ok (some s) := by
  obtain ⟨content, v, hfile, hsection, hdecode⟩ := h
  rw [ofFile?_of_text hfile, ofSection?_of_hasSection hsection, hdecode]
  rfl

/-- A file that fails is read with its error. -/
theorem ofFile?_of_fails {e : LoadError} (h : Fails files path e) :
    ofFile? files path = .error e := by
  induction h with
  | unreadable hfile =>
    rw [ofFile?, hfile]
    rfl
  | malformed hfile hparse =>
    rw [ofFile?_of_text hfile]
    simp only [ofSection?, hparse]
  | undecodable hfile hsection hdecode =>
    rw [ofFile?_of_text hfile, ofSection?_of_hasSection hsection, hdecode]
    rfl

/-- So is one that is named. -/
theorem ofFile_of_gives {s : Settings} (h : Gives files path s) : ofFile files path = .ok s := by
  rw [ofFile, ofFile?_of_gives h]

/-- A file that is named and fails is read with its error as well. -/
theorem ofFile_of_fails {e : LoadError} (h : Fails files path e) :
    ofFile files path = .error e := by
  rw [ofFile, ofFile?_of_fails h]

/-- Where there is no file, there is nothing to read. -/
theorem toOption_ofFile?_of_absent (h : (files path).isPresent = false) :
    (ofFile? files path).toOption = none := by
  rcases hfile : files path with why | why | content
  · rw [ofFile?, hfile]
    rfl
  all_goals
    rw [hfile] at h
    exact Bool.noConfusion h

/-- What is read from a file says what there is. -/
theorem gives_of_ofFile? {s : Settings} (h : (ofFile? files path).toOption = some (some s)) :
    Gives files path s := by
  rcases absent_or_found files path with habsent | hlacks | hdecides
  · rw [toOption_ofFile?_of_absent habsent] at h
    exact absurd h.symm (Option.some_ne_none _)
  · rw [ofFile?_of_lacks hlacks] at h
    exact absurd (Option.some.inj h).symm (Option.some_ne_none s)
  · rcases hdecides.gives_or_fails with ⟨t, ht⟩ | ⟨e, he⟩
    · rw [ofFile?_of_gives ht] at h
      exact Option.some.inj (Option.some.inj h) ▸ ht
    · rw [ofFile?_of_fails he] at h
      exact absurd h.symm (Option.some_ne_none _)

/-- What is read without settings is a document without the section. -/
theorem lacks_of_ofFile? (h : (ofFile? files path).toOption = some none) : Lacks files path := by
  rcases absent_or_found files path with habsent | hlacks | hdecides
  · rw [toOption_ofFile?_of_absent habsent] at h
    exact absurd h.symm (Option.some_ne_none _)
  · exact hlacks
  · rcases hdecides.gives_or_fails with ⟨s, hs⟩ | ⟨e, he⟩
    · rw [ofFile?_of_gives hs] at h
      exact absurd (Option.some.inj h) (Option.some_ne_none s)
    · rw [ofFile?_of_fails he] at h
      exact absurd h.symm (Option.some_ne_none _)

/-- A text is read as the file that holds it, if that decides, and its errors name no file. -/
theorem Decides.ofText_eq (h : Decides files path) {content : String}
    (hfile : files path = .text content) :
    ofText content = (ofFile files path).mapError (LoadError.movedTo inlinePath) := by
  rw [ofText, ofSection?_movedTo path inlinePath, ← ofFile?_of_text hfile]
  rcases h.gives_or_fails with ⟨s, hs⟩ | ⟨e, he⟩
  · rw [ofFile?_of_gives hs, ofFile_of_gives hs]
    rfl
  · rw [ofFile?_of_fails he, ofFile_of_fails he]
    rfl

/-- A file that is named must have the section. -/
theorem ofFile_of_lacks (h : Lacks files path) :
    ofFile files path = .error (.missingSection path) := by
  rw [ofFile, ofFile?_of_lacks h]

/-- A text may lack the section: then all settings are the default ones. -/
theorem ofText_of_lacks (h : Lacks files path) {content : String}
    (hfile : files path = .text content) : ofText content = .ok {} := by
  rw [ofText, ofSection?_movedTo path inlinePath, ← ofFile?_of_text hfile, ofFile?_of_lacks h]
  rfl

/-! ### What decides -/

/-- What decides is present. -/
theorem Decides.isPresent (h : Decides files path) : (files path).isPresent = true := by
  rcases h with ⟨content, v, hfile, -⟩ | ⟨e, he⟩
  · rw [hfile]
    rfl
  · induction he with
    | unreadable hfile | malformed hfile | undecodable hfile =>
      rw [hfile]
      rfl

/-- A document without the section does not decide. -/
theorem not_decides_of_lacks (h : Lacks files path) : ¬ Decides files path := by
  intro hdecides
  have hnone := ofFile?_of_lacks h
  rcases hdecides.gives_or_fails with ⟨s, hs⟩ | ⟨e, he⟩
  · rw [ofFile?_of_gives hs, Except.ok.injEq] at hnone
    exact Option.some_ne_none s hnone
  · rw [ofFile?_of_fails he] at hnone
    injection hnone

/-- What is passed over is absent, or a document without the section. -/
theorem not_decides_iff :
    ¬ Decides files path ↔ ((files path).isPresent = true → Lacks files path) := by
  constructor
  · intro hnot hpresent
    rcases absent_or_found files path with habsent | hlacks | hdecides
    · exact absurd (hpresent.symm.trans habsent) (by decide)
    · exact hlacks
    · exact absurd hdecides hnot
  · intro h hdecides
    exact not_decides_of_lacks (h hdecides.isPresent) hdecides

/-- Whether a path decides depends on nothing but what there is at it. -/
theorem Decides.congr {files' : Files} (hsame : files' path = files path)
    (h : Decides files path) : Decides files' path := by
  rcases h with ⟨content, v, hfile, hsection⟩ | ⟨e, he⟩
  · exact .inl ⟨content, v, hsame.trans hfile, hsection⟩
  · induction he with
    | unreadable hfile => exact (Fails.unreadable (hsame.trans hfile)).decides
    | malformed hfile hparse => exact (Fails.malformed (hsame.trans hfile) hparse).decides
    | undecodable hfile hsection hdecode =>
      exact (Fails.undecodable (hsame.trans hfile) hsection hdecode).decides

/-! ### The search -/

/-- If the first path decides, the search ends there, as if the file had been named. -/
theorem ofPaths_cons_of_decides (h : Decides files path) (rest : List String) :
    ofPaths files (path :: rest) = (ofFile files path).map fun s => (s, some path) := by
  rw [ofPaths, if_pos h.isPresent]
  rcases h.gives_or_fails with ⟨s, hs⟩ | ⟨e, he⟩
  · rw [ofFile?_of_gives hs, ofFile_of_gives hs]
    rfl
  · rw [ofFile?_of_fails he, ofFile_of_fails he]
    rfl

/-- A path that does not decide is passed over. -/
theorem ofPaths_cons_of_not_decides (h : ¬ Decides files path) (rest : List String) :
    ofPaths files (path :: rest) = ofPaths files rest := by
  rw [ofPaths]
  by_cases hpresent : (files path).isPresent = true
  · rw [if_pos hpresent, ofFile?_of_lacks (not_decides_iff.mp h hpresent)]
  · rw [if_neg hpresent]

/-- So are all of several paths that do not decide. -/
theorem ofPaths_append {before : List String} (h : ∀ q ∈ before, ¬ Decides files q)
    (rest : List String) : ofPaths files (before ++ rest) = ofPaths files rest := by
  induction before with
  | nil => rfl
  | cons q before ih =>
    rw [List.cons_append, ofPaths_cons_of_not_decides (h q List.mem_cons_self)]
    exact ih fun r hr => h r (List.mem_cons_of_mem q hr)

/-- The deciding path is read as a file that is named. -/
theorem ofPaths_of_isDeciding {paths : List String} (h : IsDeciding files paths path) :
    ofPaths files paths = (ofFile files path).map fun s => (s, some path) := by
  obtain ⟨before, after, rfl, hdecides, hbefore⟩ := h
  rw [ofPaths_append hbefore, ofPaths_cons_of_decides hdecides]

/-- Where no path decides, all settings are the default ones. -/
theorem ofPaths_of_forall_not_decides {paths : List String}
    (h : ∀ q ∈ paths, ¬ Decides files q) : ofPaths files paths = .ok ({}, none) := by
  have hall := ofPaths_append h []
  rwa [List.append_nil] at hall

/-- Of some paths none decides, or there is a first one that does. -/
theorem forall_not_decides_or_exists (files : Files) (paths : List String) :
    (∀ q ∈ paths, ¬ Decides files q) ∨ ∃ path, IsDeciding files paths path := by
  induction paths with
  | nil => exact .inl fun q hq => absurd hq List.not_mem_nil
  | cons path rest ih =>
    by_cases hdecides : Decides files path
    · exact .inr ⟨path, [], rest, rfl, hdecides, fun q hq => absurd hq List.not_mem_nil⟩
    · rcases ih with hnone | ⟨found, before, after, rfl, hfound, hbefore⟩
      · exact .inl (List.forall_mem_cons.mpr ⟨hdecides, hnone⟩)
      · exact .inr ⟨found, path :: before, after, rfl, hfound,
          List.forall_mem_cons.mpr ⟨hdecides, hbefore⟩⟩

/-- How a search ends: at a path that decides, with the settings or the error of the file there, or
without one. -/
theorem ofPaths_cases (files : Files) (paths : List String) :
    (∃ path s, IsDeciding files paths path ∧ Gives files path s ∧
      ofPaths files paths = .ok (s, some path)) ∨
    (∃ path e, IsDeciding files paths path ∧ Fails files path e ∧
      ofPaths files paths = .error e) ∨
    ((∀ path ∈ paths, ¬ Decides files path) ∧ ofPaths files paths = .ok ({}, none)) := by
  rcases forall_not_decides_or_exists files paths with hnone | ⟨path, hpath⟩
  · exact .inr (.inr ⟨hnone, ofPaths_of_forall_not_decides hnone⟩)
  · have hread := ofPaths_of_isDeciding hpath
    obtain ⟨-, -, -, hdecides, -⟩ := id hpath
    rcases hdecides.gives_or_fails with ⟨s, hs⟩ | ⟨e, he⟩
    · rw [ofFile_of_gives hs] at hread
      exact .inl ⟨path, s, hpath, hs, hread⟩
    · rw [ofFile_of_fails he] at hread
      exact .inr (.inl ⟨path, e, hpath, he, hread⟩)

/-- What comes after a path that decides is of no account, neither the paths nor the files. -/
theorem ofPaths_congr {files' : Files} {before : List String} (hdecides : Decides files path)
    (hsame : ∀ q, q = path ∨ q ∈ before → files' q = files q) (after after' : List String) :
    ofPaths files' (before ++ path :: after') = ofPaths files (before ++ path :: after) := by
  have hread : ∀ q, files' q = files q → ofFile files' q = ofFile files q := by
    intro q hq
    rw [ofFile, ofFile, ofFile?, ofFile?, hq]
  induction before with
  | nil =>
    have hpath := hsame path (.inl rfl)
    rw [List.nil_append, List.nil_append, ofPaths_cons_of_decides hdecides,
      ofPaths_cons_of_decides (hdecides.congr hpath), hread path hpath]
  | cons q before ih =>
    have hq := hsame q (.inr List.mem_cons_self)
    have hrest := ih fun r hr => hsame r (hr.imp_right (List.mem_cons_of_mem q))
    rw [List.cons_append, List.cons_append]
    by_cases hdecidesq : Decides files q
    · rw [ofPaths_cons_of_decides hdecidesq, ofPaths_cons_of_decides (hdecidesq.congr hq),
        hread q hq]
    · have hnot : ¬ Decides files' q := fun h => hdecidesq (h.congr hq.symm)
      rw [ofPaths_cons_of_not_decides hdecidesq, ofPaths_cons_of_not_decides hnot, hrest]

/-! ### What a search finds -/

/-- A search goes through the paths in order and stops at the first one that decides. -/
structure SearchesInOrder (files : Files) (paths : List String) : Prop where
  /-- Settings and a path are found just if the path decides and its file gives the settings. -/
  found : ∀ s path, ofPaths files paths = .ok (s, some path) ↔
    IsDeciding files paths path ∧ Gives files path s
  /-- The search fails just if the file at the deciding path does, with the error of that file. -/
  failed : ∀ e, ofPaths files paths = .error e ↔
    ∃ path, IsDeciding files paths path ∧ Fails files path e
  /-- There is no path in the result just if every file can be read and is a document without the
  section, and then all settings are the default ones. -/
  unfound : ∀ s, ofPaths files paths = .ok (s, none) ↔
    s = {} ∧ ∀ path ∈ paths, (files path).isPresent = true → Lacks files path
  /-- Neither the paths after one that decides nor the files there have any influence. -/
  later : ∀ before path after, paths = before ++ path :: after → Decides files path →
    ∀ files' after', (∀ q, q = path ∨ q ∈ before → files' q = files q) →
      ofPaths files' (before ++ path :: after') = ofPaths files paths
  /-- The file at the deciding path is read alike where it is named, and so is its text by itself,
  but for the path in an error. -/
  named : ∀ path, IsDeciding files paths path →
    ofPaths files paths = (ofFile files path).map (fun s => (s, some path)) ∧
      ∀ content, files path = .text content →
        ofText content = (ofFile files path).mapError (LoadError.movedTo inlinePath)
  /-- A document without the section is an error where the file is named, and stands for the
  default settings by itself. -/
  lacking : ∀ path, Lacks files path →
    ofFile files path = .error (.missingSection path) ∧
      (LoadError.missingSection path).message =
        "Failed to parse config file " ++ path ++ ": missing [lnk-agent] section" ∧
      ∀ content, files path = .text content → ofText content = .ok {}

/-- The path is written as it is, and the section by its name. -/
theorem message_missingSection (path : String) : (LoadError.missingSection path).message =
    "Failed to parse config file " ++ path ++ ": missing [lnk-agent] section" := by
  have hend : ": missing [lnk-agent] section" = ": " ++ "missing [lnk-agent] section" := by decide
  have hhead : "Failed to parse config file " =
      "Failed to " ++ "parse" ++ " config file " := by decide
  rw [hend, hhead, ← String.append_assoc]
  rfl

/-- **A search finds the first file that carries the section, and stops at the first that fails.**

* Its result is that of the first path that decides: the settings there and the path, or the error
  of the file there. All settings are the default ones just if every file is a document without the
  section.
* What comes after that path has no influence.
* A file that is named and a text by itself are read in the same way, unless the section is
  missing. -/
theorem searchesInOrder (files : Files) (paths : List String) : SearchesInOrder files paths where
  found := by
    intro s path
    constructor
    · intro hok
      rcases ofPaths_cases files paths with ⟨q, t, hq, ht, hend⟩ | ⟨q, e, -, -, hend⟩ | ⟨-, hend⟩
      · rw [hend, Except.ok.injEq, Prod.mk.injEq, Option.some.injEq] at hok
        obtain ⟨rfl, rfl⟩ := hok
        exact ⟨hq, ht⟩
      · rw [hend] at hok
        injection hok
      · rw [hend, Except.ok.injEq, Prod.mk.injEq] at hok
        exact absurd hok.2.symm (Option.some_ne_none path)
    · rintro ⟨hpath, hgives⟩
      rw [ofPaths_of_isDeciding hpath, ofFile_of_gives hgives]
      rfl
  failed := by
    intro e
    constructor
    · intro herror
      rcases ofPaths_cases files paths with ⟨q, t, -, -, hend⟩ | ⟨q, e', hq, he', hend⟩ | ⟨-, hend⟩
      · rw [hend] at herror
        injection herror
      · rw [hend, Except.error.injEq] at herror
        exact ⟨q, hq, herror ▸ he'⟩
      · rw [hend] at herror
        injection herror
    · rintro ⟨path, hpath, hfails⟩
      rw [ofPaths_of_isDeciding hpath, ofFile_of_fails hfails]
      rfl
  unfound := by
    intro s
    constructor
    · intro hok
      rcases ofPaths_cases files paths with
        ⟨q, t, -, -, hend⟩ | ⟨q, e, -, -, hend⟩ | ⟨hnone, hend⟩
      · rw [hend, Except.ok.injEq, Prod.mk.injEq] at hok
        exact absurd hok.2 (Option.some_ne_none q)
      · rw [hend] at hok
        injection hok
      · rw [hend, Except.ok.injEq, Prod.mk.injEq] at hok
        exact ⟨hok.1.symm, fun q hq => not_decides_iff.mp (hnone q hq)⟩
    · rintro ⟨rfl, hlacks⟩
      exact ofPaths_of_forall_not_decides fun q hq => not_decides_iff.mpr (hlacks q hq)
  later := by
    rintro before path after rfl hdecides files' after' hsame
    exact ofPaths_congr hdecides hsame after after'
  named := by
    intro path hpath
    refine ⟨ofPaths_of_isDeciding hpath, fun content hfile => ?_⟩
    obtain ⟨-, -, -, hdecides, -⟩ := hpath
    exact hdecides.ofText_eq hfile
  lacking := fun path h =>
    ⟨ofFile_of_lacks h, message_missingSection path, fun _ hfile => ofText_of_lacks h hfile⟩

/-- Of four places the first is empty, the second has no section, the third has it, and the last one
cannot be read. -/
theorem searchesInOrder_thirdPlace :
    let files : Files := fun path =>
      if path = "b.toml" then .text "[other]\n"
      else if path = "c.toml" then .text "[lnk-agent.wifi]\nssid = \"home\"\n"
      else if path = "d.toml" then .unreadable .isADirectory
      else .absent .notFound
    let paths := ["a.toml", "b.toml", "c.toml", "d.toml"]
    IsDeciding files paths "c.toml" ∧
      ofPaths files paths = .ok ({ wifi := { ssid := "home" } }, some "c.toml") := by
  intro files paths
  have hlacks : Lacks files "b.toml" := lacks_of_ofFile? (by decide +kernel)
  have hgives : Gives files "c.toml" { wifi := { ssid := "home" } } :=
    gives_of_ofFile? (by decide +kernel)
  have hbefore : ∀ q ∈ ["a.toml", "b.toml"], ¬ Decides files q := by
    rw [List.forall_mem_cons, List.forall_mem_singleton]
    exact ⟨not_decides_iff.mpr fun hpresent => absurd hpresent (by decide),
      not_decides_of_lacks hlacks⟩
  have hdeciding : IsDeciding files paths "c.toml" :=
    ⟨["a.toml", "b.toml"], ["d.toml"], rfl, hgives.decides, hbefore⟩
  exact ⟨hdeciding, ((searchesInOrder files paths).found _ _).mpr ⟨hdeciding, hgives⟩⟩

end Settings

end LinkWarden
