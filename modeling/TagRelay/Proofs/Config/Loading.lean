import TagRelay.Config.Load
import TagRelay.Proofs.Config.Checks
import TagRelay.Proofs.Files.Outline

/-!
# Which file is loaded

One path is selected: the one in the environment unless it is blank, or else the first candidate
at which something exists.  All that is loaded comes from the file there, and so does every
error: a file that was selected is never passed over, and what is in other files does not matter.
-/

namespace TagRelay.Config

/-! ## Selection -/

/-- The path from which a configuration is to be loaded, if there is one. -/
inductive Selects (files : Files) (environment : Option String) (candidates : List String) :
    Option String → Prop
  | environment {path : String} (hnamed : environment = some path) (hpath : ¬Blank path) :
      Selects files environment candidates (some path)
  | candidate {path : String} {before after : List String}
      (hunnamed : ∀ named, environment = some named → Blank named)
      (hcandidates : candidates = before ++ path :: after)
      (hbefore : ∀ other ∈ before, files.contains other = false)
      (hpath : files.contains path = true) : Selects files environment candidates (some path)
  | nothing (hunnamed : ∀ named, environment = some named → Blank named)
      (hnone : ∀ path ∈ candidates, files.contains path = false) :
      Selects files environment candidates none

section Selection

variable {files : Files} {environment : Option String} {candidates : List String}

theorem filter_isMissing_eq_none_iff :
    (environment.filter fun path => !Text.isMissing path) = none ↔
      ∀ named, environment = some named → Blank named := by
  simp [Option.filter_eq_none_iff, ← isMissing_iff]

theorem filter_isMissing_eq_some_iff {path : String} :
    (environment.filter fun path => !Text.isMissing path) = some path ↔
      environment = some path ∧ ¬Blank path := by
  simp [Option.filter_eq_some_iff, ← isMissing_iff]

theorem select_eq_iff {selected : Option String} :
    select files environment candidates = selected ↔
      Selects files environment candidates selected := by
  constructor
  · rintro rfl
    rw [select]
    split
    case h_1 path hnamed =>
      obtain ⟨hnamed, hpath⟩ := filter_isMissing_eq_some_iff.mp hnamed
      exact .environment hnamed hpath
    case h_2 hunnamed =>
      have hunnamed := filter_isMissing_eq_none_iff.mp hunnamed
      cases hfind : candidates.find? files.contains with
      | none =>
          apply Selects.nothing hunnamed
          simpa using List.find?_eq_none.mp hfind
      | some path =>
          obtain ⟨hpath, before, after, hcandidates, hbefore⟩ :=
            List.find?_eq_some_iff_append.mp hfind
          exact .candidate hunnamed hcandidates (by simpa using hbefore) hpath
  · intro hselects
    rw [select]
    cases hselects with
    | environment hnamed hpath =>
        rw [filter_isMissing_eq_some_iff.mpr ⟨hnamed, hpath⟩]
    | candidate hunnamed hcandidates hbefore hpath =>
        rw [filter_isMissing_eq_none_iff.mpr hunnamed]
        apply List.find?_eq_some_iff_append.mpr
        exact ⟨hpath, _, _, hcandidates, by simpa using hbefore⟩
    | nothing hunnamed hnone =>
        rw [filter_isMissing_eq_none_iff.mpr hunnamed]
        apply List.find?_eq_none.mpr
        simpa using hnone

end Selection

/-! ## Loading -/

/-- The text is a document that describes this configuration. -/
def Describes (text : String) (app : App) : Prop :=
  ∃ document, Toml.read? text = some document ∧ App.ofJson .file document = .ok app

theorem describes_iff {text : String} {app : App} :
    Describes text app ↔ (Toml.read? text).map (App.ofJson .file) = some (.ok app) :=
  Option.map_eq_some_iff.symm

theorem App.validate_eq_ok_iff (app : App) : app.validate = .ok () ↔ app.connector.Sound :=
  app.connector.validate_eq_ok_iff

theorem App.validate_eq_error_iff (app : App) {violation : Violation} :
    app.validate = .error violation ↔ FirstFailing app.connector.checks violation :=
  (finds_connector app.connector).first.2 violation

/-- What comes of loading a configuration. -/
inductive Loads (files : Files) (environment : Option String) (candidates : List String) :
    Except LoadError Loaded → Prop
  | nothing (hselects : Selects files environment candidates none) :
      Loads files environment candidates (.error (.noneFound candidates))
  | unreadable {path : String} {cause : FileError}
      (hselects : Selects files environment candidates (some path))
      (hread : files.read path = .error cause) :
      Loads files environment candidates (.error (.unreadable path cause))
  | malformed {path text : String} (hselects : Selects files environment candidates (some path))
      (hread : files.read path = .ok text) (hdescribes : ∀ app, ¬Describes text app) :
      Loads files environment candidates (.error (.malformed (some path)))
  | invalid {path text : String} {app : App} {violation : Violation}
      (hselects : Selects files environment candidates (some path))
      (hread : files.read path = .ok text) (hdescribes : Describes text app)
      (hviolation : FirstFailing app.connector.checks violation) :
      Loads files environment candidates (.error (.invalid (some path) violation))
  | loaded {path text : String} {app : App}
      (hselects : Selects files environment candidates (some path))
      (hread : files.read path = .ok text) (hdescribes : Describes text app)
      (hsound : app.connector.Sound) : Loads files environment candidates (.ok ⟨app, path⟩)

section Loading

variable {files : Files} {environment : Option String} {candidates : List String}

theorem load_of_selects {path : String}
    (hselects : Selects files environment candidates (some path)) :
    load files environment candidates = loadFile files path := by
  rw [load, select_eq_iff.mpr hselects]

theorem load_of_selects_none (hselects : Selects files environment candidates none) :
    load files environment candidates = .error (.noneFound candidates) := by
  rw [load, select_eq_iff.mpr hselects]

theorem loadFile_of_ok {path text : String} (hread : files.read path = .ok text) :
    loadFile files path = (App.ofText (some path) text).map fun app => ⟨app, path⟩ := by
  rw [loadFile, hread]

theorem ofText_of_sound {text : String} {app : App} (hdescribes : Describes text app)
    (hsound : app.connector.Sound) (path : Option String) : App.ofText path text = .ok app := by
  simp only [App.ofText, describes_iff.mp hdescribes, app.validate_eq_ok_iff.mpr hsound]

theorem ofText_of_failing {text : String} {app : App} {violation : Violation}
    (hdescribes : Describes text app) (hviolation : FirstFailing app.connector.checks violation)
    (path : Option String) : App.ofText path text = .error (.invalid path violation) := by
  simp only [App.ofText, describes_iff.mp hdescribes, app.validate_eq_error_iff.mpr hviolation]

theorem ofText_of_not_describes {text : String} (hdescribes : ∀ app, ¬Describes text app)
    (path : Option String) : App.ofText path text = .error (.malformed path) := by
  rw [App.ofText]
  split
  case h_1 app hread => exact absurd (describes_iff.mpr hread) (hdescribes app)
  case h_2 => rfl

/-- A text describes no configuration, or one that is not sound, or one that is. -/
theorem ofText_cases (path : Option String) (text : String) :
    (∀ app, ¬Describes text app) ∧ App.ofText path text = .error (.malformed path) ∨
    (∃ app violation, Describes text app ∧ FirstFailing app.connector.checks violation ∧
      App.ofText path text = .error (.invalid path violation)) ∨
    ∃ app, Describes text app ∧ app.connector.Sound ∧ App.ofText path text = .ok app := by
  by_cases hdescribes : ∃ app, Describes text app
  · obtain ⟨app, hdescribes⟩ := hdescribes
    cases hvalid : app.validate with
    | ok =>
        have hsound := app.validate_eq_ok_iff.mp hvalid
        exact Or.inr (Or.inr ⟨app, hdescribes, hsound, ofText_of_sound hdescribes hsound path⟩)
    | error violation =>
        have hviolation := app.validate_eq_error_iff.mp hvalid
        exact Or.inr (Or.inl ⟨app, violation, hdescribes, hviolation,
          ofText_of_failing hdescribes hviolation path⟩)
  · have hnone := not_exists.mp hdescribes
    exact Or.inl ⟨hnone, ofText_of_not_describes hnone path⟩

theorem loads_load : Loads files environment candidates (load files environment candidates) := by
  cases hselected : select files environment candidates with
  | none =>
      have hselects := select_eq_iff.mp hselected
      rw [load_of_selects_none hselects]
      exact .nothing hselects
  | some path =>
      have hselects := select_eq_iff.mp hselected
      rw [load_of_selects hselects]
      cases hread : files.read path with
      | error cause =>
          rw [loadFile, hread]
          exact .unreadable hselects hread
      | ok text =>
          rw [loadFile_of_ok hread]
          rcases ofText_cases (some path) text with ⟨hdescribes, htext⟩ |
            ⟨app, violation, hdescribes, hviolation, htext⟩ | ⟨app, hdescribes, hsound, htext⟩
          · rw [htext]
            exact .malformed hselects hread hdescribes
          · rw [htext]
            exact .invalid hselects hread hdescribes hviolation
          · rw [htext]
            exact .loaded hselects hread hdescribes hsound

theorem load_eq_iff {outcome : Except LoadError Loaded} :
    load files environment candidates = outcome ↔ Loads files environment candidates outcome := by
  constructor
  · rintro rfl
    exact loads_load
  · intro hloads
    cases hloads with
    | nothing hselects => exact load_of_selects_none hselects
    | unreadable hselects hread => rw [load_of_selects hselects, loadFile, hread]
    | malformed hselects hread hdescribes =>
        rw [load_of_selects hselects, loadFile_of_ok hread, ofText_of_not_describes hdescribes]
        rfl
    | invalid hselects hread hdescribes hviolation =>
        rw [load_of_selects hselects, loadFile_of_ok hread,
          ofText_of_failing hdescribes hviolation]
        rfl
    | loaded hselects hread hdescribes hsound =>
        rw [load_of_selects hselects, loadFile_of_ok hread, ofText_of_sound hdescribes hsound]
        rfl

theorem load_eq_ok_iff {loaded : Loaded} :
    load files environment candidates = .ok loaded ↔
      Selects files environment candidates (some loaded.path) ∧
        ∃ text, files.read loaded.path = .ok text ∧ Describes text loaded.app ∧
          loaded.app.connector.Sound := by
  rw [load_eq_iff]
  constructor
  · intro hloads
    cases hloads with
    | loaded hselects hread hdescribes hsound =>
        exact ⟨hselects, _, hread, hdescribes, hsound⟩
  · rintro ⟨hselects, text, hread, hdescribes, hsound⟩
    exact .loaded hselects hread hdescribes hsound

/-- Only the file at the selected path matters. -/
theorem load_congr {other : Files} {selected : Option String}
    (hselects : Selects files environment candidates selected)
    (hother : Selects other environment candidates selected)
    (hread : ∀ path, selected = some path → files.read path = other.read path) :
    load files environment candidates = load other environment candidates := by
  cases selected with
  | none => rw [load_of_selects_none hselects, load_of_selects_none hother]
  | some path =>
      rw [load_of_selects hselects, load_of_selects hother, loadFile, loadFile, hread path rfl]

theorem Selects.of_contains_eq {other : Files} {selected : Option String}
    (hcontains : files.contains = other.contains)
    (hselects : Selects files environment candidates selected) :
    Selects other environment candidates selected := by
  rw [← select_eq_iff] at hselects ⊢
  rw [← hselects, select, select, hcontains]

end Loading

/-- The path that is selected is the one in the environment, as it stands there, unless it is
blank, or else the first candidate at which a file or a directory exists.  A configuration is
loaded exactly if there is such a path, the file there can be read, its text describes a
configuration, and this is sound; it is then the one that is reported, with its path.  Otherwise
the error is the one of this file, or lists all candidates.  So in two file systems that select
the same path and have the same there, the outcome is the same; and which path is selected does
not depend on what is in the files. -/
theorem loads_selected (environment : Option String) (candidates : List String) :
    (∀ files selected, select files environment candidates = selected ↔
      Selects files environment candidates selected) ∧
    (∀ files outcome, load files environment candidates = outcome ↔
      Loads files environment candidates outcome) ∧
    (∀ files loaded, load files environment candidates = .ok loaded ↔
      Selects files environment candidates (some loaded.path) ∧
        ∃ text, files.read loaded.path = .ok text ∧ Describes text loaded.app ∧
          loaded.app.connector.Sound) ∧
    (∀ files other selected, Selects files environment candidates selected →
      Selects other environment candidates selected →
      (∀ path, selected = some path → files.read path = other.read path) →
        load files environment candidates = load other environment candidates) ∧
    (∀ tree other : FileTree, tree.outline = other.outline →
      (∀ path, Selects tree.read environment candidates (some path) →
        tree.read.read path = other.read.read path) →
        load tree.read environment candidates = load other.read environment candidates) ∧
    (∀ (tree : FileTree) path,
      tree.read.contains path = true ↔ ∃ found, tree.at? path = .ok found) ∧
    (LoadError.noneFound candidates).message =
      "no configuration files found. inspected: " ++ Text.join ", " candidates := by
  refine ⟨fun files selected => select_eq_iff, fun files outcome => load_eq_iff,
    fun files loaded => load_eq_ok_iff, fun files other selected => load_congr, ?_,
    fun tree path => FileTree.contains_iff, rfl⟩
  intro tree other houtline hread
  have hselects := select_eq_iff.mp (Eq.refl (select tree.read environment candidates))
  apply load_congr hselects (hselects.of_contains_eq (FileTree.contains_of_outline_eq houtline))
  intro path hpath
  exact hread path (hpath ▸ hselects)

/-- What is computed to hold of the configuration in a text. -/
theorem exists_sound_of_text {text : String} {holds : App → Bool}
    (hread : (App.ofText none text).toOption.any holds = true) :
    ∃ app, Describes text app ∧ app.connector.Sound ∧ holds app = true := by
  rcases ofText_cases none text with ⟨-, htext⟩ | ⟨app, violation, -, -, htext⟩ |
    ⟨app, hdescribes, hsound, htext⟩
  · rw [htext] at hread
    nomatch hread
  · rw [htext] at hread
    nomatch hread
  · rw [htext] at hread
    exact ⟨app, hdescribes, hsound, hread⟩

/-- A configuration with one device, which has a tag in each of its sections. -/
def ovenText : String :=
  "[[connector.devices]]\nname=\"oven\"\ntimeseries=[\x7bkey=\"heat\",tag=\"oven.heat\"\x7d]\n" ++
    "attributes=[\x7bkey=\"mode\",tag=\"oven.mode\"\x7d]\n"

/-- The names and converters of devices with the paths of their attributes and timeseries. -/
def declaredPaths (app : App) : List (String × Option String × List String × List String) :=
  app.connector.devices.map fun device =>
    (device.name, device.converter, device.attributes.map Tag.path,
      device.timeseries.map Tag.path)

theorem describes_ovenText : ∃ app, Describes ovenText app ∧ app.connector.Sound ∧
    declaredPaths app = [("oven", none, ["oven.mode"], ["oven.heat"])] := by
  have hread : (App.ofText none ovenText).toOption.any
      (fun app => declaredPaths app = [("oven", none, ["oven.mode"], ["oven.heat"])]) = true := by
    decide +kernel
  obtain ⟨app, hdescribes, hsound, hdevices⟩ := exists_sound_of_text hread
  exact ⟨app, hdescribes, hsound, of_decide_eq_true hdevices⟩

/-- A working directory with a directory and a file. -/
def siteTree (content : FileContent) : FileTree :=
  .directory [("", .directory [("site", .directory []), ("spare.toml", .file content)])]

/-- A directory that is the first candidate to exist is not passed over for the file after it,
whatever this contains; if the environment names the file, it is loaded. -/
theorem loads_selected_of_directory :
    (∀ content other, load (siteTree content).read (some " ") ["gone.toml", "site", "spare.toml"] =
      load (siteTree other).read (some " ") ["gone.toml", "site", "spare.toml"]) ∧
    load (siteTree (.text ovenText)).read (some " ") ["gone.toml", "site", "spare.toml"] =
      .error (.unreadable "site" .isDirectory) ∧
    ∃ app, load (siteTree (.text ovenText)).read (some "spare.toml") ["site"] =
        .ok ⟨app, "spare.toml"⟩ ∧
      declaredPaths app = [("oven", none, ["oven.mode"], ["oven.heat"])] := by
  obtain ⟨hselects, hloads, -, -, hsame, -⟩ :=
    loads_selected (some " ") ["gone.toml", "site", "spare.toml"]
  refine ⟨fun content other => hsame _ _ rfl fun path hpath => ?_,
    (hloads _ _).mpr (.unreadable ((hselects _ _).mp rfl) rfl), ?_⟩
  · have hsite : some "site" = some path := (hselects _ _).mpr hpath
    cases hsite
    rfl
  · obtain ⟨hselects, -, hloaded, -⟩ := loads_selected (some "spare.toml") ["site"]
    obtain ⟨app, hdescribes, hsound, hdevices⟩ := describes_ovenText
    have hfile : (siteTree (.text ovenText)).read.read "spare.toml" = .ok ovenText := rfl
    exact ⟨app, (hloaded _ _).mpr ⟨(hselects _ _).mp rfl, _, hfile, hdescribes, hsound⟩, hdevices⟩

end TagRelay.Config
