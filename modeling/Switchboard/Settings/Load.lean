import Switchboard.Settings.Document
import Switchboard.Settings.Environment
import Switchboard.Settings.Layers

/-!
# Loading settings

The defaults lie at the bottom, over them the settings file, and over that the environment. A file
that is asked for must exist; the usual file is read if it is there. An environment that gives
nothing but defaults is passed over. How a text is read as JSON is left to a library, `parse`.

* `Files` — what paths lead to, seen from the folder in which the program runs.
* `Settings.ofFile` — the settings in a file.
* `Settings.load` — all layers; `Settings.loadRecords` is what is logged meanwhile.
-/

namespace Switchboard

/-! ## Files -/

inductive FileEntry
  | file (content : Bytes)
  | folder
  deriving DecidableEq, Repr

/-- What each path leads to, if to anything. -/
abbrev Files := String → Option FileEntry

namespace Files

/-- A step of a path that stays in the same folder. -/
def isIdle (step : List Char) : Bool := step.isEmpty || step == ['.']

/-- The files of one folder, by their names. -/
def ofFolder (content : List (String × FileEntry)) : Files := fun path =>
  match path.toList with
  | [] | '/' :: _ => none
  | text =>
    let steps := Text.pieces '/' text
    let endsInFolder := (steps.getLast?).any isIdle
    match steps.filter (!isIdle ·) with
    | [] => some .folder
    | names =>
      match content.lookup (String.ofList (['/'].intercalate names)) with
      | some (.file bytes) => if endsInFolder then none else some (.file bytes)
      | found => found

end Files

namespace Settings

/-! ## Layers -/

/-- The file that is read where none is asked for. -/
def usualFile : String := "portmux.json"

def ofFile (parse : String → Option Json) (files : Files) (path : String) :
    Except Error Settings :=
  match files path with
  | some (.file content) =>
    match Utf8.decode? content with
    | none => .error (.fileUnreadable path none)
    | some text =>
      match (parse text).bind ofJson? with
      | some settings => .ok settings
      | none => .error (.malformed path)
  | _ => .error (.fileNotFound path)

/-- The file to read: the one asked for, or else the usual one if its path leads anywhere. -/
def filePath (files : Files) : Option String → Option String
  | some path => some path
  | none => if (files usualFile).isSome then some usualFile else none

/-- The layer of the settings file; it says nothing if there is no file. -/
def fileLayer (parse : String → Option Json) (files : Files) (path : Option String) :
    Except Error Settings :=
  match filePath files path with
  | some path => ofFile parse files path
  | none => .ok default

/-- The settings up to the file: the defaults, and over them the file if there is one. -/
def upToFile (parse : String → Option Json) (files : Files) (path : Option String) :
    Except Error Settings :=
  match filePath files path with
  | some path => (ofFile parse files path).map default.overlay
  | none => .ok default

def load (parse : String → Option Json) (files : Files) (env : Environment)
    (path : Option String) : Except Error Settings := do
  let below ← upToFile parse files path
  let environment ← ofEnvironment env
  return if environment = default then below else below.overlay environment

theorem upToFile_eq (parse : String → Option Json) (files : Files) (path : Option String) :
    upToFile parse files path = (fileLayer parse files path).map default.overlay := by
  rw [upToFile, fileLayer]
  cases filePath files path with
  | some path => rfl
  | none => exact congrArg Except.ok (default_overlay default).symm

/-- To pass over a layer of defaults is to lay it over what is below. -/
theorem overlay_of_skip (below environment : Settings) :
    (if environment = default then below else below.overlay environment) =
      below.overlay environment := by
  split
  · rw [‹environment = default›, overlay_default]
  · rfl

/-- Both layers are laid over the defaults, whether they say anything or not. -/
theorem load_eq_ofLayers (parse : String → Option Json) (files : Files) (env : Environment)
    (path : Option String) :
    load parse files env path = do
      let file ← fileLayer parse files path
      let environment ← ofEnvironment env
      return ofLayers [file, environment] := by
  simp only [load, upToFile_eq, overlay_of_skip]
  cases fileLayer parse files path <;> rfl

/-- What is logged while settings are loaded, up to the step that fails if one does. -/
def loadRecords (parse : String → Option Json) (files : Files) (env : Environment)
    (path : Option String) : List Record :=
  let start := ⟨.debug, "Starting with default configuration"⟩
  let file := match filePath files path with
    | some path => [⟨.info, "Loading configuration from " ++ path⟩]
    | none => []
  let environment : List Record := match fileLayer parse files path, ofEnvironment env with
    | .ok _, .ok layer =>
      if layer = default then [⟨.debug, "No environment variable configuration found"⟩]
      else [⟨.info, "Applying configuration from environment variables"⟩]
    | _, _ => []
  start :: file ++ environment

end Settings

end Switchboard
