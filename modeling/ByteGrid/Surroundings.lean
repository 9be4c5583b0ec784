import ByteGrid.Outcome
import ByteGrid.Settings.Json
import ByteGrid.Text.Printable

namespace ByteGrid

open ByteGrid.Text

structure Surroundings where
  files : Files
  config : Option String
  colors : Bool
  noteColors : Bool

def configVariable : String := "STRUCT_VISUALIZER_CONFIG"

/-- Whether colours are wanted: a wish that forces them comes before one against them, and without
either a terminal has colours unless it is told to have none. A wish of zero is none. -/
def wantsColors (force refuse wish : Option String) (terminal : Bool) : Bool :=
  if force.any (· != "0") then true
  else if refuse.isSome then false
  else wish.all (· != "0") && terminal

/-- Whether colours are wanted in notes: here a wish against them comes first, and an empty wish is
none. -/
def wantsNoteColors (force refuse wish : Option String) (terminal : Bool) : Bool :=
  if refuse.any (· != "") then false
  else if force.any (· != "") then true
  else wish.all (· != "0") && terminal

def SettingsError.failure (e : SettingsError) : Failure :=
  match e with
  | .file cause => ⟨e.message, [cause.message]⟩
  | .json cause => ⟨e.message, [cause.message]⟩
  | .invalid _ => .of e.message

def Surroundings.loadSettings (w : Surroundings) (path context : String) : Outcome Settings := do
  .note (w.files.settingsEntries path)
  .ofExcept (fun e => e.failure.during context) (w.files.settings path)

def Surroundings.settings (w : Surroundings) (asked : Option String) : Outcome Settings :=
  match asked, w.config with
  | some path, _ => w.loadSettings path ("Failed to load config " ++ path)
  | none, some path =>
    if w.files.contains path then w.loadSettings path "Failed to load config"
    else do
      .note [⟨.info, settingsTarget,
        "Config " ++ quoted path ++ " does not exist, using defaults"⟩]
      return .standard
  | none, none => return .standard

end ByteGrid
