import ByteGrid.Json.Writer
import ByteGrid.Log
import ByteGrid.Settings
import ByteGrid.TypeTable.Json

namespace ByteGrid

open ByteGrid.Json ByteGrid.Text

def LabelPolicy.ofJson? (v : Value) : Except Mismatch LabelPolicy := do
  let name ← match v with
    | .object [(some name, .null)] => pure name
    | v => v.text?
  match LabelPolicy.ofName? name with
  | some p => return p
  | none => throw (.wrongType "a label policy")

def DisplaySettings.toJson (d : DisplaySettings) : Value :=
  .record
    [("byte_width", .float d.byteWidth), ("pack_value", .option .nat d.packValue),
     ("label_policy", .text d.policy.name), ("tail_padding", .bool d.tailPadding),
     ("use_color", .bool d.useColor)]

def DisplaySettings.ofJson? (v : Value) : Except Mismatch DisplaySettings := do
  let d := DisplaySettings.standard
  let r ← v.record? 5
  let byteWidth ← r.optional 0 ["byte_width", "byte_width_px"] d.byteWidth Value.float?
  let packValue ← r.optional 1 ["pack_value"] d.packValue (Value.option? Value.nat?)
  let policy ← r.optional 2 ["label_policy"] d.policy LabelPolicy.ofJson?
  let tailPadding ← r.optional 3 ["tail_padding"] d.tailPadding Value.bool?
  let useColor ← r.optional 4 ["use_color"] d.useColor Value.bool?
  return { byteWidth, packValue, policy, tailPadding, useColor }

def excludePathsOfJson? (v : Value) : Except Mismatch (List String) := do
  let r ← v.record? 1
  r.optional 0 ["exclude_paths"] [] (Value.list? Value.text?)

def sectionKeys : List String := ["display", "gui", "resolver"]

def maxBesideDepth : Nat := 127

def Settings.toJson (s : Settings) : Value :=
  .record (s.types.jsonMembers ++
    [("display", s.display.toJson),
     ("resolver", .record [("exclude_paths", .list .text s.excludePaths)])])

/-- Settings from JSON. What stands beside the display and the search must be plain even where it
does not matter. -/
def Settings.ofJson? (v : Value) : Except Mismatch Settings := do
  let ms ← v.members?
  ms.forM fun m => if sectionKeys.contains m.1 then .ok () else m.2.plain? maxBesideDepth
  let r := Record.named ms
  let display ← r.optional 0 ["display", "gui"] DisplaySettings.standard DisplaySettings.ofJson?
  let excludePaths ← r.optional 0 ["resolver"] [] excludePathsOfJson?
  let types ← TypeTable.ofRecord? r
  return { types, display, excludePaths }

def Settings.compact (s : Settings) : String :=
  s.toJson.compact

def Settings.read (text : String) : Except SettingsError Settings := do
  let s ← (decodeText Settings.ofJson? text).mapError .json
  s.validate.mapError .invalid
  return s

def Files.settings (files : Files) (path : String) : Except SettingsError Settings := do
  let text ← (files.read path).mapError .file
  Settings.read text

def settingsTarget : String := "struct_visualizer::config"

def Files.settingsEntries (files : Files) (path : String) : List LogEntry :=
  match files.settings path with
  | .error _ => []
  | .ok s =>
    [⟨.debug, settingsTarget,
      "Loaded config from " ++ path ++ " with " ++ decimal s.types.entries.length ++ " types"⟩]

end ByteGrid
