import ByteGrid.Files
import ByteGrid.Grid.Label
import ByteGrid.Json.Error
import ByteGrid.Search.Glob
import ByteGrid.TypeTable

namespace ByteGrid

structure DisplaySettings where
  byteWidth : Float
  packValue : Option Nat
  policy : LabelPolicy
  tailPadding : Bool
  useColor : Bool
deriving Repr

def DisplaySettings.standard : DisplaySettings :=
  { byteWidth := 80, packValue := none, policy := .adaptive, tailPadding := true, useColor := true }

structure Settings where
  types : TypeTable
  display : DisplaySettings
  excludePaths : List String
deriving Repr

def Settings.standard : Settings :=
  { types := .standard, display := .standard, excludePaths := [] }

inductive InvalidSettings where
  | byteWidth
  | packValue
  | pointer
  | alignment (typeName : String)
deriving Repr, DecidableEq

def InvalidSettings.message : InvalidSettings → String
  | .byteWidth => "byte_width must be greater than 0"
  | .packValue => "pack_value must be greater than 0"
  | .pointer => "pointer size and align must be greater than 0"
  | .alignment typeName => "type " ++ typeName ++ " has zero alignment"

inductive SettingsError where
  | file (e : FileError)
  | json (e : Json.Error)
  | invalid (e : InvalidSettings)
deriving Repr, DecidableEq

def SettingsError.message : SettingsError → String
  | .file e => "IO error: " ++ e.message
  | .json e => "JSON error: " ++ e.message
  | .invalid e => "Invalid config: " ++ e.message

namespace Settings

def filter (s : Settings) : PathFilter :=
  ⟨s.excludePaths⟩

def unalignedType? (s : Settings) : Option String :=
  (s.types.entries.find? (·.2.align == 0)).map (·.1)

def validate (s : Settings) : Except InvalidSettings Unit :=
  if !(s.display.byteWidth.isFinite && 0 < s.display.byteWidth) then .error .byteWidth
  else if s.display.packValue = some 0 then .error .packValue
  else if s.types.pointer.size = 0 ∨ s.types.pointer.align = 0 then .error .pointer
  else
    match s.unalignedType? with
    | some typeName => .error (.alignment typeName)
    | none => .ok ()

def withType (s : Settings) (name : String) (f : Footprint) : Settings :=
  { s with types := s.types.insert name f }

def withPointer (s : Settings) (pointer : Footprint) : Settings :=
  { s with types := s.types.withPointer pointer }

def withByteWidth (s : Settings) (byteWidth : Float) : Settings :=
  { s with display := { s.display with byteWidth } }

def withPolicy (s : Settings) (policy : LabelPolicy) : Settings :=
  { s with display := { s.display with policy } }

def withExcludePaths (s : Settings) (excludePaths : List String) : Settings :=
  { s with excludePaths }

end Settings

end ByteGrid
