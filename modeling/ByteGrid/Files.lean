/-!
The files that a run may read. They do not change while it goes on.
-/

namespace ByteGrid

inductive FileError where
  | notFound
  | notFolder
  | isFolder
  | nameTooLong
  | nulInPath
  | notText
deriving Repr, DecidableEq

def FileError.message : FileError → String
  | .notFound => "No such file or directory (os error 2)"
  | .notFolder => "Not a directory (os error 20)"
  | .isFolder => "Is a directory (os error 21)"
  | .nameTooLong => "File name too long (os error 36)"
  | .nulInPath => "file name contained an unexpected NUL byte"
  | .notText => "stream did not contain valid UTF-8"

inductive Entry where
  | folder
  | file (bytes : ByteArray)

structure Files where
  find : String → Except FileError Entry

def Files.ofList (found : List (String × Except FileError Entry)) : Files :=
  ⟨fun path => (found.find? (·.1 == path)).elim (.error .notFound) (·.2)⟩

def Files.contains (files : Files) (path : String) : Bool :=
  match files.find path with
  | .ok _ => true
  | .error _ => false

def Files.read (files : Files) (path : String) : Except FileError String :=
  match files.find path with
  | .error e => .error e
  | .ok .folder => .error .isFolder
  | .ok (.file bytes) =>
    match String.fromUTF8? bytes with
    | some text => .ok text
    | none => .error .notText

theorem Files.read_toUTF8 {files : Files} {path text : String}
    (h : files.find path = .ok (.file text.toUTF8)) : files.read path = .ok text := by
  have hvalid : String.fromUTF8? text.toUTF8 = some text := dif_pos text.isValidUTF8
  simp only [Files.read, h, hvalid]

def pathParts (path : String) : List String :=
  (path.toList.splitOn '/').map String.ofList

/-- The names on a path, as far as they tell paths apart: a path from the root starts with an empty
name, and a single dot matters only where a path starts with it. -/
def pathNames (path : String) : List String :=
  match pathParts path with
  | [] => []
  | first :: rest =>
    (if first.isEmpty ∧ rest.isEmpty then [] else [first]) ++
      rest.filter fun name => name != "" && name != "."

end ByteGrid
