import ByteGrid.Files

namespace ByteGrid

structure Folder where
  files : List (List String × ByteArray)

/-- Where a way leads: to a folder, with the names that lead there unless it lies outside, or to a
file. -/
inductive Spot where
  | folder (names : Option (List String))
  | file (bytes : ByteArray)

namespace Folder

def ofList (files : List (String × ByteArray)) : Folder :=
  ⟨files.map fun f => ((pathNames f.1).filter (· ≠ "."), f.2)⟩

def hasFolder (folder : Folder) (names : List String) : Bool :=
  names.isEmpty || folder.files.any fun f => names.isPrefixOf f.1

def file? (folder : Folder) (names : List String) : Option ByteArray :=
  (folder.files.find? (·.1 == names)).map (·.2)

def maxNameLength : Nat := 255

def pathLengthBound : Nat := 4096

def walk (folder : Folder) (place : Option (List String)) : List String → Except FileError Spot
  | [] => .ok (.folder place)
  | name :: rest =>
    if name = "" ∨ name = "." then folder.walk place rest
    else if name = ".." then
      folder.walk (place.bind fun names => if names.isEmpty then none else some names.dropLast) rest
    else if maxNameLength < name.utf8ByteSize then .error .nameTooLong
    else
      match place with
      | none => .error .notFound
      | some names =>
        match folder.file? (names ++ [name]) with
        | some bytes => if rest.isEmpty then .ok (.file bytes) else .error .notFolder
        | none =>
          if folder.hasFolder (names ++ [name]) then folder.walk (some (names ++ [name])) rest
          else .error .notFound

def origin (path : String) : Option (List String) :=
  if path.startsWith "/" then none else some []

def checkPath (path : String) : Except FileError Unit :=
  if path.contains '\x00' then .error .nulInPath
  else if path.isEmpty then .error .notFound
  else if pathLengthBound ≤ path.utf8ByteSize then .error .nameTooLong
  else .ok ()

def find (folder : Folder) (path : String) : Except FileError Entry := do
  checkPath path
  match ← folder.walk (origin path) (pathParts path) with
  | .folder _ => return .folder
  | .file bytes => return .file bytes

def toFiles (folder : Folder) : Files :=
  ⟨folder.find⟩

def setFile (names : List String) (bytes : ByteArray) :
    List (List String × ByteArray) → List (List String × ByteArray)
  | [] => [(names, bytes)]
  | f :: fs => if f.1 = names then (names, bytes) :: fs else f :: setFile names bytes fs

def write (folder : Folder) (path : String) (bytes : ByteArray) : Except FileError Folder := do
  checkPath path
  let names := (pathParts path).reverse.dropWhile (·.isEmpty)
  let name := names.headD "."
  match ← folder.walk (origin path) (names.tail.reverse ++ ["."]) with
  | .file _ => throw .notFolder
  | .folder place =>
    if name = "." ∨ name = ".." ∨ path.endsWith "/" then throw .isFolder
    else if maxNameLength < name.utf8ByteSize then throw .nameTooLong
    else
      match place with
      | none => throw .notFound
      | some parent =>
        let target := parent ++ [name]
        if (folder.file? target).isNone ∧ folder.hasFolder target then throw .isFolder
        else return ⟨setFile target bytes folder.files⟩

end Folder

end ByteGrid
