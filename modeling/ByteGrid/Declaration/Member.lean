import ByteGrid.Declaration
import ByteGrid.Text.Basic
import ByteGrid.Text.Character

namespace ByteGrid

open ByteGrid.Text

def bracketed (inside : Option (List Char)) : List Char → List (List Char)
  | [] => []
  | c :: cs =>
    match inside with
    | none => bracketed (if c = '[' then some [] else none) cs
    | some text =>
      if c = ']' then text.reverse :: bracketed none cs else bracketed (some (c :: text)) cs

def dimensions (cs : List Char) : List Nat :=
  (bracketed none cs).filterMap fun d => number? wordBound (trim d)

def wordProduct? (ns : List Nat) : Option Nat :=
  ns.foldl (fun acc n => acc.bind fun m => if m * n < wordBound then some (m * n) else none) (some 1)

-- An array that is too large gets the largest length, for which no layout has room.
def arrayLength (cs : List Char) : Nat :=
  (wordProduct? (dimensions cs)).getD (wordBound - 1)

def afterFirst (word : List Char) : List Char → Option (List Char)
  | [] => none
  | c :: cs =>
    match word.isPrefixOf? (c :: cs) with
    | some rest => some rest
    | none => afterFirst word cs

def splitLast (sep : Char) (cs : List Char) : Option (List Char × List Char) :=
  match cs.reverse.dropWhile (· ≠ sep) with
  | [] => none
  | _ :: before => some (before.reverse, (cs.reverse.takeWhile (· ≠ sep)).reverse)

/-- What a declarator says besides the type: its words, of which the last one is the name, whether
there is a star among them, the text that holds its dimensions, and its width in bits. -/
structure Declarator where
  words : List (List Char)
  isPointer : Bool
  dimensions : List Char
  bitWidth : Option Nat

def bitWidth? (cs : List Char) : Option (List Char × Nat) := do
  let (before, after) ← splitLast ':' cs
  let digits := trim after
  guard (digits.all Char.isDigit)
  let bits ← number? halfWordBound digits
  return (before, bits)

def Declarator.read? (cs : List Char) : Option Declarator := do
  let cs := trim cs
  let head := cs.takeWhile fun c => c != '[' && c != ':'
  let words := Text.words (head.map fun c => if c = '*' then ' ' else c)
  let name ← words.getLast?
  guard (isIdentifier name)
  let width := bitWidth? cs
  return { words, isPointer := head.contains '*'
           dimensions := (width.map (·.1)).getD cs
           bitWidth := width.map (·.2) }

def Declarator.name (d : Declarator) : List Char :=
  d.words.getLastD []

def ignoredWords : List (List Char) :=
  ["const", "volatile", "struct", "register", "mutable"].map String.toList

def Declarator.typeWords (d : Declarator) : List (List Char) :=
  d.words.dropLast.filter (!ignoredWords.contains ·)

def Declarator.member (d : Declarator) (typeName : List Char) : Member :=
  { name := String.ofList d.name
    typeName := String.ofList typeName
    isPointer := d.isPointer
    isFunctionPointer := false
    arrayLength := ByteGrid.arrayLength d.dimensions
    bitWidth := d.bitWidth }

def functionPointerSign : List Char := ['(', '*']

def functionPointer? (cs : List Char) : Option (List Char × List Char) :=
  let inner := trim (cs.takeWhile (· ≠ ')'))
  let name := inner.takeWhile fun c => isAlphanumeric c || c == '_'
  if cs.contains ')' && isIdentifier name then some (name, inner.drop name.length) else none

def functionPointerMember (name dimensions : List Char) : Member :=
  { Member.functionPointer (String.ofList name) with
    arrayLength := ByteGrid.arrayLength dimensions }

/-- Reads the members of one declaration. All declarators share the type of the first one, and if
that one cannot be read, none is. -/
def readDeclaration (cs : List Char) : List Member :=
  match afterFirst functionPointerSign cs with
  | some rest =>
    match functionPointer? rest with
    | some (name, dims) => [functionPointerMember name dims]
    | none => []
  | none =>
    match cs.splitOn ',' with
    | [] => []
    | first :: others =>
      match Declarator.read? first with
      | none => []
      | some d =>
        if d.typeWords.isEmpty then []
        else
          (d :: others.filterMap Declarator.read?).map (·.member (joinWords d.typeWords))

def declarations (body : List Char) : List (List Char) :=
  ((body.splitOn ';').map squeeze).filter (!·.isEmpty)

def readMembers (body : List Char) : List Member :=
  (declarations body).flatMap readDeclaration

inductive DeclarationNote where
  | untyped (declaration : List Char)
  | overflow (dimensions : List Char)

def dimensionNotes (dims : List Char) : List DeclarationNote :=
  if (wordProduct? (dimensions dims)).isNone then [.overflow dims] else []

def declarationNotes (cs : List Char) : List DeclarationNote :=
  match afterFirst functionPointerSign cs with
  | some rest => ((functionPointer? rest).map fun p => dimensionNotes p.2).getD []
  | none =>
    match cs.splitOn ',' with
    | [] => []
    | first :: others =>
      match Declarator.read? first with
      | none => []
      | some d =>
        dimensionNotes d.dimensions ++
          if d.typeWords.isEmpty then [.untyped cs]
          else (others.filterMap Declarator.read?).flatMap fun d => dimensionNotes d.dimensions

def memberNotes (body : List Char) : List DeclarationNote :=
  (declarations body).flatMap declarationNotes

end ByteGrid
