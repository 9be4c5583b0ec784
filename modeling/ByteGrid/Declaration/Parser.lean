import ByteGrid.Declaration.Member
import ByteGrid.Log

/-!
Finding struct declarations in C text. Two forms are known, `struct Name { .. } ..;` and
`typedef struct Tag { .. } Name ..;`, whose bodies hold no braces; a typedef with a tag is found in
both forms. Comments are taken out first, the line comments before the others.
-/

namespace ByteGrid

open ByteGrid.Text

def dropLineComments (inside : Bool) : List Char → List Char
  | [] => []
  | c :: cs =>
    if c = '\n' then c :: dropLineComments false cs
    else if inside then dropLineComments true cs
    else if c = '/' ∧ cs.head? = some '/' then dropLineComments true cs
    else c :: dropLineComments false cs

def hasCommentEnd : List Char → Bool
  | [] => false
  | c :: cs => (c = '*' ∧ cs.head? = some '/') || hasCommentEnd cs

/-- Where a place is in relation to block comments: outside, on the second sign of an opening,
inside, or on the second sign of an end. -/
inductive CommentPlace where
  | outside
  | opening
  | inside
  | closing

def dropBlockComments : CommentPlace → List Char → List Char
  | _, [] => []
  | .outside, c :: cs =>
    -- an opening without an end behind it is text
    if c = '/' ∧ cs.head? = some '*' ∧ hasCommentEnd cs.tail then dropBlockComments .opening cs
    else c :: dropBlockComments .outside cs
  | .opening, _ :: cs => dropBlockComments .inside cs
  | .inside, c :: cs =>
    if c = '*' ∧ cs.head? = some '/' then dropBlockComments .closing cs
    else dropBlockComments .inside cs
  | .closing, _ :: cs => dropBlockComments .outside cs

-- Two slashes in a block comment count as a line comment, too, since these are taken out first.
def normalize (code : List Char) : List Char :=
  squeeze (dropBlockComments .outside (dropLineComments false code))

def afterBlanks? : List Char → Option (List Char)
  | [] => none
  | c :: cs => if isBlank c then some (trimStart cs) else none

def splitWord? (cs : List Char) : Option (List Char × List Char) :=
  let word := cs.takeWhile isWordChar
  if word.isEmpty then none else some (word, cs.drop word.length)

def isBrace (c : Char) : Bool :=
  c == '\x7b' || c == '\x7d'

def splitBody? : List Char → Option (List Char × List Char)
  | [] => none
  | c :: cs =>
    let body := cs.takeWhile (!isBrace ·)
    match cs.drop body.length with
    | d :: rest => if c = '\x7b' ∧ d = '\x7d' then some (body, rest) else none
    | [] => none

def afterSemicolon? (cs : List Char) : Option (List Char) :=
  match cs.dropWhile fun c => !isBrace c && c != ';' with
  | ';' :: rest => some rest
  | _ => none

/-- A struct in C text: its name and its body, the number of characters before the place by which
it is ordered among the others, counted from where it starts, and what follows it. -/
structure StructText where
  name : List Char
  body : List Char
  place : Nat
  rest : List Char

def dropTag (cs : List Char) : List Char :=
  (do
    let rest ← afterBlanks? cs
    let (_, rest) ← splitWord? rest
    return rest).getD cs

def typedefStruct? (cs : List Char) : Option StructText := do
  let rest ← "typedef".toList.isPrefixOf? cs
  let rest ← afterBlanks? rest
  let rest ← "struct".toList.isPrefixOf? rest
  let (body, rest) ← splitBody? (trimStart (dropTag rest))
  let (name, rest) ← splitWord? (trimStart rest)
  let rest ← afterSemicolon? rest
  return { name, body, place := 0, rest }

def namedStruct? (cs : List Char) : Option StructText := do
  let atName ← "struct".toList.isPrefixOf? cs
  let atName ← afterBlanks? atName
  let (name, rest) ← splitWord? atName
  let (body, rest) ← splitBody? (trimStart rest)
  let rest ← afterSemicolon? rest
  return { name, body, place := cs.length - atName.length, rest }

/-- The structs of one form in a text, from left to right and not overlapping, each with the number
of characters before it. Of the text, `skip` characters belong to the struct before. -/
def structsFrom (form : List Char → Option StructText) (skip before : Nat) :
    List Char → List (Nat × StructText)
  | [] => []
  | c :: cs =>
    match skip with
    | skip + 1 => structsFrom form skip (before + 1) cs
    | 0 =>
      match form (c :: cs) with
      | some s => (before, s) :: structsFrom form (cs.length - s.rest.length) (before + 1) cs
      | none => structsFrom form 0 (before + 1) cs

def structs (form : List Char → Option StructText) (text : List Char) : List (Nat × StructText) :=
  structsFrom form 0 0 text

def allStructs (text : List Char) : List StructText :=
  ((structs typedefStruct? text).merge (structs namedStruct? text) fun a b =>
    a.1 + a.2.place ≤ b.1 + b.2.place).map (·.2)

def StructText.declaration (s : StructText) : Declaration :=
  { name := String.ofList s.name, members := readMembers s.body }

def distinctStructs (ss : List StructText) : List StructText :=
  ss.foldl (fun seen s => if seen.any (·.name == s.name) then seen else seen ++ [s]) []

def parseStructs (code : List Char) : List Declaration :=
  (distinctStructs (allStructs (normalize code))).map StructText.declaration

theorem parseStructs_of_untyped {code : List Char}
    (h : structs typedefStruct? (normalize code) = []) :
    parseStructs code = (distinctStructs ((structs namedStruct? (normalize code)).map (·.2))).map
      StructText.declaration := by
  rw [parseStructs, allStructs, h, List.nil_merge]

def firstStruct? (code : List Char) : Option Declaration :=
  (parseStructs code).head?

def leadingOf (form : List Char → Option StructText) (text : List Char) : Option StructText :=
  match structs form text with
  | [] => none
  | (before, s) :: _ => if (text.take before).any isBrace then none else some s

/-- The struct that opens a text: one with no brace before it, as a typedef if it is one. A text whose
first struct cannot be read has none, even if another one follows. -/
def leadingText? (code : List Char) : Option StructText :=
  let text := normalize code
  (leadingOf typedefStruct? text).or (leadingOf namedStruct? text)

def leadingStruct? (code : List Char) : Option Declaration :=
  (leadingText? code).map StructText.declaration

def pragma? (cs : List Char) : Option (List Char) := do
  let rest ← "#pragma".toList.isPrefixOf? cs
  let rest ← afterBlanks? rest
  let rest ← "pack".toList.isPrefixOf? rest
  let rest ← ['('].isPrefixOf? (trimStart rest)
  let rest := trimStart rest
  let rest := (do
    let more ← "push".toList.isPrefixOf? rest
    let more ← [','].isPrefixOf? (trimStart more)
    return trimStart more).getD rest
  let digits := rest.takeWhile isWordDigit
  guard (!digits.isEmpty)
  let _ ← [')'].isPrefixOf? (trimStart (rest.drop digits.length))
  return digits

def firstPragma? : List Char → Option (List Char)
  | [] => none
  | c :: cs => (pragma? (c :: cs)).or (firstPragma? cs)

def pragmaPack? (code : List Char) : Option Nat := do
  let digits ← firstPragma? code
  let pack ← number? wordBound digits
  guard (0 < pack)
  return pack

def parserTarget : String := "struct_visualizer::structure::parser"

def DeclarationNote.entry : DeclarationNote → LogEntry
  | .untyped declaration =>
    ⟨.trace, parserTarget, "Skipping declaration without a type: " ++ String.ofList declaration⟩
  | .overflow dims =>
    ⟨.warn, parserTarget, "Array dimensions in '" ++ String.ofList (trim dims) ++ "' overflow"⟩

def StructText.memberEntries (s : StructText) : List LogEntry :=
  (memberNotes s.body).map DeclarationNote.entry

def StructText.entries (s : StructText) : List LogEntry :=
  s.memberEntries ++
    [⟨.debug, parserTarget, "Parsed struct " ++ String.ofList s.name ++ " with " ++
      decimal (readMembers s.body).length ++ " fields"⟩]

def parseEntries (code : List Char) : List LogEntry :=
  (distinctStructs (allStructs (normalize code))).flatMap StructText.entries

def leadingEntries (code : List Char) : List LogEntry :=
  ((leadingText? code).map StructText.memberEntries).getD []

end ByteGrid
