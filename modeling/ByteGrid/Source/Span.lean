import ByteGrid.Json.Value
import ByteGrid.Log
import ByteGrid.Source.Scanner
import ByteGrid.Text.Basic
import ByteGrid.Text.Character

/-!
Where structs stand in source text. A struct starts on a line that begins with `struct` or
`typedef struct`, its body goes from the first brace to the matching one, and it ends on the first
line from there on that holds a semicolon. The search goes on behind it, so that a struct inside of
another one belongs to the outer one.
-/

namespace ByteGrid

open ByteGrid.Text

/-- The lines of a struct, counted from zero, and their text. -/
structure Span where
  startLine : Nat
  bodyOpenLine : Nat
  bodyCloseLine : Nat
  endLine : Nat
  text : String
deriving Repr, DecidableEq

def Span.bodyContains (s : Span) (line : Nat) : Bool :=
  s.bodyOpenLine ≤ line && line ≤ s.bodyCloseLine

def Span.lineCount (s : Span) : Nat :=
  s.endLine - s.startLine + 1

def Span.message (s : Span) : String :=
  "lines " ++ decimal s.startLine ++ "-" ++ decimal s.endLine ++ " (body " ++
    decimal s.bodyOpenLine ++ "-" ++ decimal s.bodyCloseLine ++ ")"

def afterTypedef? (cs : List Char) : Option (List Char) :=
  match "typedef".toList.isPrefixOf? cs with
  | some (c :: rest) => if isBlank c then some (trimStart rest) else none
  | _ => none

def opensStruct (line : List Char) : Bool :=
  let cs := trim line
  match "struct".toList.isPrefixOf? ((afterTypedef? cs).getD cs) with
  | some rest => rest.head?.all (!isWordChar ·)
  | none => false

def spanAt? (line : Nat) (ls : List (List Char)) : Option Span := do
  let (opening, s) := ({ line, column := 0, inComment := false, pending := ls } : Scanner).findOpening
  let opening ← opening
  let closing ← s.findMatching.1
  let toEnd := (ls.drop (closing.line - line)).findIdx? (·.contains ';')
  let endLine := closing.line + toEnd.getD 0
  return { startLine := line, bodyOpenLine := opening.line, bodyCloseLine := closing.line, endLine
           text := String.ofList (['\n'].intercalate (ls.take (endLine - line + 1))) }

inductive Sighting where
  | found (span : Span)
  | unterminated (line : Nat)
deriving Repr, DecidableEq

def sightings (line : Nat) : List (List Char) → List Sighting
  | [] => []
  | l :: ls =>
    if opensStruct l then
      match spanAt? line (l :: ls) with
      | some s => .found s :: sightings (s.endLine + 1) (ls.drop (s.endLine - line))
      | none => .unterminated line :: sightings (line + 1) ls
    else sightings (line + 1) ls
termination_by ls => ls.length
decreasing_by all_goals simp; try omega

def Sighting.span? : Sighting → Option Span
  | .found s => some s
  | .unterminated _ => none

def structSpans (source : List Char) : List Span :=
  (sightings 0 (lines source)).filterMap Sighting.span?

def enclosingStruct? (source : List Char) (line : Nat) : Option Span :=
  if line < (lines source).length then (structSpans source).find? (·.bodyContains line) else none

def locatorTarget : String := "struct_visualizer::locator"

def Sighting.entry : Sighting → LogEntry
  | .found s => ⟨.trace, locatorTarget, "Struct candidate at " ++ s.message⟩
  | .unterminated line =>
    ⟨.trace, locatorTarget, "Discarding unterminated struct starting at line " ++ decimal line⟩

def spanEntries (source : List Char) : List LogEntry :=
  (sightings 0 (lines source)).map Sighting.entry

def enclosingEntries (source : List Char) (line : Nat) : List LogEntry :=
  let note (text : String) : LogEntry := ⟨.debug, locatorTarget, text⟩
  if line < (lines source).length then
    spanEntries source ++
      [match enclosingStruct? source line with
        | some s => note ("Cursor line " ++ decimal line ++ " is inside struct at " ++ s.message)
        | none => note ("No struct body contains line " ++ decimal line)]
  else
    [note ("Cursor line " ++ decimal line ++ " is outside " ++ decimal (lines source).length ++ " lines")]

def Span.toJson (s : Span) : Json.Value :=
  .record
    [("start_line", .nat s.startLine), ("body_open_line", .nat s.bodyOpenLine),
     ("body_close_line", .nat s.bodyCloseLine), ("end_line", .nat s.endLine),
     ("text", .text s.text)]

end ByteGrid
