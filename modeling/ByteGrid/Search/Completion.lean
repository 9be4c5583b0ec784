import ByteGrid.Catalog
import ByteGrid.Search.Definition

namespace ByteGrid

open ByteGrid.Text

inductive CompletionError where
  | unresolved (typeName : String)
  | unusable (typeName : String)
  | layout (e : LayoutError)
  | tooManyTypes (attempts : Nat) (name : String)
deriving Repr, DecidableEq

def CompletionError.message : CompletionError → String
  | .unresolved typeName =>
    "Unknown type '" ++ typeName ++
      "': add it to the config types or pass a file defining it with --search"
  | .unusable typeName => "Definition of '" ++ typeName ++ "' could not be parsed"
  | .layout e => e.message
  | .tooManyTypes attempts name =>
    "Gave up after resolving " ++ decimal attempts ++ " types for " ++ name

structure Resolved where
  typeName : String
  definition : Definition
deriving Repr, DecidableEq

def Resolved.declarations (r : Resolved) : List Declaration :=
  parseStructs r.definition.text.toList

/-- How a struct came to its layout: the types that had to be looked up, in order, and the layout or
why there is none. -/
structure Completion where
  resolved : List Resolved
  result : Except CompletionError Layout

def Completion.after (c : Completion) (r : Resolved) : Completion :=
  { c with resolved := r :: c.resolved }

/-- A layout failed; if the reason is an unknown type with a definition, `retry` goes on from there. -/
def completeFrom (lookup : String → Option Definition) (retry : Resolved → Completion) :
    Except LayoutError Layout → Completion
  | .ok l => ⟨[], .ok l⟩
  | .error (.unknownType name) =>
    match lookup name with
    | none => ⟨[], .error (.unresolved name)⟩
    | some definition =>
      if declares definition.text name then retry ⟨name, definition⟩
      else ⟨[], .error (.unusable name)⟩
  | .error e => ⟨[], .error (.layout e)⟩

namespace Catalog

def learn (c : Catalog) (r : Resolved) : Catalog :=
  c.addAll r.declarations

/-- Tries a layout at most `attempts` times of `limit`, each time with one more type known. -/
def completeWithin (limit : Nat) (lookup : String → Option Definition) (d : Declaration)
    (pack : Option Nat) : Nat → Catalog → Completion
  | 0, _ => ⟨[], .error (.tooManyTypes limit d.name)⟩
  | attempts + 1, c =>
    completeFrom lookup
      (fun r => (completeWithin limit lookup d pack attempts (c.learn r)).after r) (c.layout d pack)

def maxAttempts : Nat := 32

def complete (c : Catalog) (lookup : String → Option Definition) (d : Declaration)
    (pack : Option Nat) : Completion :=
  completeWithin maxAttempts lookup d pack maxAttempts c

def learnAll (c : Catalog) (rs : List Resolved) : Catalog :=
  rs.foldl learn c

end Catalog

end ByteGrid
