import ByteGrid.Declaration.Parser
import ByteGrid.Files
import ByteGrid.Search.Glob
import ByteGrid.Source.Span

namespace ByteGrid

open ByteGrid.Text

structure Definition where
  path : String
  line : Nat
  text : String
deriving Repr, DecidableEq

def declares (text name : String) : Bool :=
  (parseStructs text.toList).any (·.name == name)

def definitionsIn (path source name : String) : List Definition :=
  ((structSpans source.toList).filter fun s => declares s.text name).map fun s =>
    ⟨path, s.startLine, s.text⟩

def Files.definitions (files : Files) (paths : List String) (name : String) : List Definition :=
  paths.flatMap fun path =>
    match files.read path with
    | .error _ => []
    | .ok source => definitionsIn path source name

structure LookupError where
  reason : String
deriving Repr, DecidableEq

def LookupError.message (e : LookupError) : String :=
  "Definition lookup failed: " ++ e.reason

def PathFilter.admitted (filter : PathFilter) (found : Except LookupError (List Definition)) :
    List Definition :=
  match found with
  | .error _ => []
  | .ok ds => ds.filter fun d => !filter.excludes d.path

def PathFilter.resolve (filter : PathFilter) (found : Except LookupError (List Definition)) :
    Option Definition :=
  (filter.admitted found).head?

def providerTarget : String := "struct_visualizer::resolve::provider"

def resolverTarget : String := "struct_visualizer::resolve"

def Files.definitionEntries (files : Files) (paths : List String) (name : String) : List LogEntry :=
  (paths.flatMap fun path =>
    match files.read path with
    | .error e => [⟨.warn, providerTarget, "Skipping " ++ path ++ ": " ++ e.message⟩]
    | .ok source =>
      spanEntries source.toList ++
        (structSpans source.toList).flatMap fun s => parseEntries s.text.toList) ++
    [⟨.debug, providerTarget,
      "Found " ++ decimal (files.definitions paths name).length ++ " definitions of " ++ name⟩]

def PathFilter.resolveEntries (filter : PathFilter) (name : String)
    (found : Except LookupError (List Definition)) : List LogEntry :=
  match found with
  | .error e =>
    [⟨.error, resolverTarget, "Failed to resolve type '" ++ name ++ "': " ++ e.message⟩]
  | .ok _ =>
    let ds := filter.admitted found
    if 1 < ds.length then
      [⟨.warn, resolverTarget,
        "Type '" ++ name ++ "' resolved to " ++ decimal ds.length ++ " files: " ++
          ", ".intercalate (ds.map (·.path))⟩]
    else []

end ByteGrid
