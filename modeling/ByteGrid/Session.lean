import ByteGrid.Catalog
import ByteGrid.CommandLine
import ByteGrid.Exchange.Json
import ByteGrid.Grid.Json
import ByteGrid.Grid.Text
import ByteGrid.Outcome
import ByteGrid.Search.Completion
import ByteGrid.Settings
import ByteGrid.Source.Span

namespace ByteGrid

open ByteGrid.Decimal ByteGrid.Text

structure Session where
  files : Files
  settings : Settings
  json : Bool
  quiet : Bool
  colors : Bool

def commandTarget : String := "struct_visualizer::ui::cli::handler"

def ArgumentError.failure (e : ArgumentError) : Failure :=
  .of e.message

def RenderError.failure (e : RenderError) : Failure :=
  match e with
  | .invalidScale _ => .of e.message
  | .violation cause => ⟨e.message, [cause.message]⟩

namespace Session

def read (s : Session) (path : String) : Outcome String :=
  .ofExcept (fun e => (Failure.of e.message).during ("Failed to read " ++ path)) (s.files.read path)

def enclosing (source : String) (place : SourceLine) : Outcome Span := do
  .note (enclosingEntries source.toList (place.line - 1))
  match enclosingStruct? source.toList (place.line - 1) with
  | some span => return span
  | none =>
    .fail (.of ("No struct body encloses " ++ place.file ++ ":" ++ decimal place.line))

def searchPaths (file : String) (search : List String) : List String :=
  file :: search.filter fun path => pathNames path != pathNames file

def declarationOf (span : Span) : Outcome Declaration := do
  .note (leadingEntries span.text.toList)
  match leadingStruct? span.text.toList with
  | some d => return d
  | none =>
    .fail ((Failure.of LayoutError.noStruct.message).during
      ("Struct at line " ++ decimal (span.startLine + 1) ++
        " could not be parsed (nested struct bodies are not supported)"))

def lookup (s : Session) (paths : List String) (name : String) : Option Definition :=
  s.settings.filter.resolve (.ok (s.files.definitions paths name))

def lookupEntries (s : Session) (paths : List String) (name : String) : List LogEntry :=
  s.files.definitionEntries paths name ++
    s.settings.filter.resolveEntries name (.ok (s.files.definitions paths name))

def resolvedEntries (s : Session) (paths : List String) (r : Resolved) : List LogEntry :=
  s.lookupEntries paths r.typeName ++ parseEntries r.definition.text.toList ++
    [⟨.info, commandTarget, "Resolved type " ++ r.typeName⟩]

def completionEntries (s : Session) (paths : List String) (d : Declaration) (c : Completion) :
    List LogEntry :=
  c.resolved.flatMap (s.resolvedEntries paths) ++
    match c.result with
    | .ok l => [d.layoutEntry l]
    | .error (.unresolved name) => s.lookupEntries paths name
    | .error (.unusable name) =>
      s.lookupEntries paths name ++
        (s.lookup paths name).elim [] fun definition => parseEntries definition.text.toList
    | .error _ => []

/-- The pack value of a source text: as it is asked for, as the settings say, or as the text says. -/
def packOf (s : Session) (options : LayoutOptions) (source : String) : Option Nat :=
  (options.pack.or s.settings.display.packValue).or (pragmaPack? source.toList)

def complete (s : Session) (source : String) (paths : List String) (options : LayoutOptions)
    (d : Declaration) : Completion :=
  ((Catalog.ofTypes s.settings.types).addAll (parseStructs source.toList)).complete (s.lookup paths) d
    (s.packOf options source)

def layout (s : Session) (source : String) (span : Span) (file : String) (options : LayoutOptions) :
    Outcome Layout := do
  let d ← declarationOf span
  .note (parseEntries source.toList)
  let paths := searchPaths file options.search
  let completion := s.complete source paths options d
  .note (s.completionEntries paths d completion)
  .ofExcept (fun e => .of e.message) completion.result

def layoutAt (s : Session) (place : SourceLine) (options : LayoutOptions) : Outcome Layout := do
  let source ← s.read place.file
  let span ← enclosing source place
  s.layout source span place.file options

def gridStyle (s : Session) (drawing : DrawOptions) : GridStyle :=
  { policy := drawing.policy.getD s.settings.display.policy
    tailPadding := s.settings.display.tailPadding && !drawing.noTailPadding }

def grid (s : Session) (l : Layout) (drawing : DrawOptions) : Outcome Grid := do
  let g ← .ofExcept RenderError.failure
    ((s.gridStyle drawing).render l (drawing.scale.getD s.settings.display.byteWidth))
  .note [g.entry]
  return g

def usageEntries (s : Session) (u : Usage) : List LogEntry :=
  if u.isLow && !s.quiet then
    [⟨.warn, commandTarget,
      "Only " ++ oneDecimal u.efficiency ++ "% of " ++ decimal u.totalSize ++ " bytes hold data"⟩]
  else []

def print (s : Session) (g : Grid) : Outcome String := do
  if s.json then return (g.toJson true).pretty ++ "\n"
  else
    .note (s.usageEntries g.usage)
    return (TextStyle.standard s.colors).draw g

def spanHeader (span : Span) : String :=
  "Struct at lines " ++ decimal (span.startLine + 1) ++ "-" ++ decimal (span.endLine + 1) ++
    " (body " ++ decimal (span.bodyOpenLine + 1) ++ "-" ++ decimal (span.bodyCloseLine + 1) ++ ")"

def showSpan (s : Session) (span : Span) : String :=
  if s.json then span.toJson.pretty ++ "\n"
  else
    (if s.quiet then "" else paint s.colors .cyan (spanHeader span) ++ "\n") ++ span.text ++ "\n"

def loadLayout (s : Session) (path : String) : Outcome Layout := do
  let text ← s.read path
  let document ← .ofExcept (fun e => (Failure.of e.message).during ("JSON error: " ++ e.message))
    (LayoutDocument.read text)
  let l ← .ofExcept (fun e => .of e.message) document.layout?
  .note [⟨.info, commandTarget,
    "Loaded layout " ++ shownName l.name ++ " with " ++ decimal l.fields.length ++ " fields"⟩]
  return l

def perform (s : Session) : Command → Outcome String
  | .locate place => do
    let source ← s.read place.file
    let span ← enclosing source place
    return s.showSpan span
  | .layout place options => do
    let l ← s.layoutAt place options
    return (LayoutDocument.ofLayout l).pretty ++ "\n"
  | .render input drawing => do
    let l ← s.loadLayout input
    let g ← s.grid l drawing
    s.print g
  | .visualize place options drawing => do
    let l ← s.layoutAt place options
    let g ← s.grid l drawing
    s.print g

def execute (s : Session) (c : Command) : Outcome String := do
  .ofExcept ArgumentError.failure (c.check s.files)
  s.perform c

end Session

end ByteGrid
