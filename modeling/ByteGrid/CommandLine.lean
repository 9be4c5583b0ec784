import ByteGrid.Decimal.Written
import ByteGrid.Files
import ByteGrid.Grid
import ByteGrid.Text.Printable

namespace ByteGrid

open ByteGrid.Decimal ByteGrid.Text

/-- A line of a source file; lines are counted from one. -/
structure SourceLine where
  file : String
  line : Nat
deriving Repr, DecidableEq

structure LayoutOptions where
  pack : Option Nat
  search : List String
deriving Repr, DecidableEq

structure DrawOptions where
  scale : Option Float
  policy : Option LabelPolicy
  noTailPadding : Bool
deriving Repr

inductive Command where
  | locate (place : SourceLine)
  | layout (place : SourceLine) (options : LayoutOptions)
  | render (input : String) (drawing : DrawOptions)
  | visualize (place : SourceLine) (options : LayoutOptions) (drawing : DrawOptions)
deriving Repr

structure Invocation where
  logLevel : String
  quiet : Bool
  noColor : Bool
  json : Bool
  config : Option String
  command : Command
deriving Repr

def Command.paths : Command → List String
  | .locate place => [place.file]
  | .layout place options => place.file :: options.search
  | .render input _ => [input]
  | .visualize place options _ => place.file :: options.search

inductive ArgumentError where
  | noSource (path : String)
  | noLayout (path : String)
  | lineZero
  | packZero
  | badScale (scale : Float)
deriving Repr

def ArgumentError.message : ArgumentError → String
  | .noSource path => "Source file does not exist: " ++ quoted path
  | .noLayout path => "Layout file does not exist: " ++ quoted path
  | .lineZero => "Line numbers start at 1"
  | .packZero => "Pack value must be at least 1"
  | .badScale scale => "Scale must be a positive number, got " ++ FloatStyle.message.write scale

def SourceLine.check (files : Files) (place : SourceLine) : Except ArgumentError Unit :=
  if !files.contains place.file then .error (.noSource place.file)
  else if place.line = 0 then .error .lineZero
  else .ok ()

def LayoutOptions.check (options : LayoutOptions) : Except ArgumentError Unit :=
  if options.pack = some 0 then .error .packZero else .ok ()

def DrawOptions.check (drawing : DrawOptions) : Except ArgumentError Unit :=
  match drawing.scale with
  | some scale => if isScale scale then .ok () else .error (.badScale scale)
  | none => .ok ()

def Command.check (files : Files) : Command → Except ArgumentError Unit
  | .locate place => place.check files
  | .layout place options => do
    place.check files
    options.check
  | .render input drawing =>
    if files.contains input then drawing.check else .error (.noLayout input)
  | .visualize place options drawing => do
    place.check files
    options.check
    drawing.check

end ByteGrid
