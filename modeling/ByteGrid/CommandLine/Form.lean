import ByteGrid.CommandLine.Slot

namespace ByteGrid

inductive CommandName where
  | locate
  | layout
  | render
  | visualize
deriving Repr, DecidableEq

def CommandName.ofText? : String → Option CommandName
  | "locate" => some .locate
  | "layout" => some .layout
  | "render" => some .render
  | "visualize" => some .visualize
  | _ => none

def helpWord : String := "help"

def isCommandWord (word : String) : Bool :=
  word == helpWord || (CommandName.ofText? word).isSome

structure Form where
  longs : List (String × Slot)
  letters : List (Char × Slot)
  places : List Slot
  hasCommands : Bool

namespace Form

def long? (form : Form) (name : String) : Option Slot :=
  (form.longs.find? (·.1 == name)).map (·.2)

def letter? (form : Form) (letter : Char) : Option Slot :=
  (form.letters.find? (·.1 == letter)).map (·.2)

def commonLongs : List (String × Slot) :=
  [("log-level", .logLevel), ("quiet", .quiet), ("no-color", .noColor), ("config", .config),
   ("json", .json), ("help", .help)]

def commonLetters : List (Char × Slot) :=
  [('l', .logLevel), ('q', .quiet), ('c', .config), ('h', .help)]

def outer : Form :=
  { longs := commonLongs ++ [("version", .version)]
    letters := commonLetters ++ [('V', .version)]
    places := []
    hasCommands := true }

def inner (longs : List (String × Slot)) (letters : List (Char × Slot)) (places : List Slot) : Form :=
  { longs := commonLongs ++ longs, letters := commonLetters ++ letters, places
    hasCommands := false }

def drawLongs : List (String × Slot) :=
  [("scale", .scale), ("policy", .policy), ("no-tail-padding", .noTailPadding)]

def layoutLongs : List (String × Slot) :=
  [("pack", .pack), ("search", .search)]

end Form

def CommandName.form : CommandName → Form
  | .locate => .inner [] [] [.file, .line]
  | .layout => .inner Form.layoutLongs [('p', .pack), ('s', .search)] [.file, .line]
  | .render => .inner Form.drawLongs [('s', .scale)] [.file]
  | .visualize =>
    .inner (Form.layoutLongs ++ Form.drawLongs) [('p', .pack), ('s', .scale)] [.file, .line]

end ByteGrid
