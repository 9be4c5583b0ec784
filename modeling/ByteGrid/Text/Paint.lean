namespace ByteGrid.Text

inductive Ink where
  | boldCyan
  | boldRed
  | green
  | dim
  | red
  | magenta
  | blue
  | cyan
  | yellow
  | bold
  | grey
deriving Repr, DecidableEq

def Ink.code : Ink → String
  | .boldCyan => "1;36"
  | .boldRed => "1;31"
  | .green => "32"
  | .dim => "2"
  | .red => "31"
  | .magenta => "35"
  | .blue => "34"
  | .cyan => "36"
  | .yellow => "33"
  | .bold => "1"
  | .grey => "90"

def inkOff : List Char := "\x1b[0m".toList

def Ink.on (ink : Ink) : List Char :=
  "\x1b[".toList ++ ink.code.toList ++ ['m']

def light (inks : List Ink) (text : String) : String :=
  String.ofList (inks.flatMap Ink.on ++ text.toList ++ inkOff)

/-- A text in which each place that turns looks off is followed by `again`. -/
def relight (again : List Char) : List Char → List Char
  | [] => []
  | '\x1b' :: '[' :: '0' :: 'm' :: cs => inkOff ++ again ++ relight again cs
  | c :: cs => c :: relight again cs

def paint (colors : Bool) (ink : Ink) (text : String) : String :=
  if colors then String.ofList (ink.on ++ relight ink.on text.toList ++ inkOff) else text

end ByteGrid.Text
