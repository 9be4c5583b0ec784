/-!
Path patterns. In a pattern, `**` stands for any run of characters on one line, `*` for any run
without a slash, and every other character for itself. A pattern speaks of whole paths.
-/

namespace ByteGrid

inductive GlobPart where
  | anything
  | withinName
  | literal (c : Char)
deriving Repr, DecidableEq

def globParts : List Char → List GlobPart
  | [] => []
  | '*' :: '*' :: cs => .anything :: globParts cs
  | '*' :: cs => .withinName :: globParts cs
  | c :: cs => .literal c :: globParts cs

namespace GlobPart

def isRun : GlobPart → Bool
  | .literal _ => false
  | _ => true

def admits : GlobPart → Char → Bool
  | .anything, c => c != '\n'
  | .withinName, c => c != '/'
  | .literal d, c => c == d

/-- Given for a text and all its suffixes, the longest first, whether some parts match, the same for
these parts with one more before them. -/
def before (p : GlobPart) : List Char → List Bool → List Bool
  | [], after => [p.isRun && after.headD false]
  | c :: cs, after =>
    let shorter := p.before cs after.tail
    let here :=
      if p.isRun then after.headD false || (p.admits c && shorter.headD false)
      else p.admits c && after.tail.headD false
    here :: shorter

end GlobPart

def suffixMatches (cs : List Char) : List GlobPart → List Bool
  | [] => List.replicate cs.length false ++ [true]
  | p :: ps => p.before cs (suffixMatches cs ps)

def globMatches (pattern path : String) : Bool :=
  (suffixMatches path.toList (globParts pattern.toList)).headD false

structure PathFilter where
  patterns : List String
deriving Repr, DecidableEq

def PathFilter.excludes (f : PathFilter) (path : String) : Bool :=
  f.patterns.any (globMatches · path)

end ByteGrid
