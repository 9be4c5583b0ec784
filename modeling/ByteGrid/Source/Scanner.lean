/-!
Braces in source text. A scanner goes through lines and reports the braces that are neither commented
out nor escaped. A block comment goes on over line ends; a line comment and an escape end with their
line. Strings do not matter: a brace between quotes is a brace.
-/

namespace ByteGrid

inductive Brace where
  | opening
  | closing
deriving Repr, DecidableEq

/-- A brace with its line and its column, both counted from zero, the column in bytes. -/
structure BraceHit where
  line : Nat
  column : Nat
  brace : Brace
deriving Repr, DecidableEq

/-- What a line holds from some column on: a brace, with the rest of the line behind it, or none; then
it matters whether the line ends inside of a block comment. -/
inductive LineScan where
  | hit (brace : Brace) (column : Nat) (rest : List Char)
  | finished (inComment : Bool)
deriving Repr, DecidableEq

def scanLine (inComment escaped : Bool) (column : Nat) : List Char → LineScan
  | [] => .finished inComment
  | c :: cs =>
    if escaped then scanLine inComment false (column + c.utf8Size) cs
    else if c = '\\' then scanLine inComment true (column + 1) cs
    else if inComment then
      match c, cs with
      | '*', '/' :: rest => scanLine false false (column + 2) rest
      | c, cs => scanLine true false (column + c.utf8Size) cs
    else
      match c, cs with
      | '/', '/' :: _ => .finished false
      | '/', '*' :: rest => scanLine true false (column + 2) rest
      | '\x7b', rest => .hit .opening column rest
      | '\x7d', rest => .hit .closing column rest
      | c, cs => scanLine false false (column + c.utf8Size) cs

/-- A place in the text: the line, the column in bytes, whether it is inside of a block comment, and
what follows, the rest of the line first. -/
structure Scanner where
  line : Nat
  column : Nat
  inComment : Bool
  pending : List (List Char)
deriving Repr, DecidableEq

namespace Scanner

def start (lines : List (List Char)) (line : Nat) : Scanner :=
  { line, column := 0, inComment := false, pending := lines.drop line }

def nextFrom (line column : Nat) (inComment : Bool) : List (List Char) → Option BraceHit × Scanner
  | [] => (none, { line, column, inComment, pending := [] })
  | cs :: ls =>
    match scanLine inComment false column cs with
    | .hit brace column rest =>
      (some ⟨line, column, brace⟩,
        { line, column := column + 1, inComment := false, pending := rest :: ls })
    | .finished inComment => nextFrom (line + 1) 0 inComment ls

def next (s : Scanner) : Option BraceHit × Scanner :=
  nextFrom s.line s.column s.inComment s.pending

def size (s : Scanner) : Nat :=
  s.pending.flatten.length

theorem scanLine_hit_length {inComment escaped : Bool} {column : Nat} {cs : List Char} {b : Brace}
    {n : Nat} {rest : List Char} (h : scanLine inComment escaped column cs = .hit b n rest) :
    rest.length < cs.length := by
  fun_induction scanLine inComment escaped column cs <;> simp_all <;> omega

theorem nextFrom_size_lt {line column : Nat} {inComment : Bool} {ls : List (List Char)}
    {hit : BraceHit} (h : (nextFrom line column inComment ls).1 = some hit) :
    (nextFrom line column inComment ls).2.size < ls.flatten.length := by
  induction ls generalizing line column inComment with
  | nil => simp [nextFrom] at h
  | cons cs ls ih =>
    unfold nextFrom at h ⊢
    split
    · rename_i scanned
      have := scanLine_hit_length scanned
      simp only [size, List.flatten_cons, List.length_append]
      omega
    · rename_i scanned
      simp only [scanned] at h
      have := ih h
      rw [List.flatten_cons, List.length_append]
      omega

theorem next_size_lt {s : Scanner} {hit : BraceHit} (h : s.next.1 = some hit) :
    s.next.2.size < s.size :=
  nextFrom_size_lt h

def findOpening (s : Scanner) : Option BraceHit × Scanner :=
  match _found : s.next.1 with
  | none => (none, s.next.2)
  | some hit => if hit.brace = .opening then (some hit, s.next.2) else s.next.2.findOpening
termination_by s.size
decreasing_by exact next_size_lt _found

/-- Goes on to the closing brace of the innermost of so many braces that are open. -/
def findClosing (depth : Nat) (s : Scanner) : Option BraceHit × Scanner :=
  match _found : s.next.1 with
  | none => (none, s.next.2)
  | some hit =>
    match hit.brace with
    | .opening => s.next.2.findClosing (depth + 1)
    | .closing => if depth ≤ 1 then (some hit, s.next.2) else s.next.2.findClosing (depth - 1)
termination_by s.size
decreasing_by all_goals exact next_size_lt _found

def findMatching (s : Scanner) : Option BraceHit × Scanner :=
  s.findClosing 1

end Scanner

end ByteGrid
