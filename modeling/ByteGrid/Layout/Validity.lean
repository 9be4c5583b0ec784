import ByteGrid.Layout

namespace ByteGrid

open ByteGrid.Text

inductive Violation where
  | unsortedFields (field : String) (offset previous : Nat)
  | overlappingFields (first second : String)
  | fieldOutOfBounds (field : String) (stop totalSize : Nat)
  | paddingBeforeStart (field : String) (offset padding : Nat)
  | overlappingPadding (field previous : String)
  | invalidRowWidth (width : Nat)
  | invalidAlignment (align : Nat)
deriving Repr, DecidableEq

def Violation.message : Violation → String
  | .unsortedFields field offset previous =>
    "Field " ++ field ++ " at offset " ++ decimal offset ++ " comes before previous offset " ++
      decimal previous
  | .overlappingFields first second => "Field " ++ second ++ " overlaps field " ++ first
  | .fieldOutOfBounds field stop totalSize =>
    "Field " ++ field ++ " ends at " ++ decimal stop ++ ", past total size " ++ decimal totalSize
  | .paddingBeforeStart field offset padding =>
    "Padding of " ++ decimal padding ++ " bytes before field " ++ field ++ " at offset " ++
      decimal offset ++ " starts before the struct"
  | .overlappingPadding field previous =>
    "Padding before field " ++ field ++ " overlaps field " ++ previous
  | .invalidRowWidth width => "Invalid row width: " ++ decimal width
  | .invalidAlignment align => "Invalid max alignment: " ++ decimal align

/-- Checks a field against the struct, and against the field before it if there is one. An end that
does not fit a machine word is reported as the largest one. -/
def Field.validate (totalSize : Nat) (previous : Option Field) (f : Field) : Except Violation Unit :=
  if totalSize < f.stop then
    .error (.fieldOutOfBounds f.name (min f.stop (wordBound - 1)) totalSize)
  else if f.offset < f.paddingBefore then
    .error (.paddingBeforeStart f.name f.offset f.paddingBefore)
  else
    match previous with
    | none => .ok ()
    | some p =>
      if f.offset < p.offset then .error (.unsortedFields f.name f.offset p.offset)
      else if f.offset < p.stop then .error (.overlappingFields p.name f.name)
      else if f.paddingStart < p.stop then .error (.overlappingPadding f.name p.name)
      else .ok ()

def validateFields (totalSize : Nat) (previous : Option Field) : List Field → Except Violation Unit
  | [] => .ok ()
  | f :: fs =>
    match f.validate totalSize previous with
    | .error v => .error v
    | .ok () => validateFields totalSize (some f) fs

def Layout.validate (l : Layout) : Except Violation Unit :=
  if l.maxAlign = 0 then .error (.invalidAlignment 0)
  else if l.rowWidth = 0 then .error (.invalidRowWidth 0)
  else validateFields l.totalSize none l.fields

end ByteGrid
