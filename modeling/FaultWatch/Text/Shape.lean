/-
  FaultWatch/Text/Shape.lean
  ==========================
  **The written form of a structured value.**

  A value that is described for a reader is first turned into a *shape*: an
  atom, or a name with labelled parts between brackets. A shape is then laid out
  in one of two ways: *inline*, on one line, or as a *block*, one part to a
  line, each level four spaces further in and each part closed by a comma.

  The types of the library give shapes; only this file knows where the blanks,
  commas and brackets go.
-/
import FaultWatch.Text.Numeral

namespace FaultWatch

open Text

/-! ### Shapes -/

/-- What stands around the parts of a shape. -/
inductive Brackets where
  /-- Parentheses, for a constructor with unnamed parts. -/
  | round
  /-- Braces, for a structure whose fields are all shown. -/
  | braces
  /-- Braces with two dots at the end, for a structure that hides some field. -/
  | openBraces
  /-- Braces without a name before them, for a table. -/
  | table
deriving DecidableEq, Repr

/-- A value ready to be laid out. The label of a part is what stands right
    before it, colon included. -/
inductive Shape where
  | atom (text : Text)
  | node (name : Text) (brackets : Brackets) (parts : List (Text × Shape))

namespace Shape

def tuple (name : String) (parts : List Shape) : Shape :=
  .node name.toList .round (parts.map ([], ·))

def fieldLabel (name : String) : Text := name.toList ++ ": ".toList

def fields (name : String) (parts : List (String × Shape)) : Shape :=
  .node name.toList .braces (parts.map fun (field, s) => (fieldLabel field, s))

def someFields (name : String) (parts : List (String × Shape)) : Shape :=
  .node name.toList .openBraces (parts.map fun (field, s) => (fieldLabel field, s))

def table (entries : List (Text × Shape)) : Shape :=
  .node [] .table (entries.map fun (key, s) => (key ++ ": ".toList, s))

def ofBool (b : Bool) : Shape := .atom (if b then "true".toList else "false".toList)

def ofNat (n : Nat) : Shape := .atom (Text.ofNat 10 n)

def ofOption : Option Shape → Shape
  | none => .atom "None".toList
  | some s => tuple "Some" [s]

end Shape

def Brackets.bare : Brackets → Text
  | .round | .braces => []
  | .openBraces => " \x7b .. \x7d".toList
  | .table => "\x7b\x7d".toList

/-! ### On one line -/

def Brackets.opening : Brackets → Text
  | .round => "(".toList
  | .braces | .openBraces => " \x7b ".toList
  | .table => "\x7b".toList

def Brackets.closing : Brackets → Text
  | .round => ")".toList
  | .braces => " \x7d".toList
  | .openBraces => ", .. \x7d".toList
  | .table => "\x7d".toList

mutual
/-- The shape on one line, its parts separated by a comma and a space. -/
def Shape.inline : Shape → Text
  | .atom text => text
  | .node name brackets parts =>
    if parts.isEmpty then name ++ brackets.bare
    else
      name ++ brackets.opening ++ [',', ' '].intercalate (inlineParts parts) ++ brackets.closing
/-- The parts of a shape, each on one line behind its label. -/
def Shape.inlineParts : List (Text × Shape) → List Text
  | [] => []
  | (label, s) :: rest => (label ++ s.inline) :: inlineParts rest
end

/-! ### As a block -/

/-- The blanks before a line `depth` levels in. -/
def Text.margin (depth : Nat) : Text := List.replicate (4 * depth) ' '

def Brackets.blockOpening : Brackets → Text
  | .round => "(\n".toList
  | .braces | .openBraces => " \x7b\n".toList
  | .table => "\x7b\n".toList

/-- What closes the parts of a block that stands `depth` levels in. -/
def Brackets.blockClosing (depth : Nat) : Brackets → Text
  | .round => margin depth ++ ")".toList
  | .braces | .table => margin depth ++ "\x7d".toList
  | .openBraces => margin (depth + 1) ++ "..\n".toList ++ margin depth ++ "\x7d".toList

mutual
/-- The shape as a block whose last line stands `depth` levels in. Without parts
    there is nothing to set apart, and the shape stays on one line. -/
def Shape.blockAt (depth : Nat) : Shape → Text
  | .atom text => text
  | .node name brackets parts =>
    if parts.isEmpty then name ++ brackets.bare
    else name ++ brackets.blockOpening ++ blockParts (depth + 1) parts ++ brackets.blockClosing depth
/-- The parts of a block, each on lines of its own. -/
def Shape.blockParts (depth : Nat) : List (Text × Shape) → Text
  | [] => []
  | (label, s) :: rest =>
    margin depth ++ label ++ s.blockAt depth ++ ",\n".toList ++ blockParts depth rest
end

def Shape.block (s : Shape) : Text := s.blockAt 0

end FaultWatch
