/-
  FaultWatch/EventMask/Text.lean
  ==============================
  **Masks as text.**

  A mask is written as its parts with ` | ` between them: the names of its flags
  by ascending position, then its residue, if there is one, as a hexadecimal
  word. The empty mask is the empty text.

  Reading is more generous than writing: white space around a part is dropped,
  parts may come in any order and more than once, and a hexadecimal part may
  stand for any bits. The parts are read from left to right, and the first one
  that is wrong decides the error.
-/
import FaultWatch.EventMask.Basic
import FaultWatch.Text.Blank

namespace FaultWatch

open Text

namespace EventMask

/-! ### Parts -/

inductive Part where
  | flag (f : EventFlag)
  | word (w : BitVec 32)
deriving DecidableEq, Repr

def Part.bits : Part → BitVec 32
  | .flag f => f.bits
  | .word w => w

def ofParts (parts : List Part) : EventMask :=
  ⟨parts.foldl (fun acc p => acc ||| p.bits) 0⟩

/-- The parts a mask is written with. -/
def parts (m : EventMask) : List Part :=
  m.flags.map .flag ++ if m.residue = 0 then [] else [.word m.residue]

/-! ### Writing -/

/-- A word in hexadecimal behind `0x`. -/
def hexWord (w : BitVec 32) : Text := "0x".toList ++ ofNat 16 w.toNat

def Part.text : Part → Text
  | .flag f => f.name
  | .word w => hexWord w

def text (m : EventMask) : Text := " | ".toList.intercalate (m.parts.map Part.text)

/-- The written form inside the name of its type; the empty mask shows as a
    zero. -/
def tagged (m : EventMask) : Text :=
  "ProfilerEventMask(".toList ++ (if m.isEmpty then hexWord 0 else m.text) ++ [')']

/-- The word in hexadecimal, behind `0x`. -/
def hex (m : EventMask) : Text := hexWord m.bits

/-- The word in hexadecimal with capital letters. -/
def upperHex (m : EventMask) : Text := ofNatUpper 16 m.bits.toNat

def octal (m : EventMask) : Text := ofNat 8 m.bits.toNat

def binary (m : EventMask) : Text := ofNat 2 m.bits.toNat

/-! ### Reading -/

inductive ReadError where
  /-- There is nothing between two separators. -/
  | emptyPart
  /-- What follows `0x` is no 32-bit hexadecimal number. -/
  | badWord
  | unknownName
deriving DecidableEq, Repr

def ReadError.message : ReadError → Text
  | .emptyPart => "encountered empty flag".toList
  | .badWord => "invalid hex flag".toList
  | .unknownName => "unrecognized named flag".toList

/-- Read a 32-bit word in hexadecimal, with at most one plus sign before it. -/
def readWord? (s : Text) : Option (BitVec 32) :=
  let digits := match s with
    | '+' :: rest => rest
    | s => s
  match readHex? digits with
  | some n => if n < 1 <<< 32 then some (BitVec.ofNat 32 n) else none
  | none => none

/-- Read one part without white space around it. -/
def Part.read (s : Text) : Except ReadError Part :=
  match s with
  | [] => .error .emptyPart
  | '0' :: 'x' :: rest =>
    match readWord? rest with
    | some w => .ok (.word w)
    | none => .error .badWord
  | name =>
    match EventFlag.ofName? name with
    | some f => .ok (.flag f)
    | none => .error .unknownName

/-- Read parts from left to right, up to the first that is wrong. -/
def readParts : List Text → Except ReadError (List Part)
  | [] => .ok []
  | s :: rest => do
    let p ← Part.read (trim s)
    let ps ← readParts rest
    return p :: ps

/-- Read a mask. A text of nothing but white space is the empty mask. -/
def read (s : Text) : Except ReadError EventMask :=
  if trim s = [] then .ok empty
  else (readParts (s.splitOn '|')).map ofParts

end EventMask

end FaultWatch
