/-
  FaultWatch/Text/Quoted.lean
  ===========================
  **A text in double quotes.**

  Quoting keeps one line one line: the control characters with a name of their
  own are written by that name, the quote and the backslash are escaped, and
  every other character that could not be read on its own becomes its code
  point, `\u` with hexadecimal digits in braces. An apostrophe stays as it is.
-/
import FaultWatch.Text.Markless

namespace FaultWatch.Text

def codePoint (c : Char) : Text :=
  "\\u\x7b".toList ++ ofNat 16 c.toNat ++ ['\x7d']

def quoteChar (c : Char) : Text :=
  match c with
  | '\x00' => ['\\', '0']
  | '\t' => ['\\', 't']
  | '\n' => ['\\', 'n']
  | '\r' => ['\\', 'r']
  | '"' => ['\\', '"']
  | '\\' => ['\\', '\\']
  | c => if isPlain c then [c] else codePoint c

def quoted (s : Text) : Text :=
  ['"'] ++ s.flatMap quoteChar ++ ['"']

end FaultWatch.Text
