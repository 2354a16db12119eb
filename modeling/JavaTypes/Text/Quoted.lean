/-
**Quoted text.**

Messages and log lines quote a name: in double quotes, with each character that would not show as
itself written as an escape.

* `standsAlone`: the characters that are not escaped by their code points.
* `escape`: the form of one character inside the quotes.
* `quoted`: the quotation of a string.
-/

import JavaTypes.Unicode.DefaultIgnorable
import JavaTypes.Unicode.ExtendingMark
import JavaTypes.Unicode.Printable

namespace JavaTypes.Text

/-- A character by its code point: lowercase hexadecimal digits, without leading zeros, in braces. -/
def codePointEscape (c : Char) : String :=
  "\\u\x7b" ++ String.ofList (Nat.toDigits 16 c.toNat) ++ "\x7d"

/-- Whether the character shows as itself behind any other: it is printable, it has a shape, and it
does not join what stands before it. -/
def standsAlone (c : Char) : Bool :=
  Unicode.isPrintable c && !Unicode.isDefaultIgnorable c && !Unicode.isExtendingMark c

/-- The form of one character inside a quotation. An apostrophe stands for itself. -/
def escape (c : Char) : String :=
  match c with
  | '\x00' => "\\0"
  | '\t' => "\\t"
  | '\n' => "\\n"
  | '\r' => "\\r"
  | '"' => "\\\""
  | '\\' => "\\\\"
  | _ =>
    if standsAlone c then String.singleton c else codePointEscape c

/-- The string in double quotes, escaped. -/
def quoted (s : String) : String :=
  "\"" ++ String.join (s.toList.map escape) ++ "\""

end JavaTypes.Text
