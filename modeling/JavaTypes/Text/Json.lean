/-
**A flat JSON record, printed over several lines.**

A record is a list of named fields; a field holds one text or a list of texts. Each field has a
line of its own, each text of a list too, and every level is indented by two spaces.

* `Json.string`: a text as a JSON string.
* `Json.Record.pretty`: the printed record, fields in the order given.
-/

namespace JavaTypes.Text.Json

/-- A JSON escape of the form `\u00XY` for a control character. -/
def controlEscape (c : Char) : String :=
  let digits := Nat.toDigits 16 c.toNat
  "\\u" ++ String.ofList (List.replicate (4 - digits.length) '0' ++ digits)

/-- The form of one character inside a JSON string: only the quote, the backslash and the control
characters below the space are escaped. -/
def escape (c : Char) : String :=
  match c with
  | '"' => "\\\""
  | '\\' => "\\\\"
  | '\x08' => "\\b"
  | '\x0c' => "\\f"
  | '\n' => "\\n"
  | '\r' => "\\r"
  | '\t' => "\\t"
  | _ => if c.toNat < 0x20 then controlEscape c else String.singleton c

/-- The text as a JSON string. -/
def string (s : String) : String :=
  "\"" ++ String.join (s.toList.map escape) ++ "\""

/-- What a field of a record holds. -/
inductive Field where
  | text (value : String)
  | texts (values : List String)
  deriving DecidableEq, Repr

/-- The value of a field as it stands after the field's name, one level deep. -/
def Field.pretty : Field → String
  | .text value => string value
  | .texts [] => "[]"
  | .texts values => "[\n    " ++ ",\n    ".intercalate (values.map string) ++ "\n  ]"

/-- Named fields, in the order in which they are printed. -/
abbrev Record := List (String × Field)

/-- The record in braces, a line for each field; the empty record is a pair of braces. -/
def Record.pretty : Record → String
  | [] => "\x7b\x7d"
  | record =>
    "\x7b\n  " ++ ",\n  ".intercalate (record.map fun (name, field) =>
      string name ++ ": " ++ field.pretty) ++ "\n\x7d"

end JavaTypes.Text.Json
