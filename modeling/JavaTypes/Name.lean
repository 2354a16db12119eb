/-
**Identifiers and dotted names.**

A dotted name is a sequence of segments joined by dots, as in `java.util.Map`; everything before
the last dot is its qualifier. Names are strings, and any string has segments: the grammar decides
which of them are names.

* `isIdentifier`, `isQualified`: the grammar of one segment and of a dotted name.
* `segments`, `qualifier`, `lastSegment`: the parts of a dotted name.
* `internalForm`: the slashed form in which a class file writes a name.
* `segments_toList`: joining the segments by dots gives the name back.
-/

import JavaTypes.Unicode.Alphabetic
import JavaTypes.Unicode.Numeric

namespace JavaTypes.Name

/-! ### Identifiers -/

/-- A letter of any script, an underscore or a dollar sign may begin an identifier. -/
def isStart (c : Char) : Bool := Unicode.isAlphabetic c || c == '_' || c == '$'

/-- Numeric characters may continue an identifier as well. -/
def isPart (c : Char) : Bool :=
  Unicode.isAlphabetic c || Unicode.isNumeric c || c == '_' || c == '$'

/-- Whether the characters make up one identifier. Keywords of the language are not excluded. -/
def isIdentifierChars : List Char → Bool
  | [] => false
  | first :: rest => isStart first && rest.all isPart

/-- Whether the string is one identifier. -/
def isIdentifier (s : String) : Bool := isIdentifierChars s.toList

/-! ### Dotted names -/

/-- The parts of the string between its dots; a string without a dot is its own only segment. -/
def segments (s : String) : List String := (s.toList.splitOn '.').map String.ofList

/-- Whether every segment is an identifier. -/
def isQualified (s : String) : Bool := (segments s).all isIdentifier

/-- What stands before the last dot, and nothing if there is no dot. -/
def qualifier (s : String) : String := ".".intercalate (segments s).dropLast

/-- What follows the last dot, and the whole string if there is no dot. -/
def lastSegment (s : String) : String := (segments s).getLastD ""

/-- The form of a binary name inside a class file, with slashes for dots. -/
def internalForm (binaryName : String) : String :=
  binaryName.map fun c => if c = '.' then '/' else c

theorem segments_toList (s : String) : ".".intercalate (segments s) = s := by
  rw [← String.toList_inj, String.toList_intercalate]
  simp only [segments, List.map_map]
  have identity : String.toList ∘ String.ofList = id := by funext cs; simp
  rw [identity, List.map_id]
  exact List.intercalate_splitOn '.'

end JavaTypes.Name
