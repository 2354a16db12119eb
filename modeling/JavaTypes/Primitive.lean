/-
**The nine primitive types and their wrapper classes.**

`void` counts as a primitive here: it has a keyword, a descriptor letter and a wrapper class like
the others, and only arrays and type arguments exclude it.

* `Primitive.all`: the canonical order, which `Primitive.index` counts.
* `Primitive.keyword`, `Primitive.letter`, `Primitive.wrapperName`: the three ways to write one.
* `Primitive.ofKeyword?`, `Primitive.ofWrapperName?`: exact look-up, without trimming or folding.
-/

namespace JavaTypes

/-- The package of the wrapper classes. -/
def javaLang : String := "java.lang"

/-- A primitive type, `void` included. -/
inductive Primitive where
  | void
  | boolean
  | byte
  | short
  | char
  | int
  | float
  | long
  | double
  deriving DecidableEq, Hashable, Repr

namespace Primitive

/-- Every primitive, in canonical order. -/
def all : List Primitive := [void, boolean, byte, short, char, int, float, long, double]

/-- The place of the primitive in the canonical order. -/
def index : Primitive → Nat
  | void => 0
  | boolean => 1
  | byte => 2
  | short => 3
  | char => 4
  | int => 5
  | float => 6
  | long => 7
  | double => 8

/-- The primitive at a place of the canonical order. -/
def ofIndex? (index : Nat) : Option Primitive := all[index]?

/-- The keyword of the language. -/
def keyword : Primitive → String
  | void => "void"
  | boolean => "boolean"
  | byte => "byte"
  | short => "short"
  | char => "char"
  | int => "int"
  | float => "float"
  | long => "long"
  | double => "double"

/-- The primitive with this keyword. -/
def ofKeyword? (word : String) : Option Primitive := all.find? (·.keyword == word)

/-- The letter that stands for the primitive in a descriptor. -/
def letter : Primitive → Char
  | void => 'V'
  | boolean => 'Z'
  | byte => 'B'
  | short => 'S'
  | char => 'C'
  | int => 'I'
  | float => 'F'
  | long => 'J'
  | double => 'D'

/-- The simple name of the class that boxes the primitive. -/
def wrapperSimpleName : Primitive → String
  | void => "Void"
  | boolean => "Boolean"
  | byte => "Byte"
  | short => "Short"
  | char => "Character"
  | int => "Integer"
  | float => "Float"
  | long => "Long"
  | double => "Double"

/-- The full name of the class that boxes the primitive. -/
def wrapperName (p : Primitive) : String := javaLang ++ "." ++ p.wrapperSimpleName

/-- The primitive boxed by the class of this name. -/
def ofWrapperName? (name : String) : Option Primitive := all.find? (·.wrapperName == name)

/-- The name of the primitive as a kind, capitalized; it is shown where a shape is shown. -/
def kindName : Primitive → String
  | void => "Void"
  | boolean => "Boolean"
  | byte => "Byte"
  | short => "Short"
  | char => "Char"
  | int => "Int"
  | float => "Float"
  | long => "Long"
  | double => "Double"

end Primitive

end JavaTypes
