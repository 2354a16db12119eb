/-
**Types by what they are.**

A `JavaType` is a type without handles: the tree of primitives, classes, type arguments and array
elements that it consists of. All its texts are read off the tree, and they differ only in how they
write a class.

* `ClassName`: a class by its package and the chain of classes around it.
* `JavaType.fullName`, `JavaType.binaryName`, `JavaType.simpleName`: the names of a type.
* `JavaType.descriptor`: its descriptor in a class file, which knows no type arguments.
-/

import JavaTypes.Name
import JavaTypes.Primitive

namespace JavaTypes

/-- A class by its package and its simple name, or by the class around it and its simple name. The
package may be empty. -/
inductive ClassName where
  | topLevel (package : String) (name : String)
  | nested (outer : ClassName) (name : String)
  deriving DecidableEq, Repr

namespace ClassName

/-- The class's own name. -/
def simpleName : ClassName → String
  | topLevel _ name => name
  | nested _ name => name

/-- The package of the class and of the classes around it. -/
def package : ClassName → String
  | topLevel package _ => package
  | nested outer _ => outer.package

/-- The class with its package and the classes around it; `separator` stands between a class and
one nested in it. Classes in the empty package are written without a package. -/
def qualifiedWith (separator : String) : ClassName → String
  | topLevel package name => if package = "" then name else package ++ "." ++ name
  | nested outer name => outer.qualifiedWith separator ++ separator ++ name

/-- The name with dots throughout: `java.util.Map.Entry`. -/
def fullName : ClassName → String := qualifiedWith "."

/-- The name with a dollar sign before a nested class: `java.util.Map$Entry`. -/
def binaryName : ClassName → String := qualifiedWith "$"

end ClassName

/-- A type as a tree. -/
inductive JavaType where
  | primitive (kind : Primitive)
  | rawClass (name : ClassName)
  | parameterized (basis : ClassName) (arguments : List JavaType)
  | array (element : JavaType)
  deriving Repr

namespace JavaType

/-! ### Names -/

mutual

/-- The text of a type whose classes are written by `write`: type arguments follow their class in
angle brackets, and brackets follow the element of an array. -/
def textWith (write : ClassName → String) : JavaType → String
  | primitive kind => kind.keyword
  | rawClass name => write name
  | parameterized basis arguments =>
    write basis ++ "<" ++ ",".intercalate (textsWith write arguments) ++ ">"
  | array element => textWith write element ++ "[]"

/-- The texts of a list of types. -/
def textsWith (write : ClassName → String) : List JavaType → List String
  | [] => []
  | first :: rest => textWith write first :: textsWith write rest

end

theorem textsWith_eq_map (write : ClassName → String) (types : List JavaType) :
    textsWith write types = types.map (textWith write) := by
  induction types with
  | nil => rfl
  | cons first rest ih => rw [textsWith, ih, List.map_cons]

/-- The name with qualified classes and dots throughout: `java.util.Map.Entry[]`. -/
def fullName : JavaType → String := textWith ClassName.fullName

/-- The name with nested classes after a dollar sign: `java.util.Map$Entry[]`. -/
def binaryName : JavaType → String := textWith ClassName.binaryName

/-- The name with classes by their own names alone: `Entry[]`. -/
def simpleName : JavaType → String := textWith ClassName.simpleName

/-! ### Descriptors -/

/-- The descriptor of a class: its binary name with slashes, between `L` and a semicolon. -/
def classDescriptor (name : ClassName) : String :=
  "L" ++ Name.internalForm name.binaryName ++ ";"

/-- The descriptor of a type in a class file: `I`, `Ljava/util/Map$Entry;`, `[[D`. Type arguments
leave no trace in it. -/
def descriptor : JavaType → String
  | primitive kind => String.singleton kind.letter
  | rawClass name => classDescriptor name
  | parameterized basis _ => classDescriptor basis
  | array element => "[" ++ element.descriptor

end JavaType

end JavaTypes
