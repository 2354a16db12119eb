/-
**The imports of a compilation unit.**

The imports are the top-level classes that the types of a compilation unit mention, in the order
in which they were first mentioned. A listing leaves out the classes that need no import and
orders the others for display.

* `Registry.mentionedClasses`: the top-level classes that a type mentions.
* `Imports.listed`: the classes that need an import, in display order.
* `Imports.render`: the listing as text, with the classes of the `java` packages in a block of
  their own.
-/

import JavaTypes.DisplayOrder
import JavaTypes.Text.Palette

namespace JavaTypes

/-! ### What a type mentions -/

namespace Registry

/-- The outermost of the classes around `id`, itself included, when there are fewer than `depth`
of them. -/
def outermostWithin (r : Registry) : Nat → Handle → Except Fault Handle
  | 0, id => .error (.unissued id)
  | depth + 1, id => do
    match ← r.outer id with
    | some outer => r.outermostWithin depth outer
    | none => return id

/-- The outermost of the classes around a class, itself included. A class is newer than the class
around it, so the chain is no longer than the handle's own index. -/
def outermost (r : Registry) (id : Handle) : Except Fault Handle :=
  r.outermostWithin (id.index + 1) id

/-- The top-level classes that a type mentions, when no chain of its components is longer than
`depth`. -/
def mentionedWithin (r : Registry) : Nat → Handle → Except Fault (List Handle)
  | 0, id => .error (.unissued id)
  | depth + 1, id => do
    match ← r.shape id with
    | .primitive _ => return []
    | .array element => r.mentionedWithin depth element
    | .parameterized basis arguments =>
      return (← (basis :: arguments).mapM (r.mentionedWithin depth)).flatten
    | .rawClass .. => return [← r.outermost id]

/-- The top-level classes that a type mentions, from left to right, each as often as it is
mentioned: of an array those of its elements, of a parameterized type those of its class and of
its arguments, of a nested class its outermost class, of a primitive none. -/
def mentionedClasses (r : Registry) (id : Handle) : Except Fault (List Handle) :=
  r.mentionedWithin (id.index + 1) id

end Registry

/-! ### Listings -/

/-- The top-level classes that a compilation unit mentions, in order of their first mention. -/
structure Imports where
  classes : OrderedSet Handle

/-- How imports are listed. -/
structure ListingOptions where
  /-- The package of the compilation unit; its own classes need no import. -/
  package : Option String := none
  /-- Whether the classes of `java.lang` need no import. -/
  implicitJavaLang : Bool := true
  /-- The styles of the text. -/
  palette : Text.Palette := .plain

namespace ListingOptions

/-- Whether the classes of a package need no import: those of the empty package cannot be
imported, those of the unit's own package and of `java.lang` are visible without. -/
def skips (options : ListingOptions) (package : String) : Bool :=
  package == "" || (options.implicitJavaLang && package == javaLang) ||
    options.package == some package

end ListingOptions

namespace Imports

/-- No imports. -/
def empty : Imports := ⟨∅⟩

instance : EmptyCollection Imports := ⟨empty⟩

/-- The number of classes. -/
def size (imports : Imports) : Nat := imports.classes.size

/-- Whether there are no classes. -/
def isEmpty (imports : Imports) : Bool := imports.size == 0

/-- Whether the class is among the imports. -/
def contains (imports : Imports) (id : Handle) : Bool := imports.classes.contains id

/-- The classes in order of their first mention. -/
def toList (imports : Imports) : List Handle := imports.classes.toList

/-- The imports with one more class, unless it is there. -/
def insert (imports : Imports) (id : Handle) : Imports := ⟨imports.classes.insert id⟩

/-- Whether a class needs an import under these options. -/
def needed (r : Registry) (options : ListingOptions) (id : Handle) : Except Fault Bool := do
  match ← r.packageName id with
  | some package => return !options.skips package
  | none => return false

/-- The classes that need an import, in display order. -/
def listed (imports : Imports) (r : Registry) (options : ListingOptions) :
    Except Fault (List Handle) := do
  r.sort (← imports.toList.filterM (needed r options))

/-- The line that imports one class. -/
def line (palette : Text.Palette) (fullName : String) : String :=
  palette.keyword ++ "import" ++ palette.reset ++ " " ++
    palette.className ++ fullName ++ palette.reset ++ palette.label ++ ";" ++ palette.reset ++ "\n"

/-- The lines for names that come next in a listing; `afterJava` says whether the name before them is
in the `java` group. An empty line stands before a name outside the group that follows one in it. -/
def linesAfter (palette : Text.Palette) : (afterJava : Bool) → List String → String
  | _, [] => ""
  | afterJava, fullName :: rest =>
    let inJava := DisplayOrder.inJavaGroup fullName
    (if afterJava && !inJava then "\n" else "") ++ line palette fullName ++
      linesAfter palette inJava rest

/-- The lines of a listing. -/
def block (palette : Text.Palette) (fullNames : List String) : String :=
  linesAfter palette false fullNames

/-- The listing as text, and nothing if no class needs an import. -/
def render (imports : Imports) (r : Registry) (options : ListingOptions) :
    Except Fault String := do
  let classes ← imports.listed r options
  return block options.palette (← classes.mapM r.fullName)

end Imports

end JavaTypes
