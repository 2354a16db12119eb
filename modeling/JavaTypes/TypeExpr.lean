/-
**Types as a command line writes them.**

A name, the names of type arguments, and a number of array dimensions describe a type. Resolving
the description asks a session for the type; an error says which of the names was at fault.

* `Session.resolve`: the type of one name, a primitive keyword or a class name.
* `TypeExpr.resolve`: the type of a description.
-/

import JavaTypes.Session

namespace JavaTypes

/-- A type in writing: a class or primitive, the type arguments applied to it, and the number of
array dimensions around the result. -/
structure TypeExpr where
  name : String
  arguments : List String := []
  dimensions : Nat := 0
  deriving DecidableEq, Repr

/-- A fault, and the name that was being resolved. -/
structure ResolveError where
  name : String
  cause : Fault
  deriving DecidableEq, Repr

/-- The name, then what is wrong with it. -/
def ResolveError.message (e : ResolveError) : String := e.name ++ ": " ++ e.cause.message

/-- An operation of a session that blames a name for its failure. -/
abbrev ResolveM := EStateM ResolveError Session

/-- The operation, with every failure blamed on the name. -/
def blaming {α : Type} (name : String) (operation : SessionM α) : ResolveM α :=
  operation.adaptExcept (ResolveError.mk name)

/-- The primitive or the top-level class of this name. -/
def Session.resolve (name : String) : ResolveM Handle :=
  blaming name <|
    if (Primitive.ofKeyword? name).isSome then primitive name else reference name

/-- The type of a description. The name is resolved first and the arguments from left to right;
then the arguments are applied and the dimensions added, and a failure there is blamed on the
name. -/
def TypeExpr.resolve (e : TypeExpr) : ResolveM Handle := do
  let base ← Session.resolve e.name
  let element ←
    if e.arguments.isEmpty then
      pure base
    else
      let arguments ← e.arguments.mapM Session.resolve
      blaming e.name (Session.narrow base arguments)
  blaming e.name (Session.arrays e.dimensions element)

end JavaTypes
