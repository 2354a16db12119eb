/-
**Handles and the shapes behind them.**

A registry gives out handles. Behind a handle stands a shape, which says how the type is made from
other types and names; it refers to them by their handles and numbers.

* `Handle`: the index of a type in its registry, with the fixed handles of the primitives
  (`Handle.ofPrimitive`) and of their wrapper classes (`Handle.ofWrapper`).
* `Shape`: the four ways to make a type.
* `Shape.components`: the handles that a shape refers to.
* `Shape.text`: the text of a shape, as logs show it.
-/

import JavaTypes.NamePool
import JavaTypes.Primitive

namespace JavaTypes

/-- The index of a type in the registry that gave it out. -/
structure Handle where
  index : Nat
  deriving DecidableEq, Hashable, Repr

namespace Handle

/-- The handle of a primitive, the same in every registry: its place in the canonical order. -/
def ofPrimitive (p : Primitive) : Handle := ⟨p.index⟩

/-- The handle of a primitive's wrapper class, the same in every registry: the wrappers follow the
primitives, in the same order. -/
def ofWrapper (p : Primitive) : Handle := ⟨Primitive.all.length + p.index⟩

/-- The handle of `void`. -/
def void : Handle := ofPrimitive .void

/-- Whether the handle is that of a primitive. -/
def isPrimitive (id : Handle) : Bool := id.index < Primitive.all.length

/-- The primitive whose wrapper class has this handle. -/
def unwrap? (id : Handle) : Option Primitive :=
  if id.isPrimitive then none else Primitive.ofIndex? (id.index - Primitive.all.length)

/-- The text of a handle. -/
def text (id : Handle) : String := "TypeId(" ++ toString id.index ++ ")"

end Handle

/-- The text of the number of a name. -/
def NameId.text (id : NameId) : String := "NameId(" ++ toString id.index ++ ")"

/-- How a type is made. -/
inductive Shape where
  /-- A primitive type. -/
  | primitive (kind : Primitive)
  /-- A class without type arguments. A nested class records the class around it and shares that
  class's package. -/
  | rawClass (package : NameId) (outer : Option Handle) (name : NameId)
  /-- A generic class applied to type arguments; the basis is a raw class. -/
  | parameterized (basis : Handle) (arguments : List Handle)
  /-- An array of elements of one type. -/
  | array (element : Handle)
  deriving DecidableEq, Hashable, Repr

namespace Shape

/-- The handles that the shape refers to. -/
def components : Shape → List Handle
  | primitive _ => []
  | rawClass _ outer _ => outer.toList
  | parameterized basis arguments => basis :: arguments
  | array element => [element]

/-- The text of a shape: its constructor and its parts, handles and names as numbers. -/
protected def text : Shape → String
  | primitive kind => "Primitive(" ++ kind.kindName ++ ")"
  | rawClass package outer name =>
    let outerText := match outer with
      | none => "None"
      | some id => "Some(" ++ id.text ++ ")"
    "Reference(Class \x7b package: " ++ package.text ++ ", outer: " ++ outerText ++
      ", name: " ++ name.text ++ " \x7d)"
  | parameterized basis arguments =>
    "Reference(Parameterized \x7b basis: " ++ basis.text ++ ", args: [" ++
      ", ".intercalate (arguments.map Handle.text) ++ "] \x7d)"
  | array element => "Array(" ++ element.text ++ ")"

end Shape

end JavaTypes
