/-
**The registry of types and what it answers.**

A registry holds every type it has given a handle to, each shape once, and the names they use. A
query takes a handle and answers from the shape behind it; the only handle that it cannot answer
for is one that was never issued.

* `Registry.shape`: the shape behind a handle.
* `Registry.typeOf`: the type behind a handle, as a tree. A type is made from older types only, so
  the index of a handle bounds the depth of its tree.
* `Registry.lookup`: the handle of a top-level class, by its name.
* The remaining queries: names, descriptor, package, enclosing class, boxing, erasure.
-/

import JavaTypes.Fault
import JavaTypes.JavaType

namespace JavaTypes

/-- The types of one session and their names. -/
structure Registry where
  /-- Packages and simple class names. -/
  names : NamePool
  /-- The shapes, each at the index of its handle. -/
  types : OrderedSet Shape

namespace Registry

/-! ### Shapes and names -/

/-- The number of types. -/
def typeCount (r : Registry) : Nat := r.types.size

/-- The shape behind a handle, if the handle was issued. -/
def shape? (r : Registry) (id : Handle) : Option Shape := r.types.get? id.index

/-- The shape behind an issued handle. -/
def shape (r : Registry) (id : Handle) : Except Fault Shape :=
  match r.shape? id with
  | some shape => .ok shape
  | none => .error (.unissued id)

/-- The name with a number that the pool gave out. -/
def nameText (r : Registry) (id : NameId) : Except Fault String :=
  match r.names.text? id with
  | some text => .ok text
  | none => .error (.unissuedName id)

/-- Every handle with its shape, in the order in which they were issued. -/
def entries (r : Registry) : List (Handle × Shape) :=
  r.types.toList.mapIdx fun index shape => (⟨index⟩, shape)

/-! ### Types as trees -/

/-- The class behind a handle, with at most `depth` handles between it and its outermost class. -/
def classNameWithin (r : Registry) : Nat → Handle → Except Fault ClassName
  | 0, id => .error (.unissued id)
  | depth + 1, id => do
    match ← r.shape id with
    | .rawClass package none name =>
      return .topLevel (← r.nameText package) (← r.nameText name)
    | .rawClass _ (some outer) name =>
      return .nested (← r.classNameWithin depth outer) (← r.nameText name)
    | _ => throw (.unissued id)

/-- The type behind a handle, when no chain of components is longer than `depth`. -/
def typeWithin (r : Registry) : Nat → Handle → Except Fault JavaType
  | 0, id => .error (.unissued id)
  | depth + 1, id => do
    match ← r.shape id with
    | .primitive kind => return .primitive kind
    | .rawClass .. => return .rawClass (← r.classNameWithin (depth + 1) id)
    | .parameterized basis arguments =>
      return .parameterized (← r.classNameWithin depth basis)
        (← arguments.mapM (r.typeWithin depth))
    | .array element => return .array (← r.typeWithin depth element)

/-- The type behind a handle. Its components have smaller handles, so no chain of them is longer
than the handle's own index. -/
def typeOf (r : Registry) (id : Handle) : Except Fault JavaType :=
  r.typeWithin (id.index + 1) id

/-- The full name: `java.util.Map.Entry[]`. -/
def fullName (r : Registry) (id : Handle) : Except Fault String := return (← r.typeOf id).fullName

/-- The binary name: `java.util.Map$Entry[]`. -/
def binaryName (r : Registry) (id : Handle) : Except Fault String :=
  return (← r.typeOf id).binaryName

/-- The simple name: `Entry[]`. -/
def simpleName (r : Registry) (id : Handle) : Except Fault String :=
  return (← r.typeOf id).simpleName

/-- The descriptor: `[Ljava/util/Map$Entry;`. -/
def descriptor (r : Registry) (id : Handle) : Except Fault String :=
  return (← r.typeOf id).descriptor

/-! ### Classification -/

/-- The primitive behind the handle, if it is one. -/
def primitive? (r : Registry) (id : Handle) : Except Fault (Option Primitive) := do
  match ← r.shape id with
  | .primitive kind => return some kind
  | _ => return none

/-- Whether the type is a primitive. -/
def isPrimitive (r : Registry) (id : Handle) : Except Fault Bool :=
  return (← r.primitive? id).isSome

/-- Whether the type is a class or an array. -/
def isReference (r : Registry) (id : Handle) : Except Fault Bool :=
  return !(← r.isPrimitive id)

/-- Whether the type is an array. -/
def isArray (r : Registry) (id : Handle) : Except Fault Bool := do
  match ← r.shape id with
  | .array _ => return true
  | _ => return false

/-! ### Components and conversions -/

/-- The raw class of a parameterized type; every other type is its own erasure. -/
def erasure (r : Registry) (id : Handle) : Except Fault Handle := do
  match ← r.shape id with
  | .parameterized basis _ => return basis
  | _ => return id

/-- The package of a class, with or without type arguments. -/
def packageName (r : Registry) (id : Handle) : Except Fault (Option String) := do
  match ← r.shape (← r.erasure id) with
  | .rawClass package _ _ => return some (← r.nameText package)
  | _ => return none

/-- The class around a nested class, with or without type arguments. -/
def outer (r : Registry) (id : Handle) : Except Fault (Option Handle) := do
  match ← r.shape (← r.erasure id) with
  | .rawClass _ outer _ => return outer
  | _ => return none

/-- The type arguments of a parameterized type; every other type has none. -/
def typeArguments (r : Registry) (id : Handle) : Except Fault (List Handle) := do
  match ← r.shape id with
  | .parameterized _ arguments => return arguments
  | _ => return []

/-- The element type of an array. -/
def elementType (r : Registry) (id : Handle) : Except Fault Handle := do
  match ← r.shape id with
  | .array element => return element
  | _ => throw (.refused (.notArray (← r.fullName id)))

/-- The wrapper class of a primitive; every other type is boxed already. -/
def boxed (r : Registry) (id : Handle) : Except Fault Handle := do
  match ← r.shape id with
  | .primitive kind => return .ofWrapper kind
  | _ => return id

/-- The primitive of a wrapper class; every other type stays as it is. -/
def unboxed (r : Registry) (id : Handle) : Except Fault Handle := do
  let _ ← r.shape id
  match id.unwrap? with
  | some kind => return .ofPrimitive kind
  | none => return id

/-! ### Look-up -/

/-- The top-level class of this name, if the registry holds it. The name is only looked for, so it
need not be a class name. -/
def lookup (r : Registry) (name : String) : Option Handle := do
  let package ← r.names.find? (Name.qualifier name)
  let simpleName ← r.names.find? (Name.lastSegment name)
  let position ← r.types.position? (.rawClass package none simpleName)
  return ⟨position⟩

end Registry

end JavaTypes
