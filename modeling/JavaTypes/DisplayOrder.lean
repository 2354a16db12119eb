/-
**The order of types in listings.**

Types whose full name begins with `java` (so those of `javax` too) come first; within each group
full names are compared by code point. Types of equal full names are told apart by their binary
names. The order says nothing about which type may stand for which.

* `DisplayOrder.compareNames`: the order of full names.
* `Registry.compare`, `Registry.sort`: the order of handles.
-/

import JavaTypes.Registry

namespace JavaTypes

namespace DisplayOrder

/-- Whether the name belongs to the group that comes first. -/
def inJavaGroup (fullName : String) : Bool := "java".toList.isPrefixOf fullName.toList

/-- The order of two full names. -/
def compareNames (a b : String) : Ordering :=
  match inJavaGroup a, inJavaGroup b with
  | true, false => .lt
  | false, true => .gt
  | _, _ => compare a b

/-- What the order looks at. -/
structure Key where
  fullName : String
  binaryName : String
  id : Handle

/-- Full names decide, then binary names, then the handles. -/
def Key.compare (a b : Key) : Ordering :=
  (compareNames a.fullName b.fullName).then <|
    (Ord.compare a.binaryName b.binaryName).then <|
      Ord.compare a.id.index b.id.index

end DisplayOrder

namespace Registry

open DisplayOrder

/-- What the order looks at in a type. -/
def displayKey (r : Registry) (id : Handle) : Except Fault Key :=
  return ⟨← r.fullName id, ← r.binaryName id, id⟩

/-- The order of two types. A handle equals itself, whatever stands behind it. -/
def compare (r : Registry) (a b : Handle) : Except Fault Ordering :=
  if a = b then .ok .eq else return (← r.displayKey a).compare (← r.displayKey b)

/-- The handles in order, each as often as it was given. Fewer than two are in order whatever
stands behind them. -/
def sort (r : Registry) (ids : List Handle) : Except Fault (List Handle) :=
  if ids.length < 2 then .ok ids
  else return ((← ids.mapM r.displayKey).mergeSort fun a b => (a.compare b).isLE).map (·.id)

end Registry

end JavaTypes
