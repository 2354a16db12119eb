/-
**A handle together with its registry.**

A view is what a registry gives to readers of one of its types: the registry and a handle that it
issued.

* `Registry.view`: the view of an issued handle.
* `View.compare`: the display order, read in the registry of the first view.
* `View.debugText`: the sort of type and its full name.
-/

import JavaTypes.DisplayOrder

namespace JavaTypes

/-- A type of a registry, to be read only. -/
structure View where
  registry : Registry
  id : Handle

/-- The view of an issued handle. -/
def Registry.view (r : Registry) (id : Handle) : Except Fault View := do
  let _ ← r.shape id
  return ⟨r, id⟩

namespace View

/-- The order of two views. Both handles are read in the registry of the first. -/
def compare (a b : View) : Except Fault Ordering := a.registry.compare a.id b.id

/-- A view shows as its full name. -/
def text (view : View) : Except Fault String := view.registry.fullName view.id

/-- The sort of type, with the full name in parentheses. -/
def debugText (view : View) : Except Fault String := do
  let sort := match ← view.registry.shape view.id with
    | .primitive _ => "Primitive"
    | .rawClass .. | .parameterized .. => "Reference"
    | .array _ => "Array"
  return sort ++ "(" ++ (← view.text) ++ ")"

end View

end JavaTypes
