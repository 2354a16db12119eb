/-
**A pool of names.**

Packages and simple class names are stored once and stand for themselves by number: equal names
have equal numbers, so a class is told apart by comparing small numbers. A pool only grows.

* `NamePool.intern`: the number of a name, adding the name if it is new.
* `NamePool.find?`: the number of a name that is in the pool.
* `NamePool.text?`: the name with a number.
-/

import JavaTypes.OrderedSet

namespace JavaTypes

/-- The number of a name in its pool. -/
structure NameId where
  index : Nat
  deriving DecidableEq, Hashable, Repr

/-- The names of a registry, each at its number. -/
abbrev NamePool := OrderedSet String

namespace NamePool

/-- The number of the name, and the pool with the name in it. -/
def intern (pool : NamePool) (name : String) : NameId × NamePool :=
  let (position, pool) := OrderedSet.intern pool name
  (⟨position⟩, pool)

/-- The number of the name, if the pool has it. -/
def find? (pool : NamePool) (name : String) : Option NameId :=
  (OrderedSet.position? pool name).map NameId.mk

/-- The name with this number, if the pool gave the number out. -/
def text? (pool : NamePool) (id : NameId) : Option String := OrderedSet.get? pool id.index

end NamePool

end JavaTypes
