/-
**Sets that remember the order of insertion.**

The position of a member is the number of members inserted before it, and it never changes: members
are only added. A hash map beside the members finds the position of a member.

* `OrderedSet.insert`, `OrderedSet.intern`: add a member unless it is there.
* `OrderedSet.WellFormed`: the map finds exactly the positions at which members stand. Every set
  built by insertions is well formed (`wellFormed_empty`, `WellFormed.insert`).
* `OrderedSet.toList_insert`: insertion adds at the end or not at all.
-/

import Std.Data.HashMap

namespace JavaTypes

/-- A set whose members have positions, counted from zero in the order of insertion. -/
structure OrderedSet (α : Type) [BEq α] [Hashable α] where
  /-- The members in order. -/
  members : Array α
  /-- The position of each member. -/
  positions : Std.HashMap α Nat

namespace OrderedSet

variable {α : Type} [BEq α] [Hashable α]

/-- The set without members. -/
def empty : OrderedSet α := ⟨#[], ∅⟩

instance : EmptyCollection (OrderedSet α) := ⟨empty⟩

/-- The number of members. -/
def size (set : OrderedSet α) : Nat := set.members.size

/-- The members in order. -/
def toList (set : OrderedSet α) : List α := set.members.toList

/-- The member at a position. -/
def get? (set : OrderedSet α) (position : Nat) : Option α := set.members[position]?

/-- The position of a member. -/
def position? (set : OrderedSet α) (a : α) : Option Nat := set.positions[a]?

/-- Whether `a` is a member. -/
def contains (set : OrderedSet α) (a : α) : Bool := (set.position? a).isSome

/-- The set with `a` as a member: at the end, unless it was there. -/
def insert (set : OrderedSet α) (a : α) : OrderedSet α :=
  match set.position? a with
  | some _ => set
  | none =>
    let position := set.members.size
    ⟨set.members.push a, set.positions.insert a position⟩

/-- The position of `a` in the set with `a` inserted, and that set. -/
def intern (set : OrderedSet α) (a : α) : Nat × OrderedSet α :=
  match set.position? a with
  | some position => (position, set)
  | none => (set.size, set.insert a)

/-- The members of the list, each at its first occurrence. -/
def ofList (as : List α) : OrderedSet α := as.foldl insert empty

/-! ### The map and the members agree -/

/-- The map finds a position for a value exactly when the value stands there. -/
def WellFormed (set : OrderedSet α) : Prop :=
  ∀ a position, set.position? a = some position ↔ set.get? position = some a

theorem wellFormed_empty [LawfulBEq α] : (empty : OrderedSet α).WellFormed := by
  intro a position
  simp [position?, get?, empty]

/-- A value without a position stands nowhere. -/
theorem WellFormed.notMem {set : OrderedSet α} (formed : set.WellFormed) {a : α}
    (absent : set.position? a = none) : a ∉ set.toList := by
  intro mem
  obtain ⟨position, here⟩ := List.mem_iff_getElem?.1 mem
  have found := (formed a position).2 (by simpa [get?, toList] using here)
  rw [absent] at found
  cases found

/-- **Insertion adds at the end or not at all.** -/
theorem toList_insert (set : OrderedSet α) (a : α) :
    (set.insert a).toList = set.toList ++ if set.contains a then [] else [a] := by
  unfold insert contains
  split <;> rename_i found <;> simp [found, toList]

variable [LawfulBEq α] [LawfulHashable α]

theorem WellFormed.insert {set : OrderedSet α} (formed : set.WellFormed) (a : α) :
    (set.insert a).WellFormed := by
  unfold OrderedSet.insert
  split
  · exact formed
  · rename_i absent
    intro b position
    have outside : ∀ other, set.get? other ≠ some a := fun other here => by
      rw [(formed a other).2 here] at absent
      cases absent
    have old := formed b position
    have none_at_size : set.get? set.members.size = none := by simp [get?]
    simp only [position?, get?] at old outside none_at_size ⊢
    rw [Std.HashMap.getElem?_insert, Array.getElem?_push]
    by_cases same : a = b
    · subst same
      by_cases last : position = set.members.size
      · simp [last]
      · simp [last, outside, Ne.symm last]
    · by_cases last : position = set.members.size
      · subst last
        simp [same, old]
      · simp [same, last, old]

theorem wellFormed_foldl_insert (as : List α) {set : OrderedSet α} (formed : set.WellFormed) :
    (as.foldl OrderedSet.insert set).WellFormed := by
  induction as generalizing set with
  | nil => exact formed
  | cons a as ih => exact ih (formed.insert a)

theorem wellFormed_ofList (as : List α) : (ofList as).WellFormed :=
  wellFormed_foldl_insert as wellFormed_empty

end OrderedSet

end JavaTypes
