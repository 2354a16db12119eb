/-
**Stores that only grow.**

Names and shapes are kept in ordered sets from which nothing is ever removed, so a position that
was given out keeps its member for good. Interning is the only way in: it leaves a set alone that
has the value, and otherwise puts the value behind all members.

* `OrderedSet.Grows`: the members of one set are the first members of another.
* `OrderedSet.intern_cases`: the two things that interning can do.
* `OrderedSet.WellFormed.get?_intern`, `OrderedSet.WellFormed.intern_of_get?`: the position that
  interning returns holds the value, and interning a member changes nothing.
* `OrderedSet.toList_foldl_insert`: what inserting a list of values does.
* `NamePool.text?_intern`, `NamePool.intern_of_text?`: the same of names and their numbers.
-/

import JavaTypes.NamePool

namespace JavaTypes

namespace OrderedSet

variable {α : Type} [BEq α] [Hashable α] {set old new : OrderedSet α} {a : α}

/-! ### Members by position -/

theorem get?_eq_getElem? (set : OrderedSet α) (position : Nat) :
    set.get? position = set.toList[position]? := by
  simp [get?, toList]

theorem size_eq_length (set : OrderedSet α) : set.size = set.toList.length := by
  simp [size, toList]

theorem lt_size_iff (set : OrderedSet α) (position : Nat) :
    position < set.size ↔ ∃ a, set.get? position = some a := by
  rw [size_eq_length, get?_eq_getElem?]
  constructor
  · intro inside
    exact ⟨_, List.getElem?_eq_getElem inside⟩
  · rintro ⟨a, here⟩
    exact (List.getElem?_eq_some_iff.mp here).choose

/-- In a well-formed set no value stands at two positions. -/
theorem WellFormed.position_unique (formed : set.WellFormed) {first second : Nat}
    (here : set.get? first = some a) (there : set.get? second = some a) : first = second := by
  have found := (formed a first).mpr here
  rw [(formed a second).mpr there] at found
  exact (Option.some.inj found).symm

theorem WellFormed.nodup (formed : set.WellFormed) : set.toList.Nodup := by
  rw [List.Nodup, List.pairwise_iff_getElem]
  intro first second insideFirst insideSecond before same
  have here : set.get? first = some set.toList[second] := by
    rw [get?_eq_getElem?, List.getElem?_eq_getElem insideFirst, same]
  have there : set.get? second = some set.toList[second] := by
    rw [get?_eq_getElem?, List.getElem?_eq_getElem insideSecond]
  exact Nat.ne_of_lt before (formed.position_unique here there)

/-- The values without a position are those that are no members. -/
theorem WellFormed.position?_eq_none_iff (formed : set.WellFormed) :
    set.position? a = none ↔ a ∉ set.toList := by
  refine ⟨formed.notMem, fun outside => ?_⟩
  cases found : set.position? a with
  | none => rfl
  | some position =>
    have here := (formed a position).mp found
    rw [get?_eq_getElem?] at here
    exact absurd (List.mem_of_getElem? here) outside

/-- The set contains its members. -/
theorem WellFormed.contains_iff (formed : set.WellFormed) :
    set.contains a = true ↔ a ∈ set.toList := by
  rw [contains, Option.isSome_iff_ne_none, ne_eq, formed.position?_eq_none_iff]
  exact Classical.not_not

/-! ### Growth -/

/-- The set `new` has the members of `old` at their positions, and perhaps more behind them. -/
def Grows (old new : OrderedSet α) : Prop := old.toList <+: new.toList

theorem Grows.refl (set : OrderedSet α) : set.Grows set := List.prefix_rfl

theorem Grows.trans {middle : OrderedSet α} (first : old.Grows middle)
    (second : middle.Grows new) : old.Grows new :=
  List.IsPrefix.trans first second

/-- **A position keeps its member.** -/
theorem Grows.get? (grows : old.Grows new) {position : Nat}
    (here : old.get? position = some a) : new.get? position = some a := by
  rw [get?_eq_getElem?] at here ⊢
  obtain ⟨inside, rfl⟩ := List.getElem?_eq_some_iff.mp here
  exact List.prefix_iff_getElem?.mp grows position inside

theorem Grows.size_le (grows : old.Grows new) : old.size ≤ new.size := by
  rw [size_eq_length, size_eq_length]
  exact List.IsPrefix.length_le grows

/-! ### Interning -/

theorem insert_of_contains (present : set.contains a = true) : set.insert a = set := by
  obtain ⟨position, found⟩ := Option.isSome_iff_exists.mp present
  unfold insert
  rw [found]

theorem toList_insert_of_new (absent : set.position? a = none) :
    (set.insert a).toList = set.toList ++ [a] := by
  rw [toList_insert, contains, absent]
  rfl

theorem WellFormed.mem_insert (formed : set.WellFormed) {b : α} :
    b ∈ (set.insert a).toList ↔ b ∈ set.toList ∨ b = a := by
  cases found : set.position? a with
  | some position =>
    have member : a ∈ set.toList := by
      have here := (formed a position).mp found
      rw [get?_eq_getElem?] at here
      exact List.mem_of_getElem? here
    rw [insert_of_contains (Option.isSome_iff_exists.mpr ⟨position, found⟩)]
    exact ⟨Or.inl, fun either => either.elim id fun same => same ▸ member⟩
  | none => rw [toList_insert_of_new found, List.mem_append, List.mem_singleton]

theorem size_insert_of_new (absent : set.position? a = none) :
    (set.insert a).size = set.size + 1 := by
  rw [size_eq_length, size_eq_length, toList_insert_of_new absent, List.length_append]
  rfl

/-- A new value takes the next free position. -/
theorem get?_insert_of_new (absent : set.position? a = none) :
    (set.insert a).get? set.size = some a := by
  rw [get?_eq_getElem?, toList_insert_of_new absent, size_eq_length, List.getElem?_concat_length]

theorem grows_insert (set : OrderedSet α) (a : α) : set.Grows (set.insert a) := by
  rw [Grows, toList_insert]
  exact List.prefix_append _ _

/-- **What interning can do**: a member keeps its position, and the set stays as it is; any other
value is inserted at the next free position. -/
theorem intern_cases (set : OrderedSet α) (a : α) :
    (∃ position, set.position? a = some position ∧ set.intern a = (position, set)) ∨
      (set.position? a = none ∧ set.intern a = (set.size, set.insert a)) := by
  unfold intern
  cases found : set.position? a with
  | some position => exact Or.inl ⟨position, rfl, rfl⟩
  | none => exact Or.inr ⟨rfl, rfl⟩

theorem grows_intern (set : OrderedSet α) (a : α) : set.Grows (set.intern a).2 := by
  rcases intern_cases set a with ⟨position, _, run⟩ | ⟨_, run⟩
  · rw [run]
    exact Grows.refl set
  · rw [run]
    exact grows_insert set a

/-- The value stands where interning says. -/
theorem WellFormed.get?_intern (formed : set.WellFormed) (a : α) :
    (set.intern a).2.get? (set.intern a).1 = some a := by
  rcases intern_cases set a with ⟨position, found, run⟩ | ⟨absent, run⟩
  · rw [run]
    exact (formed a position).mp found
  · rw [run]
    exact get?_insert_of_new absent

/-- **Interning a member changes nothing**, and returns its position. -/
theorem WellFormed.intern_of_get? (formed : set.WellFormed) {position : Nat}
    (here : set.get? position = some a) : set.intern a = (position, set) := by
  unfold OrderedSet.intern
  rw [(formed a position).mpr here]

variable [LawfulBEq α] [LawfulHashable α]

theorem WellFormed.intern (formed : set.WellFormed) (a : α) : (set.intern a).2.WellFormed := by
  rcases intern_cases set a with ⟨position, _, run⟩ | ⟨_, run⟩
  · rw [run]
    exact formed
  · rw [run]
    exact formed.insert a

/-! ### Sets made of a list -/

theorem contains_insert (set : OrderedSet α) (a b : α) :
    (set.insert a).contains b = (set.contains b || b == a) := by
  by_cases present : set.contains a = true
  · rw [insert_of_contains present]
    by_cases same : b = a
    · rw [same, present, Bool.true_or]
    · rw [beq_false_of_ne same, Bool.or_false]
  · rw [contains, Option.not_isSome_iff_eq_none] at present
    unfold insert
    rw [present]
    simp only [contains, position?, Std.HashMap.getElem?_insert]
    by_cases same : a = b
    · simp [same]
    · simp [same, Ne.symm same]

/-- **Inserting a list of values** puts those that are new behind the members, each at its first
occurrence. -/
theorem toList_foldl_insert (as : List α) (set : OrderedSet α) :
    (as.foldl OrderedSet.insert set).toList =
      set.toList ++ (as.filter fun a => !set.contains a).eraseDups := by
  induction as generalizing set with
  | nil => rw [List.foldl_nil, List.filter_nil, List.eraseDups_nil, List.append_nil]
  | cons a as ih =>
    rw [List.foldl_cons, ih]
    cases present : set.contains a with
    | true => rw [insert_of_contains present, List.filter_cons_of_neg (by simp [present])]
    | false =>
      have others : as.filter (fun b => !(set.insert a).contains b) =
          (as.filter fun b => !set.contains b).filter fun b => !b == a := by
        rw [List.filter_filter]
        refine List.filter_congr fun b _ => ?_
        rw [contains_insert, Bool.not_or, Bool.and_comm]
      rw [toList_insert, present, others, List.filter_cons_of_pos (by simp [present]),
        List.eraseDups_cons, List.append_assoc]
      rfl

omit [Hashable α] [LawfulHashable α] in
theorem eraseDups_of_nodup {as : List α} (different : as.Nodup) : as.eraseDups = as := by
  induction different with
  | nil => rfl
  | @cons a as fresh _ ih =>
    have others : as.filter (fun b => !b == a) = as :=
      List.filter_eq_self.mpr fun b member => by simp [Ne.symm (fresh b member)]
    rw [List.eraseDups_cons, others, ih]

theorem toList_ofList {as : List α} (different : as.Nodup) : (ofList as).toList = as := by
  have fresh : ∀ a ∈ as, (!(empty : OrderedSet α).contains a) = true := fun a _ => by
    simp [contains, position?, empty]
  rw [ofList, toList_foldl_insert, List.filter_eq_self.mpr fresh, eraseDups_of_nodup different]
  rfl

end OrderedSet

/-! ### Names and their numbers -/

namespace NamePool

variable {pool : NamePool} {name : String}

theorem grows_intern (pool : NamePool) (name : String) : pool.Grows (pool.intern name).2 :=
  OrderedSet.grows_intern pool name

theorem wellFormed_intern (formed : pool.WellFormed) (name : String) :
    (pool.intern name).2.WellFormed :=
  OrderedSet.WellFormed.intern formed name

theorem text?_intern (formed : pool.WellFormed) (name : String) :
    (pool.intern name).2.text? (pool.intern name).1 = some name :=
  OrderedSet.WellFormed.get?_intern formed name

theorem intern_of_text? (formed : pool.WellFormed) {id : NameId}
    (known : pool.text? id = some name) : pool.intern name = (id, pool) := by
  show ((⟨(OrderedSet.intern pool name).1⟩ : NameId), (OrderedSet.intern pool name).2) = (id, pool)
  rw [OrderedSet.WellFormed.intern_of_get? formed known]

/-- In a well-formed pool no name has two numbers. -/
theorem id_unique (formed : pool.WellFormed) {first second : NameId}
    (here : pool.text? first = some name) (there : pool.text? second = some name) :
    first = second := by
  cases first
  cases second
  exact congrArg NameId.mk (OrderedSet.WellFormed.position_unique formed here there)

theorem text?_of_grows {larger : NamePool} (grows : pool.Grows larger) {id : NameId}
    (known : pool.text? id = some name) : larger.text? id = some name :=
  OrderedSet.Grows.get? grows known

end NamePool

end JavaTypes
