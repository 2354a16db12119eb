/-
**Listings in display order.**

The display order looks at the group, the full name, the binary name and the handle, one after the
other. Each of these comparisons is a linear order, so the whole is one, and sorting by it does not
depend on the order in which handles come.

* `DisplayOrder.inJavaGroup_iff`: which names come first.
* `DisplayOrder.isLE_compareNames_iff`: the order of names, by group and by code point.
* `DisplayOrder.Key.compare_eq`: the order of keys as comparisons in sequence.
* `Registry.sort_eq_ok`, `DisplayOrder.pairwise_sorted`: sorting handles, and what it achieves.
* `DisplayOrder.filter_append_filter`, `DisplayOrder.filter_eq_group`: distinct names in ascending
  order are the sorted names of the first group and behind them the sorted names of the other one.
-/

import JavaTypes.DisplayOrder
import JavaTypes.Proofs.Sequencing
import Mathlib.Data.Finset.Sort
import Mathlib.Data.String.Basic

namespace JavaTypes

namespace DisplayOrder

/-! ### The order of names -/

/-- The `java` group are the names that begin so. -/
theorem inJavaGroup_iff {name : String} :
    inJavaGroup name = true ↔ "java".toList <+: name.toList :=
  List.isPrefixOf_iff_prefix

/-- The group decides, then the text. -/
theorem compareNames_eq :
    compareNames = compareLex (compareOn fun name => !inJavaGroup name) (compareOn id) := by
  funext a b
  show compareNames a b = (compare (!inJavaGroup a) (!inJavaGroup b)).then (compare a b)
  unfold compareNames
  cases inJavaGroup a <;> cases inJavaGroup b <;> rfl

/-- **Names of the `java` group come first**, and within a group code points decide. -/
theorem isLE_compareNames_iff {a b : String} :
    (compareNames a b).isLE = true ↔
      (inJavaGroup a = true ∧ inJavaGroup b = false) ∨
        (inJavaGroup a = inJavaGroup b ∧ a ≤ b) := by
  have byText : (compare a b).isLE = true ↔ a ≤ b :=
    Ordering.ne_gt_iff_isLE.symm.trans compare_le_iff_le
  unfold compareNames
  cases inJavaGroup a <;> cases inJavaGroup b <;> simp [byText]

/-! ### The order of keys -/

theorem Key.compare_eq :
    Key.compare = compareLex (compareOn fun key => !inJavaGroup key.fullName)
      (compareLex (compareOn Key.fullName)
        (compareLex (compareOn Key.binaryName) (compareOn fun key => key.id.index))) := by
  funext a b
  rw [Key.compare, compareNames_eq]
  exact Ordering.then_assoc _ _ _

instance : Std.TransCmp Key.compare := by
  rw [Key.compare_eq]
  infer_instance

/-- Sorting by keys leaves the keys in ascending order. -/
theorem pairwise_sorted (key : Handle → Key) (ids : List Handle) :
    (ids.mergeSort fun a b => ((key a).compare (key b)).isLE).Pairwise fun a b =>
      ((key a).compare (key b)).isLE = true := by
  refine List.pairwise_mergeSort (fun a b c => Std.TransCmp.isLE_trans) (fun a b => ?_) ids
  have swapped : (key b).compare (key a) = ((key a).compare (key b)).swap :=
    Std.OrientedCmp.eq_swap
  rw [swapped]
  cases (key a).compare (key b) <;> rfl

/-! ### The two groups of a listing -/

/-- The names of one group, those that begin with `java` or all others, in ascending order. -/
def group (inJava : Bool) (names : Finset String) : List String :=
  (names.filter fun name => decide ("java".toList <+: name.toList) = inJava).sort

/-- Behind a name outside the `java` group there are no names of it. -/
theorem inJavaGroup_of_isLE {a b : String} (before : (compareNames a b).isLE = true)
    (outside : inJavaGroup a = false) : inJavaGroup b = false := by
  rcases isLE_compareNames_iff.mp before with ⟨inside, _⟩ | ⟨same, _⟩
  · rw [outside] at inside
    cases inside
  · rw [← same, outside]

/-- In ascending names the `java` group stands before the other one. -/
theorem filter_append_filter {names : List String}
    (ascending : names.Pairwise fun a b => (compareNames a b).isLE = true) :
    names.filter (fun name => inJavaGroup name = true) ++
      names.filter (fun name => inJavaGroup name = false) = names := by
  induction ascending with
  | nil => rfl
  | @cons a rest before ascending ih =>
    cases inside : inJavaGroup a with
    | true =>
      rw [List.filter_cons_of_pos (by simp [inside]), List.filter_cons_of_neg (by simp [inside]),
        List.cons_append, ih]
    | false =>
      have outside : ∀ b ∈ rest, inJavaGroup b = false :=
        fun b member => inJavaGroup_of_isLE (before b member) inside
      have none : rest.filter (fun name => inJavaGroup name) = [] := by simpa using outside
      have all : rest.filter (fun name => !inJavaGroup name) = rest := by simpa using outside
      simp [inside, none, all]

/-- Distinct names in ascending order ascend strictly within each group. -/
theorem filter_eq_group {names : List String} (distinct : names.Nodup)
    (ascending : names.Pairwise fun a b => (compareNames a b).isLE = true) (inJava : Bool) :
    (names.filter fun name => inJavaGroup name = inJava) = group inJava names.toFinset := by
  have sorted : (names.filter fun name => inJavaGroup name = inJava).Pairwise (· ≤ ·) := by
    refine (ascending.filter _).imp_of_mem fun {a b} here there before => ?_
    have inGroup := of_decide_eq_true (List.mem_filter.mp here).2
    have inGroup' := of_decide_eq_true (List.mem_filter.mp there).2
    rcases isLE_compareNames_iff.mp before with ⟨inside, outside⟩ | ⟨_, le⟩
    · rw [inGroup, ← inGroup', outside] at inside
      cases inside
    · exact le
  have members : (names.filter fun name => inJavaGroup name = inJava).toFinset =
      names.toFinset.filter fun name => decide ("java".toList <+: name.toList) = inJava := by
    ext name
    have begins : inJavaGroup name = decide ("java".toList <+: name.toList) :=
      Bool.eq_iff_iff.mpr (inJavaGroup_iff.trans decide_eq_true_iff.symm)
    rw [List.mem_toFinset, List.mem_filter, Finset.mem_filter, List.mem_toFinset, begins,
      decide_eq_true_eq]
  rw [group, ← members]
  exact ((List.toFinset_sort (· ≤ ·) (distinct.filter _)).mpr sorted).symm

end DisplayOrder

namespace Registry

open DisplayOrder

theorem id_of_displayKey {r : Registry} {id : Handle} {key : Key}
    (keyed : r.displayKey id = .ok key) : key.id = id := by
  obtain ⟨fullName, _, rest⟩ := bind_eq_ok_iff.mp keyed
  obtain ⟨binaryName, _, answer⟩ := bind_eq_ok_iff.mp rest
  cases answer
  rfl

/-- **Sorting handles sorts them by their keys**, if they have keys. -/
theorem sort_eq_ok {r : Registry} {ids : List Handle} {key : Handle → Key}
    (keyed : ∀ id ∈ ids, r.displayKey id = .ok (key id)) :
    r.sort ids = .ok (ids.mergeSort fun a b => ((key a).compare (key b)).isLE) := by
  have own : ∀ id ∈ ids, (key id).id = id := fun id member => id_of_displayKey (keyed id member)
  unfold sort
  split
  · next short =>
    match ids with
    | [] => rw [List.mergeSort_nil]
    | [id] => rw [List.mergeSort_singleton]
    | _ :: _ :: rest => exact absurd short (by simp)
  · rw [mapM_of_ok keyed]
    show Except.ok (((ids.map key).mergeSort fun a b => (a.compare b).isLE).map (·.id)) = _
    rw [← List.map_mergeSort (r := fun a b => ((key a).compare (key b)).isLE)
      fun _ _ _ _ => rfl, List.map_map]
    refine congrArg Except.ok ((List.map_congr_left fun id member => ?_).trans (List.map_id _))
    exact own id (List.mem_mergeSort.mp member)

end Registry

end JavaTypes
