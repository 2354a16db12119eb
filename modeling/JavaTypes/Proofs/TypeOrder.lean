/-
**The display order as an order of types.**

Handles are ordered by the names of the types behind them. As binary names tell types apart, the
names decide between any two handles, and the handles themselves have no say: what is ordered are
types, and in the same way in every registry.

* `JavaType.displayOrder`: the order of types, a linear order of the legal ones.
* `Registry.Sound.compare_eq`: handles compare as their types do.
* `Registry.Precedes`, `Registry.Sound.exists_ascending`: sorting different handles puts each of
  them before those that it precedes.
* `Registry.compare_strict_total`: the order of issued handles, within and across registries.
-/

import JavaTypes.Proofs.DisplayOrder
import JavaTypes.Proofs.Readability
import Mathlib

namespace JavaTypes

open DisplayOrder

/-! ### The order of types -/

namespace JavaType

/-- The order of two types: full names decide, then binary names. -/
def displayOrder (type other : JavaType) : Ordering :=
  (compareNames type.fullName other.fullName).then (compare type.binaryName other.binaryName)

theorem displayOrder_eq :
    displayOrder = compareLex (compareOn fun type => !inJavaGroup type.fullName)
      (compareLex (compareOn fullName) (compareOn binaryName)) := by
  funext type other
  rw [displayOrder, compareNames_eq]
  exact Ordering.then_assoc _ _ _

instance : Std.TransCmp displayOrder := by
  rw [displayOrder_eq]
  infer_instance

/-- **Different types are ordered.** Legal types of which neither comes first have the same binary
name. -/
theorem displayOrder_eq_eq_iff {type other : JavaType} (legal : type.Legal)
    (legal' : other.Legal) : type.displayOrder other = .eq ↔ type = other := by
  constructor
  · intro same
    rw [displayOrder, Ordering.then_eq_eq] at same
    exact binaryName_injective legal legal' (Std.LawfulEqOrd.eq_of_compare same.2)
  · rintro rfl
    exact Std.ReflCmp.compare_self

end JavaType

/-! ### The order of handles -/

namespace Registry

variable {r : Registry} {a b : Handle} {type other : JavaType}

/-- The key of a handle holds the names of its type. -/
theorem displayKey_of_typeOf (typed : r.typeOf a = .ok type) :
    r.displayKey a = .ok ⟨type.fullName, type.binaryName, a⟩ := by
  rw [displayKey, fullName_of_typeOf typed, binaryName_of_typeOf typed]
  rfl

/-- Handles compare as their keys do. -/
theorem compare_of_displayKey {key key' : Key} (keyed : r.displayKey a = .ok key)
    (keyed' : r.displayKey b = .ok key') : r.compare a b = .ok (key.compare key') := by
  unfold Registry.compare
  split
  · next same =>
    subst same
    cases keyed.symm.trans keyed'
    exact congrArg Except.ok Std.ReflCmp.compare_self.symm
  · rw [keyed, keyed']
    rfl

/-- **Handles compare as their types do.** The names of different types decide, and then the index
of the handles is not looked at. -/
theorem Sound.compare_eq (sound : r.Sound) (typed : r.typeOf a = .ok type)
    (typed' : r.typeOf b = .ok other) : r.compare a b = .ok (type.displayOrder other) := by
  rw [compare_of_displayKey (displayKey_of_typeOf typed) (displayKey_of_typeOf typed')]
  refine congrArg Except.ok ?_
  have byNames : Key.compare ⟨type.fullName, type.binaryName, a⟩
      ⟨other.fullName, other.binaryName, b⟩ =
        (type.displayOrder other).then (Ord.compare a.index b.index) :=
    (Ordering.then_assoc _ _ _).symm
  rw [byNames]
  cases order : type.displayOrder other with
  | lt | gt => rfl
  | eq =>
    obtain rfl := (JavaType.displayOrder_eq_eq_iff (sound.legal_typeOf typed)
      (sound.legal_typeOf typed')).mp order
    rw [sound.typeOf_injective typed typed']
    exact Nat.compare_eq_eq.mpr rfl

/-- Turned around, the order is reversed, whatever stands behind the handles. -/
theorem compare_swap {order : Ordering} (compared : r.compare a b = .ok order) :
    r.compare b a = .ok order.swap := by
  unfold Registry.compare at compared ⊢
  by_cases same : a = b
  · rw [if_pos same] at compared
    rw [if_pos same.symm, ← Except.ok.inj compared]
    rfl
  · rw [if_neg same] at compared
    obtain ⟨key, keyed, rest⟩ := bind_eq_ok_iff.mp compared
    obtain ⟨key', keyed', answer⟩ := bind_eq_ok_iff.mp rest
    rw [if_neg (Ne.symm same), keyed, keyed', ← Except.ok.inj answer]
    exact congrArg Except.ok Std.OrientedCmp.eq_swap

/-- The first handle stands before the second one in a listing. -/
def Precedes (r : Registry) (a b : Handle) : Prop := r.compare a b = .ok .lt

instance : Std.Irrefl r.Precedes where
  irrefl a before := by
    rw [Precedes, Registry.compare, if_pos rfl] at before
    cases before

instance : Std.Antisymm r.Precedes where
  antisymm a b before behind := by
    cases (compare_swap before).symm.trans behind

theorem Sound.precedes_trans (sound : r.Sound) {c : Handle} (issued : r.Issued a)
    (issued' : r.Issued b) (issued'' : r.Issued c) (first : r.Precedes a b)
    (second : r.Precedes b c) : r.Precedes a c := by
  obtain ⟨type, typed⟩ := sound.typeOf_total issued
  obtain ⟨middle, typed'⟩ := sound.typeOf_total issued'
  obtain ⟨other, typed''⟩ := sound.typeOf_total issued''
  rw [Precedes, sound.compare_eq typed typed'] at first
  rw [Precedes, sound.compare_eq typed' typed''] at second
  rw [Precedes, sound.compare_eq typed typed'']
  exact congrArg Except.ok (Std.TransCmp.lt_trans (Except.ok.inj first) (Except.ok.inj second))

/-! ### Sorting issued handles -/

/-- **Issued handles can be sorted**, and none of the result is behind a later one. -/
theorem Sound.exists_sorted (sound : r.Sound) {ids : List Handle}
    (issued : ∀ id ∈ ids, r.Issued id) :
    ∃ order, r.sort ids = .ok order ∧ order.Perm ids ∧
      order.Pairwise fun a b => ∃ compared, r.compare a b = .ok compared ∧ compared.isLE = true := by
  have keys : ∀ id : Handle, ∃ key, id ∈ ids → r.displayKey id = .ok key := by
    intro id
    by_cases member : id ∈ ids
    · obtain ⟨type, typed⟩ := sound.typeOf_total (issued id member)
      exact ⟨_, fun _ => displayKey_of_typeOf typed⟩
    · exact ⟨⟨"", "", id⟩, fun inside => absurd inside member⟩
  choose key keyed using keys
  have permuted := List.mergeSort_perm ids fun a b => ((key a).compare (key b)).isLE
  refine ⟨_, sort_eq_ok keyed, permuted, ?_⟩
  refine (pairwise_sorted key ids).imp_of_mem fun {a b} here there ascending => ?_
  exact ⟨_, compare_of_displayKey (keyed a (permuted.subset here)) (keyed b (permuted.subset there)),
    ascending⟩

/-- **Sorted handles ascend strictly** if no two of them are the same. -/
theorem Sound.exists_ascending (sound : r.Sound) {ids : List Handle}
    (issued : ∀ id ∈ ids, r.Issued id) (distinct : ids.Nodup) :
    ∃ order, r.sort ids = .ok order ∧ order.Perm ids ∧ order.Pairwise r.Precedes := by
  obtain ⟨order, sorted, permuted, ascending⟩ := sound.exists_sorted issued
  refine ⟨order, sorted, permuted, ?_⟩
  have different : order.Pairwise (· ≠ ·) := permuted.nodup_iff.mpr distinct
  refine (ascending.and different).imp_of_mem ?_
  rintro a b here there ⟨⟨compared, answer, before⟩, different⟩
  obtain ⟨type, typed⟩ := sound.typeOf_total (issued a (permuted.subset here))
  obtain ⟨other, typed'⟩ := sound.typeOf_total (issued b (permuted.subset there))
  cases compared with
  | lt => exact answer
  | gt => cases before
  | eq =>
    rw [sound.compare_eq typed typed', Except.ok.injEq, JavaType.displayOrder_eq_eq_iff
      (sound.legal_typeOf typed) (sound.legal_typeOf typed')] at answer
    subst answer
    exact absurd (sound.typeOf_injective typed typed') different

/-! ### Within and across registries -/

/-- **The display order is a strict total order of types.** Take the registries after any two lists
of requests to new sessions. Issued handles compare as the names of their types do, neither comes
first only if they are equal, and either the full names or the binary names of different handles
differ. Types compare alike in both registries, whatever their handles. -/
theorem compare_strict_total (calls calls' : List Call) :
    let r := (Session.initial.after calls).registry
    let r' := (Session.initial.after calls').registry
    (∀ a b, r.Issued a → r.Issued b →
      ∃ type other, r.typeOf a = .ok type ∧ r.typeOf b = .ok other ∧
        r.compare a b = .ok (type.displayOrder other) ∧
        r.compare b a = .ok (type.displayOrder other).swap ∧
        (type.displayOrder other = .eq ↔ a = b) ∧
        (a ≠ b → type.fullName ≠ other.fullName ∨ type.binaryName ≠ other.binaryName)) ∧
    (∀ a b c, r.Issued a → r.Issued b → r.Issued c → r.compare a b = .ok .lt →
      r.compare b c = .ok .lt → r.compare a c = .ok .lt) ∧
    ∀ a b a' b', r.Issued a → r.Issued b → r'.Issued a' → r'.Issued b' →
      r.typeOf a = r'.typeOf a' → r.typeOf b = r'.typeOf b' → r.compare a b = r'.compare a' b' := by
  intro r r'
  have sound : r.Sound := Session.sound_after_initial calls
  have sound' : r'.Sound := Session.sound_after_initial calls'
  refine ⟨fun a b issued issued' => ?_, fun a b c => sound.precedes_trans,
    fun a b a' b' issued issued' _ _ same same' => ?_⟩
  · obtain ⟨type, typed⟩ := sound.typeOf_total issued
    obtain ⟨other, typed'⟩ := sound.typeOf_total issued'
    have legal := sound.legal_typeOf typed
    have legal' := sound.legal_typeOf typed'
    have compared := sound.compare_eq typed typed'
    have equal : type = other ↔ a = b := by
      refine ⟨fun same => sound.typeOf_injective typed (same ▸ typed'), fun same => ?_⟩
      subst same
      exact Except.ok.inj (typed.symm.trans typed')
    refine ⟨type, other, typed, typed', compared, compare_swap compared,
      (JavaType.displayOrder_eq_eq_iff legal legal').trans equal, fun different => Or.inr ?_⟩
    exact fun same => different (equal.mp (JavaType.binaryName_injective legal legal' same))
  · obtain ⟨type, typed⟩ := sound.typeOf_total issued
    obtain ⟨other, typed'⟩ := sound.typeOf_total issued'
    rw [sound.compare_eq typed typed',
      sound'.compare_eq (same.symm.trans typed) (same'.symm.trans typed')]

/-- A class nested in a class and one of the same full name in a package: their binary names tell
them apart, and they are ordered alike when they are asked for in another order. -/
theorem compare_strict_total_same_fullName :
    let r := (Session.initial.after
      [.reference "a", .nested ⟨18⟩ "B", .reference "a.B"]).registry
    let r' := (Session.initial.after
      [.reference "a.B", .reference "a", .nested ⟨19⟩ "B"]).registry
    r.fullName ⟨19⟩ = r.fullName ⟨20⟩ ∧
      (∃ order, order ≠ .eq ∧ r.compare ⟨19⟩ ⟨20⟩ = .ok order ∧
        r.compare ⟨20⟩ ⟨19⟩ = .ok order.swap) ∧
      r.compare ⟨19⟩ ⟨20⟩ = r'.compare ⟨20⟩ ⟨18⟩ := by
  intro r r'
  have types : [⟨19⟩, ⟨20⟩].map r.typeOf = [.ok (.rawClass (.nested (.topLevel "" "a") "B")),
      .ok (.rawClass (.topLevel "a" "B"))] := by subst r; cbv
  have types' : [⟨20⟩, ⟨18⟩].map r'.typeOf = [.ok (.rawClass (.nested (.topLevel "" "a") "B")),
      .ok (.rawClass (.topLevel "a" "B"))] := by subst r'; cbv
  simp only [List.map_cons, List.map_nil, List.cons.injEq, and_true] at types types'
  have sound : r.Sound := Session.sound_after_initial _
  have sound' : r'.Sound := Session.sound_after_initial _
  have issued := sound.issued_of_typeOf types.1
  have issued' := sound.issued_of_typeOf types.2
  obtain ⟨total, _, alike⟩ := compare_strict_total
    [.reference "a", .nested ⟨18⟩ "B", .reference "a.B"]
    [.reference "a.B", .reference "a", .nested ⟨19⟩ "B"]
  obtain ⟨type, other, _, _, compared, swapped, equal, _⟩ := total ⟨19⟩ ⟨20⟩ issued issued'
  have different : (⟨19⟩ : Handle) ≠ ⟨20⟩ := by decide
  refine ⟨?_, ⟨_, fun same => different (equal.mp same), compared, swapped⟩, ?_⟩
  · exact (fullName_of_typeOf types.1).trans (fullName_of_typeOf types.2).symm
  · exact alike ⟨19⟩ ⟨20⟩ ⟨20⟩ ⟨18⟩ issued issued' (sound'.issued_of_typeOf types'.1)
      (sound'.issued_of_typeOf types'.2) (types.1.trans types'.1.symm)
      (types.2.trans types'.2.symm)

end Registry

end JavaTypes
