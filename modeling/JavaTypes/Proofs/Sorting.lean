/-
**Sorting handles.**

Sorting goes by keys that are made of every handle beforehand. As handles compare as their keys do,
and as no two issued handles compare equal, the result is told by the order alone: it is the one
arrangement of the handles in which nothing comes behind what it precedes. So it does not depend on
the arrangement that was given, nor on the registry in which the types have their handles.

* `Registry.InOrder`: handles in display order.
* `Registry.Sound.sort_eq_ok_iff`: what sorting arrives at.
* `Registry.Sound.exists_groups`: the `java` group comes first.
* `Registry.Sound.sort_alike`: handles of the same types in another registry.
* `Registry.sorting_canonical`: sorting, in the sessions that requests lead to.
-/

import JavaTypes.Proofs.TypeOrder

namespace JavaTypes

/-- A list in which nothing that fits comes behind anything that does not is a fitting part and an
unfitting one. -/
theorem exists_append_of_pairwise {α : Type} {fits : α → Prop} {as : List α}
    (sorted : as.Pairwise fun a b => fits b → fits a) :
    ∃ front back, as = front ++ back ∧ (∀ a ∈ front, fits a) ∧ ∀ b ∈ back, ¬ fits b := by
  induction sorted with
  | nil => exact ⟨[], [], rfl, nofun, nofun⟩
  | @cons a rest before _ ih =>
    by_cases here : fits a
    · obtain ⟨front, back, rfl, inside, outside⟩ := ih
      exact ⟨a :: front, back, rfl, by simpa using ⟨here, inside⟩, outside⟩
    · refine ⟨[], a :: rest, rfl, nofun, fun b member => ?_⟩
      rcases List.mem_cons.mp member with rfl | behind
      · exact here
      · exact fun later => here (before b behind later)

namespace Registry

open DisplayOrder

variable {r r' : Registry} {a b a' b' : Handle} {ids ids' order : List Handle}

/-! ### Handles in order -/

/-- The handles are compared, and none of them precedes one before it. -/
def InOrder (r : Registry) (ids : List Handle) : Prop :=
  ids.Pairwise fun a b => ∃ compared, r.compare b a = .ok compared ∧ compared ≠ .lt

/-- Issued handles of which neither precedes the other are equal. -/
theorem Sound.eq_of_compare (sound : r.Sound) (issued : r.Issued a) (issued' : r.Issued b)
    (notBefore : ∃ compared, r.compare b a = .ok compared ∧ compared ≠ .lt)
    (notBehind : ∃ compared, r.compare a b = .ok compared ∧ compared ≠ .lt) : a = b := by
  obtain ⟨compared, answer, notLess⟩ := notBefore
  obtain ⟨swapped, answer', notLess'⟩ := notBehind
  cases answer'.symm.trans (compare_swap answer)
  obtain ⟨type, typed⟩ := sound.typeOf_total issued
  obtain ⟨other, typed'⟩ := sound.typeOf_total issued'
  have order := answer.symm.trans (sound.compare_eq typed' typed)
  cases compared with
  | lt => exact absurd rfl notLess
  | gt => exact absurd rfl notLess'
  | eq =>
    have same := (JavaType.displayOrder_eq_eq_iff (sound.legal_typeOf typed')
      (sound.legal_typeOf typed)).mp (Except.ok.inj order).symm
    exact sound.typeOf_injective typed (same ▸ typed')

/-- Handles that were sorted are in order. -/
theorem inOrder_of_isLE
    (sorted : order.Pairwise fun a b =>
      ∃ compared, r.compare a b = .ok compared ∧ compared.isLE = true) : r.InOrder order := by
  refine sorted.imp ?_
  rintro a b ⟨compared, answer, before⟩
  refine ⟨compared.swap, compare_swap answer, ?_⟩
  cases compared with
  | lt | eq => decide
  | gt => cases before

/-- **The result of sorting** is the one arrangement of the handles that is in order. -/
theorem Sound.sort_eq_ok_iff (sound : r.Sound) (issued : ∀ id ∈ ids, r.Issued id) :
    r.sort ids = .ok order ↔ order.Perm ids ∧ r.InOrder order := by
  obtain ⟨sorted, answer, permuted, ascending⟩ := sound.exists_sorted issued
  have inOrder := inOrder_of_isLE ascending
  rw [answer, Except.ok.injEq]
  constructor
  · rintro rfl
    exact ⟨permuted, inOrder⟩
  · rintro ⟨permuted', inOrder'⟩
    refine List.Perm.eq_of_pairwise (fun a b here there => ?_) inOrder inOrder'
      (permuted.trans permuted'.symm)
    exact sound.eq_of_compare (issued a (permuted.subset here)) (issued b (permuted'.subset there))

/-! ### The two groups -/

/-- **Handles in order are those of the `java` group**, and behind them the others. -/
theorem Sound.exists_groups (sound : r.Sound) (issued : ∀ id ∈ ids, r.Issued id)
    (inOrder : r.InOrder ids) :
    ∃ front back, ids = front ++ back ∧
      (∀ id ∈ front, ∃ full, r.fullName id = .ok full ∧ "java".toList <+: full.toList) ∧
      ∀ id ∈ back, ∃ full, r.fullName id = .ok full ∧ ¬ "java".toList <+: full.toList := by
  have grouped : ids.Pairwise fun a b =>
      (∃ full, r.fullName b = .ok full ∧ "java".toList <+: full.toList) →
        ∃ full, r.fullName a = .ok full ∧ "java".toList <+: full.toList := by
    refine inOrder.imp_of_mem ?_
    rintro a b here there ⟨compared, answer, notLess⟩ ⟨full, named, inside⟩
    obtain ⟨type, typed⟩ := sound.typeOf_total (issued a here)
    obtain ⟨other, typed', same⟩ := bind_eq_ok_iff.mp named
    cases same
    refine ⟨type.fullName, fullName_of_typeOf typed, ?_⟩
    rw [← inJavaGroup_iff] at inside ⊢
    by_contra outside
    -- the other type would come first
    have less : other.displayOrder type = .lt := by
      rw [JavaType.displayOrder, compareNames, inside, Bool.eq_false_iff.mpr outside]
      rfl
    rw [sound.compare_eq typed' typed, less] at answer
    exact notLess (Except.ok.inj answer).symm
  obtain ⟨front, back, rfl, inside, outside⟩ := exists_append_of_pairwise grouped
  refine ⟨front, back, rfl, inside, fun id member => ?_⟩
  obtain ⟨type, typed⟩ := sound.typeOf_total (issued id (List.mem_append_right _ member))
  have named := fullName_of_typeOf typed
  exact ⟨_, named, fun starts => outside id member ⟨_, named, starts⟩⟩

/-! ### Another registry -/

/-- Handles of two registries with the same type behind them. -/
def SameType (r r' : Registry) (id id' : Handle) : Prop :=
  ∃ type, r.typeOf id = .ok type ∧ r'.typeOf id' = .ok type

theorem SameType.compare_eq (sound : r.Sound) (sound' : r'.Sound) (same : r.SameType r' a a')
    (same' : r.SameType r' b b') : r'.compare a' b' = r.compare a b := by
  obtain ⟨type, typed, typed'⟩ := same
  obtain ⟨other, otherTyped, otherTyped'⟩ := same'
  rw [sound.compare_eq typed otherTyped, sound'.compare_eq typed' otherTyped']

/-- Handles with the same types behind them were issued by their registries. -/
theorem issued_of_sameType (sound : r.Sound) (sound' : r'.Sound)
    (same : List.Forall₂ (r.SameType r') ids ids') :
    (∀ id ∈ ids, r.Issued id) ∧ ∀ id' ∈ ids', r'.Issued id' := by
  refine ⟨fun id member => ?_, fun id' member => ?_⟩
  · obtain ⟨id', _, type, typed, _⟩ := exists_of_mem_left same member
    exact sound.issued_of_typeOf typed
  · obtain ⟨id, _, type, _, typed⟩ := exists_of_mem_right same member
    exact sound'.issued_of_typeOf typed

/-- **Handles of the same types are sorted alike** in both registries. -/
theorem Sound.sort_alike (sound : r.Sound) (sound' : r'.Sound)
    (same : List.Forall₂ (r.SameType r') ids ids') (sorted : r.sort ids = .ok order) :
    ∃ order', r'.sort ids' = .ok order' ∧ List.Forall₂ (r.SameType r') order order' := by
  obtain ⟨issued, issued'⟩ := issued_of_sameType sound sound' same
  obtain ⟨permuted, inOrder⟩ := (sound.sort_eq_ok_iff issued).mp sorted
  obtain ⟨order', same', permuted'⟩ := List.perm_comp_forall₂ permuted same
  refine ⟨order', (sound'.sort_eq_ok_iff issued').mpr ⟨permuted', ?_⟩, same'⟩
  refine pairwise_of_forall₂ same' inOrder fun a a' b b' same same' compared => ?_
  rwa [SameType.compare_eq sound sound' same' same]

/-! ### Within and across registries -/

/-- **Sorting has one result.** Take the registries after any two lists of requests to new sessions,
and any list of issued handles of the first one. Sorting it succeeds. The result has the same
handles, each as often; no handle compares less than one before it; no other arrangement of the
handles is like that; and whatever arrangement is sorted, the result is the same. The handles whose
full name begins with `java` come first, and behind them all others. If a list of handles of the
second registry has the same types, one by one, then so have the two results. -/
theorem sorting_canonical (calls calls' : List Call) :
    let r := (Session.initial.after calls).registry
    let r' := (Session.initial.after calls').registry
    (∀ ids, (∀ id ∈ ids, r.Issued id) → ∃ order, r.sort ids = .ok order ∧ order.Perm ids ∧
      r.InOrder order ∧ (∀ other, other.Perm ids → r.InOrder other → other = order) ∧
      (∀ ids', ids'.Perm ids → r.sort ids' = .ok order) ∧
      ∃ front back, order = front ++ back ∧
        (∀ id ∈ front, ∃ full, r.fullName id = .ok full ∧ "java".toList <+: full.toList) ∧
        ∀ id ∈ back, ∃ full, r.fullName id = .ok full ∧ ¬ "java".toList <+: full.toList) ∧
    ∀ ids ids', List.Forall₂ (r.SameType r') ids ids' →
      ∃ order order', r.sort ids = .ok order ∧ r'.sort ids' = .ok order' ∧
        List.Forall₂ (r.SameType r') order order' := by
  intro r r'
  have sound : r.Sound := Session.sound_after_initial calls
  have sound' : r'.Sound := Session.sound_after_initial calls'
  refine ⟨fun ids issued => ?_, fun ids ids' same => ?_⟩
  · obtain ⟨order, sorted, permuted, _⟩ := sound.exists_sorted issued
    obtain ⟨_, inOrder⟩ := (sound.sort_eq_ok_iff issued).mp sorted
    refine ⟨order, sorted, permuted, inOrder, fun other permuted' inOrder' => ?_,
      fun ids' permuted' => ?_, sound.exists_groups
        (fun id member => issued id (permuted.subset member)) inOrder⟩
    · have sorted' := (sound.sort_eq_ok_iff issued).mpr ⟨permuted', inOrder'⟩
      exact Except.ok.inj (sorted'.symm.trans sorted)
    · exact (sound.sort_eq_ok_iff fun id member => issued id (permuted'.subset member)).mpr
        ⟨permuted.trans permuted'.symm, inOrder⟩
  · obtain ⟨order, sorted, _⟩ := sound.exists_sorted (issued_of_sameType sound sound' same).1
    obtain ⟨order', sorted', same'⟩ := sound.sort_alike sound' same sorted
    exact ⟨order, order', sorted, sorted', same'⟩

/-- A handle given twice, in two registries that know the types in another order. -/
theorem sorting_canonical_twice :
    let r := (Session.initial.after [.reference "java.util.Map", .reference "a.B"]).registry
    let r' := (Session.initial.after [.reference "a.B", .reference "java.util.Map"]).registry
    r.sort [⟨19⟩, ⟨18⟩, ⟨19⟩] = .ok [⟨18⟩, ⟨19⟩, ⟨19⟩] ∧
      r.sort [⟨19⟩, ⟨19⟩, ⟨18⟩] = .ok [⟨18⟩, ⟨19⟩, ⟨19⟩] ∧
      ∃ order', r'.sort [⟨18⟩, ⟨19⟩, ⟨18⟩] = .ok order' ∧
        List.Forall₂ (r.SameType r') [⟨18⟩, ⟨19⟩, ⟨19⟩] order' := by
  intro r r'
  have types : [⟨18⟩, ⟨19⟩].map r.typeOf = [.ok (.rawClass (.topLevel "java.util" "Map")),
      .ok (.rawClass (.topLevel "a" "B"))] := by subst r; cbv
  have types' : [⟨18⟩, ⟨19⟩].map r'.typeOf = [.ok (.rawClass (.topLevel "a" "B")),
      .ok (.rawClass (.topLevel "java.util" "Map"))] := by subst r'; cbv
  have compared : [r.compare ⟨19⟩ ⟨18⟩, r.compare ⟨19⟩ ⟨19⟩] = [.ok .gt, .ok .eq] := by
    subst r; cbv
  simp only [List.map_cons, List.map_nil, List.cons.injEq, and_true] at types types' compared
  obtain ⟨sorts, alike⟩ := sorting_canonical
    [.reference "java.util.Map", .reference "a.B"] [.reference "a.B", .reference "java.util.Map"]
  have sound : r.Sound := Session.sound_after_initial _
  have issued : ∀ id ∈ [(⟨19⟩ : Handle), ⟨18⟩, ⟨19⟩], r.Issued id := by
    have mapIssued : r.Issued ⟨18⟩ := sound.issued_of_typeOf types.1
    have bIssued : r.Issued ⟨19⟩ := sound.issued_of_typeOf types.2
    simpa using ⟨bIssued, mapIssued, bIssued⟩
  have inOrder : r.InOrder [⟨18⟩, ⟨19⟩, ⟨19⟩] := by
    simp [InOrder, compared]
  obtain ⟨order, sorted, _, _, unique, always, _⟩ := sorts _ issued
  obtain rfl := unique [⟨18⟩, ⟨19⟩, ⟨19⟩] (by decide) inOrder
  have same : List.Forall₂ (r.SameType r') [⟨19⟩, ⟨18⟩, ⟨19⟩] [⟨18⟩, ⟨19⟩, ⟨18⟩] :=
    .cons ⟨_, types.2, types'.1⟩ (.cons ⟨_, types.1, types'.2⟩ (.cons ⟨_, types.2, types'.1⟩ .nil))
  obtain ⟨order, order', sorted', there, alike⟩ := alike _ _ same
  cases sorted.symm.trans sorted'
  exact ⟨sorted, always [⟨19⟩, ⟨19⟩, ⟨18⟩] (by decide), order', there, alike⟩

end Registry

end JavaTypes
