/-
**Boxing by handle, by tree and by name.**

What is a primitive or a wrapper class shows in three ways: in the handle, as both have fixed ones;
in the tree of the type; and in its names. They agree about every issued handle. Of the names it
takes the full one to know a primitive, as no class is called by a keyword, and the binary one to
know a wrapper class, as a nested class may share its full name.

* `Handle.isPrimitive_iff`: the handles of primitives.
* `JavaType.Legal.ofKeyword?_fullName`: the full names that are keywords.
* `JavaType.Legal.ofWrapperName?_eq_some_iff`: the binary names that are those of wrapper classes.
* `JavaType.unboxed_of_boxed`, `JavaType.boxed_of_unboxed`: boxing and unboxing, one after the other.
* `Registry.boxing_by_name`: the three ways agree.
-/

import JavaTypes.Proofs.LookupAgreement
import JavaTypes.Proofs.Readability

namespace JavaTypes

/-! ### Handles of primitives -/

/-- The handles of primitives are the first ones, in canonical order. -/
theorem Handle.isPrimitive_iff {id : Handle} :
    id.isPrimitive = true ↔ ∃ kind, id = .ofPrimitive kind := by
  constructor
  · intro first
    rw [isPrimitive, decide_eq_true_eq] at first
    have placed : Primitive.ofIndex? id.index = some Primitive.all[id.index] :=
      List.getElem?_eq_getElem first
    exact ⟨_, by rw [ofPrimitive, Registry.index_of_ofIndex? placed]⟩
  · rintro ⟨kind, rfl⟩
    cases kind <;> rfl

/-! ### Names of primitives and of wrapper classes -/

theorem Primitive.ofWrapperName?_wrapperName (kind : Primitive) :
    ofWrapperName? kind.wrapperName = some kind := by
  cases kind <;> decide +kernel

namespace JavaType

variable {type : JavaType}

/-- **The types called by a keyword** are the primitives. -/
theorem Legal.ofKeyword?_fullName (legal : type.Legal) :
    Primitive.ofKeyword? type.fullName = type.primitive? := by
  cases known : Primitive.ofKeyword? type.fullName with
  | some kind =>
    obtain ⟨kind', same⟩ := Name.exists_keyword (Option.isSome_iff_exists.mpr ⟨_, known⟩)
    rw [same, Primitive.ofKeyword?_keyword] at known
    cases known
    have alike := mapClasses_eq_of_textWith_eq ClassName.legible_fullName legal (.primitive kind)
      same
    cases type <;> cases alike
    rfl
  | none =>
    cases type with
    | primitive kind =>
      have keyword : (JavaType.primitive kind).fullName = kind.keyword := rfl
      rw [keyword, Primitive.ofKeyword?_keyword] at known
      cases known
    | rawClass name | parameterized basis arguments | array element => rfl

theorem legal_boxed (kind : Primitive) : (primitive kind).boxed.Legal := by
  refine .rawClass ⟨Or.inr (by decide +kernel), ?_⟩
  cases kind <;> decide +kernel

/-- **The types with the binary name of a wrapper class** are the wrapper classes. -/
theorem Legal.ofWrapperName?_eq_some_iff (legal : type.Legal) {kind : Primitive} :
    Primitive.ofWrapperName? type.binaryName = some kind ↔
      type = (JavaType.primitive kind).boxed := by
  have written : (JavaType.primitive kind).boxed.binaryName = kind.wrapperName := by
    cases kind <;> decide +kernel
  constructor
  · intro found
    have same : kind.wrapperName = type.binaryName := by simpa using List.find?_some found
    exact binaryName_injective legal (legal_boxed kind) (same.symm.trans written.symm)
  · rintro rfl
    rw [written, Primitive.ofWrapperName?_wrapperName]

/-! ### Boxing and unboxing -/

theorem primitive?_boxed (type : JavaType) : type.boxed.primitive? = none := by
  cases type <;> rfl

/-- Unboxing undoes boxing, and boxes no further. -/
theorem unboxed_of_boxed (type : JavaType) : type.boxed.unboxed = type.unboxed := by
  cases type with
  | primitive kind => exact unboxed_boxed kind
  | rawClass name | parameterized basis arguments | array element => rfl

/-- Boxing undoes unboxing. -/
theorem boxed_of_unboxed (type : JavaType) : type.unboxed.boxed = type.boxed := by
  by_cases wrapper : ∃ kind, type = (primitive kind).boxed
  · obtain ⟨kind, rfl⟩ := wrapper
    rw [unboxed_boxed]
    rfl
  · rw [unboxed_of_ne_boxed fun kind same => wrapper ⟨kind, same⟩]

end JavaType

/-! ### The three ways agree -/

namespace Registry

variable {r : Registry} {id : Handle} {type : JavaType}

/-- The handle tells whether the type is a primitive. -/
theorem Sound.isPrimitive_handle (sound : r.Sound) (typed : r.typeOf id = .ok type) :
    id.isPrimitive = type.primitive?.isSome := by
  rw [Bool.eq_iff_iff, Handle.isPrimitive_iff]
  constructor
  · rintro ⟨kind, rfl⟩
    cases typed.symm.trans (Session.typeOf_ofPrimitive sound kind)
    rfl
  · intro primitive
    cases type with
    | primitive kind =>
      exact ⟨kind, sound.typeOf_injective typed (Session.typeOf_ofPrimitive sound kind)⟩
    | rawClass name | parameterized basis arguments | array element => cases primitive

/-- The binary name tells the wrapper class that the handle tells. -/
theorem Sound.unwrap?_eq_ofWrapperName? (sound : r.Sound) (typed : r.typeOf id = .ok type) :
    id.unwrap? = Primitive.ofWrapperName? type.binaryName := by
  ext kind
  rw [sound.unwrap?_eq_some_iff typed, (sound.legal_typeOf typed).ofWrapperName?_eq_some_iff]

theorem unboxed_of_issued (issued : r.Issued id) :
    r.unboxed id = .ok (match id.unwrap? with
      | some kind => .ofPrimitive kind
      | none => id) := by
  obtain ⟨shape, known⟩ := issued_iff.mp issued
  rw [unboxed, shape_of_shape? known]
  cases id.unwrap? <;> rfl

/-- What a type is boxed to is found under the name of the wrapper class. -/
theorem Sound.boxed_found (sound : r.Sound) (typed : r.typeOf id = .ok type) :
    ∃ box, r.boxed id = .ok box ∧ r.typeOf box = .ok type.boxed ∧
      match type.primitive? with
      | some kind => r.lookup kind.wrapperName = some box
      | none => box = id := by
  obtain ⟨box, boxes, boxTyped⟩ := sound.boxed_ok typed
  refine ⟨box, boxes, boxTyped, ?_⟩
  cases type with
  | primitive kind =>
    have wrapper := Call.typeOf_ofWrapper sound kind
    rw [sound.typeOf_injective boxTyped wrapper]
    exact sound.lookup_wrapperName kind
  | rawClass name | parameterized basis arguments | array element =>
    exact sound.typeOf_injective boxTyped typed

/-- **Boxing goes by handle, by tree and by name alike.** Take the registry of any session that
requests lead to, and an issued handle. It is that of a primitive exactly if it is one of the first
nine, and exactly if the full name of its type is a keyword, which then says which primitive it is.
It is unboxed to a primitive exactly if its binary name is that of the primitive's wrapper class,
which no other handle has; otherwise it stays as it is. If it is a primitive, it is boxed to what is
found under the name of its wrapper class; otherwise it stays as it is. Unboxing what was boxed, and
boxing what was unboxed, is as good as doing so at once, and what was boxed is no primitive. -/
theorem boxing_by_name (calls : List Call) (id : Handle)
    (issued : (Session.initial.after calls).registry.Issued id) :
    let r := (Session.initial.after calls).registry
    ∃ full binary box unbox, r.fullName id = .ok full ∧ r.binaryName id = .ok binary ∧
      r.boxed id = .ok box ∧ r.unboxed id = .ok unbox ∧
      r.primitive? id = .ok (Primitive.ofKeyword? full) ∧
      r.isPrimitive id = .ok id.isPrimitive ∧
      id.isPrimitive = (Primitive.ofKeyword? full).isSome ∧
      (unbox = match Primitive.ofWrapperName? binary with
        | some kind => .ofPrimitive kind
        | none => id) ∧
      (∀ kind, Primitive.ofWrapperName? binary = some kind ↔ id = .ofWrapper kind) ∧
      (match Primitive.ofKeyword? full with
        | some kind => r.lookup kind.wrapperName = some box
        | none => box = id) ∧
      r.unboxed box = .ok unbox ∧ r.boxed unbox = .ok box ∧ r.isPrimitive box = .ok false := by
  intro r
  have sound : r.Sound := Session.sound_after_initial calls
  obtain ⟨type, typed⟩ := sound.typeOf_total issued
  have legal := sound.legal_typeOf typed
  have told := sound.tells typed
  obtain ⟨box, boxes, boxTyped, found⟩ := sound.boxed_found typed
  obtain ⟨unbox, unboxes, unboxTyped⟩ := sound.unboxed_ok typed
  rw [← legal.ofKeyword?_fullName] at found
  refine ⟨_, _, box, unbox, told.fullName, told.binaryName, boxes, unboxes, ?_, ?_, ?_, ?_,
    fun kind => ?_, found, ?_, ?_, ?_⟩
  · rw [told.primitive?, legal.ofKeyword?_fullName]
  · rw [told.isPrimitive, sound.isPrimitive_handle typed]
  · rw [sound.isPrimitive_handle typed, legal.ofKeyword?_fullName]
  · rw [← sound.unwrap?_eq_ofWrapperName? typed]
    exact Except.ok.inj (unboxes.symm.trans (unboxed_of_issued issued))
  · rw [← sound.unwrap?_eq_ofWrapperName? typed, Handle.unwrap?_eq_some_iff]
  · obtain ⟨answer, unboxes', answerTyped⟩ := sound.unboxed_ok boxTyped
    rw [JavaType.unboxed_of_boxed] at answerTyped
    rw [unboxes', sound.typeOf_injective answerTyped unboxTyped]
  · obtain ⟨answer, boxes', answerTyped⟩ := sound.boxed_ok unboxTyped
    rw [JavaType.boxed_of_unboxed] at answerTyped
    rw [boxes', sound.typeOf_injective answerTyped boxTyped]
  · rw [(sound.tells boxTyped).isPrimitive, JavaType.primitive?_boxed]
    rfl

/-- A class nested in one called `java.lang` has the full name of a wrapper class, and is left
alone. -/
theorem boxing_by_name_nested :
    let r := (Session.initial.after [.reference "java.lang", .nested ⟨18⟩ "Integer"]).registry
    r.Issued ⟨19⟩ ∧ r.fullName ⟨19⟩ = .ok Primitive.int.wrapperName ∧
      r.unboxed ⟨19⟩ = .ok ⟨19⟩ ∧ r.boxed ⟨19⟩ = .ok ⟨19⟩ := by
  intro r
  have count : r.typeCount = 20 := by subst r; cbv
  have names : [r.fullName ⟨19⟩, r.binaryName ⟨19⟩] =
      [.ok Primitive.int.wrapperName, .ok "java.lang$Integer"] := by subst r; cbv
  simp only [List.cons.injEq, and_true] at names
  obtain ⟨named, named'⟩ := names
  have issued : r.Issued ⟨19⟩ := by
    rw [Issued, count]
    decide
  obtain ⟨full, binary, box, unbox, fullIs, binaryIs, boxes, unboxes, _, _, _, byName, _, found, _⟩ :=
    boxing_by_name [.reference "java.lang", .nested ⟨18⟩ "Integer"] ⟨19⟩ issued
  cases named.symm.trans fullIs
  cases named'.symm.trans binaryIs
  have other : Primitive.ofWrapperName? "java.lang$Integer" = none := by decide +kernel
  have noKeyword : Primitive.ofKeyword? Primitive.int.wrapperName = none := by decide +kernel
  rw [other] at byName
  rw [noKeyword] at found
  rw [byName] at unboxes
  rw [found] at boxes
  exact ⟨issued, named, unboxes, boxes⟩

end Registry

end JavaTypes
