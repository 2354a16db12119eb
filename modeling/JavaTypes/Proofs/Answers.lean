/-
**What a registry answers about a type.**

A query goes along handles, from shape to shape. In a sound registry it never gets lost: its answer
is read off the tree of the type, and a handle in the answer is the handle of a part of that tree,
or of the type that the tree converts to.

* `JavaType.package?`, `JavaType.outer?`, `JavaType.arguments`, `JavaType.element?`: the parts of a
  tree; `JavaType.boxed`, `JavaType.unboxed`, `JavaType.erased`: what it converts to.
* `JavaType.report`: the report on a type.
* `Registry.Tells`: the answers to all queries about a handle, by the tree of its type.
* `Registry.Sound.tells`: a sound registry answers so about every issued handle.
-/

import JavaTypes.Proofs.Mentions
import JavaTypes.Proofs.Resolution
import JavaTypes.Report
import JavaTypes.View

namespace JavaTypes

/-! ### Parts of a tree -/

namespace ClassName

/-- The class around a nested class. -/
def outer? : ClassName → Option ClassName
  | topLevel .. => none
  | nested outer _ => some outer

/-- The primitive whose wrapper class this is. -/
def wrapped? : ClassName → Option Primitive
  | topLevel package name =>
    if package = javaLang then Primitive.all.find? (·.wrapperSimpleName == name) else none
  | nested .. => none

/-- The class that wraps a primitive is its wrapper class in `java.lang`. -/
theorem wrapped?_eq_some_iff {name : ClassName} {kind : Primitive} :
    name.wrapped? = some kind ↔ name = .topLevel javaLang kind.wrapperSimpleName := by
  constructor
  · intro found
    cases name with
    | nested outer own => cases found
    | topLevel package own =>
      by_cases inJavaLang : package = javaLang
      · rw [wrapped?, if_pos inJavaLang] at found
        have same : kind.wrapperSimpleName = own := by simpa using List.find?_some found
        rw [inJavaLang, same]
      · rw [wrapped?, if_neg inJavaLang] at found
        cases found
  · rintro rfl
    cases kind <;> rfl

end ClassName

namespace JavaType

/-- The word for the sort of type. -/
def kindName : JavaType → String
  | primitive _ => "primitive"
  | rawClass _ => "class"
  | parameterized .. => "parameterized"
  | array _ => "array"

/-- The type as a primitive. -/
def primitive? : JavaType → Option Primitive
  | primitive kind => some kind
  | _ => none

/-- The type as a class, with or without type arguments. -/
def class? : JavaType → Option ClassName
  | rawClass name => some name
  | parameterized basis _ => some basis
  | _ => none

/-- The package of a class. -/
def package? (type : JavaType) : Option String := type.class?.map ClassName.package

/-- The class around a nested class. -/
def outer? (type : JavaType) : Option ClassName := type.class?.bind ClassName.outer?

/-- The type arguments of a class that has any. -/
def arguments : JavaType → List JavaType
  | parameterized _ arguments => arguments
  | _ => []

/-- The type of the elements of an array. -/
def element? : JavaType → Option JavaType
  | array element => some element
  | _ => none

/-- The class without its type arguments; every other type is its own erasure. -/
def erased : JavaType → JavaType
  | parameterized basis _ => rawClass basis
  | type => type

/-- The primitive that a wrapper class boxes; every other type stays as it is. -/
def unboxed : JavaType → JavaType
  | rawClass name => (name.wrapped?.map primitive).getD (rawClass name)
  | type => type

theorem unboxed_boxed (kind : Primitive) : (primitive kind).boxed.unboxed = primitive kind := by
  cases kind <;> rfl

/-- What is not the wrapper class of a primitive stays as it is. -/
theorem unboxed_of_ne_boxed {type : JavaType} (other : ∀ kind, type ≠ (primitive kind).boxed) :
    type.unboxed = type := by
  cases type with
  | primitive kind | parameterized basis arguments | array element => rfl
  | rawClass name =>
    cases wraps : name.wrapped? with
    | none => rw [unboxed, wraps]; rfl
    | some kind =>
      have wrapper := ClassName.wrapped?_eq_some_iff.mp wraps
      exact absurd (congrArg rawClass wrapper) (other kind)

/-- The word that a view shows for the sort of type. -/
def viewName : JavaType → String
  | primitive _ => "Primitive"
  | rawClass _ | parameterized .. => "Reference"
  | array _ => "Array"

/-- The report on a type. -/
def report (type : JavaType) : Report where
  kind := type.kindName
  fullName := type.fullName
  binaryName := type.binaryName
  simpleName := type.simpleName
  descriptor := type.descriptor
  package := type.package?
  typeArguments := type.arguments.map fullName
  elementType := type.element?.map fullName
  boxed := type.boxed.fullName
  unboxed := type.unboxed.fullName
  erasure := type.erased.fullName

end JavaType

/-- The handle that unwraps to a primitive is that of its wrapper class. -/
theorem Handle.unwrap?_eq_some_iff {id : Handle} {kind : Primitive} :
    id.unwrap? = some kind ↔ id = .ofWrapper kind := by
  constructor
  · intro found
    unfold unwrap? at found
    split at found
    · cases found
    · next behind =>
      have place := Registry.index_of_ofIndex? found
      rw [isPrimitive, decide_eq_true_eq] at behind
      cases id with
      | mk index =>
        rw [ofWrapper, place]
        congr 1
        show index = Primitive.all.length + (index - Primitive.all.length)
        simp only at behind
        omega
  · rintro rfl
    cases kind <;> rfl

namespace Registry

variable {r : Registry} {id : Handle} {type : JavaType} {shape : Shape}

/-! ### Single queries -/

/-- The shape says what sort of type it is. -/
theorem Forms.kindName_eq (forms : r.Forms shape type) : shape.kindName = type.kindName := by
  cases forms <;> rfl

theorem Sound.shape_ok (sound : r.Sound) (typed : r.typeOf id = .ok type) :
    ∃ shape, r.shape id = .ok shape ∧ shape.kindName = type.kindName := by
  obtain ⟨shape, known, forms⟩ := sound.typeOf_eq_ok_iff.mp typed
  exact ⟨shape, shape_of_shape? known, forms.kindName_eq⟩

theorem Sound.primitive?_ok (sound : r.Sound) (typed : r.typeOf id = .ok type) :
    r.primitive? id = .ok type.primitive? := by
  obtain ⟨shape, known, forms⟩ := sound.typeOf_eq_ok_iff.mp typed
  rw [primitive?, shape_of_shape? known]
  cases forms <;> rfl

theorem Sound.isArray_ok (sound : r.Sound) (typed : r.typeOf id = .ok type) :
    r.isArray id = .ok type.element?.isSome := by
  obtain ⟨shape, known, forms⟩ := sound.typeOf_eq_ok_iff.mp typed
  rw [isArray, shape_of_shape? known]
  cases forms <;> rfl

theorem Sound.erasure_ok (sound : r.Sound) (typed : r.typeOf id = .ok type) :
    ∃ raw, r.erasure id = .ok raw ∧ r.typeOf raw = .ok type.erased := by
  obtain ⟨shape, known, forms⟩ := sound.typeOf_eq_ok_iff.mp typed
  rw [erasure, shape_of_shape? known]
  cases forms with
  | parameterized applied each => exact ⟨_, rfl, applied⟩
  | primitive | topLevel inPackage named | nested inside named | array elements =>
    exact ⟨id, rfl, typed⟩

theorem Sound.typeArguments_ok (sound : r.Sound) (typed : r.typeOf id = .ok type) :
    ∃ ids, r.typeArguments id = .ok ids ∧
      List.Forall₂ (fun argument type => r.typeOf argument = .ok type) ids type.arguments := by
  obtain ⟨shape, known, forms⟩ := sound.typeOf_eq_ok_iff.mp typed
  rw [typeArguments, shape_of_shape? known]
  cases forms with
  | parameterized applied each => exact ⟨_, rfl, each⟩
  | primitive | topLevel inPackage named | nested inside named | array elements =>
    exact ⟨[], rfl, .nil⟩

/-- An array has its elements' type, and every other type is refused by its full name. -/
theorem Sound.elementType_ok (sound : r.Sound) (typed : r.typeOf id = .ok type) :
    match type.element? with
    | some element => ∃ part, r.elementType id = .ok part ∧ r.typeOf part = .ok element
    | none => r.elementType id = .error (.refused (.notArray type.fullName)) := by
  obtain ⟨shape, known, forms⟩ := sound.typeOf_eq_ok_iff.mp typed
  rw [elementType, shape_of_shape? known, fullName_of_typeOf typed]
  cases forms with
  | array elements => exact ⟨_, rfl, elements⟩
  | primitive | topLevel inPackage named | nested inside named | parameterized applied each => rfl

theorem Sound.boxed_ok (sound : r.Sound) (typed : r.typeOf id = .ok type) :
    ∃ box, r.boxed id = .ok box ∧ r.typeOf box = .ok type.boxed := by
  obtain ⟨shape, known, forms⟩ := sound.typeOf_eq_ok_iff.mp typed
  rw [boxed, shape_of_shape? known]
  cases forms with
  | @primitive kind => exact ⟨_, rfl, Call.typeOf_ofWrapper sound kind⟩
  | topLevel inPackage named | nested inside named | parameterized applied each | array elements =>
    exact ⟨id, rfl, typed⟩

/-- A handle is that of a wrapper class exactly if its type is. -/
theorem Sound.unwrap?_eq_some_iff (sound : r.Sound) (typed : r.typeOf id = .ok type)
    {kind : Primitive} : id.unwrap? = some kind ↔ type = (JavaType.primitive kind).boxed := by
  have wrapper := Call.typeOf_ofWrapper sound kind
  rw [Handle.unwrap?_eq_some_iff]
  constructor
  · rintro rfl
    exact Except.ok.inj (typed.symm.trans wrapper)
  · rintro rfl
    exact sound.typeOf_injective typed wrapper

theorem Sound.unboxed_ok (sound : r.Sound) (typed : r.typeOf id = .ok type) :
    ∃ unbox, r.unboxed id = .ok unbox ∧ r.typeOf unbox = .ok type.unboxed := by
  obtain ⟨shape, known, _⟩ := sound.typeOf_eq_ok_iff.mp typed
  rw [unboxed, shape_of_shape? known]
  cases unwraps : id.unwrap? with
  | some kind =>
    obtain rfl := (sound.unwrap?_eq_some_iff typed).mp unwraps
    rw [JavaType.unboxed_boxed]
    exact ⟨_, rfl, Session.typeOf_ofPrimitive sound kind⟩
  | none =>
    have other : ∀ kind, type ≠ (JavaType.primitive kind).boxed := by
      intro kind same
      rw [(sound.unwrap?_eq_some_iff typed).mpr same] at unwraps
      cases unwraps
    rw [JavaType.unboxed_of_ne_boxed other]
    exact ⟨id, rfl, typed⟩

/-! ### Queries about a class -/

/-- The shape of a class holds the package of the class. A nested class shares the one of the class
around it. -/
theorem Sound.text?_package (sound : r.Sound) {name : ClassName} {package own : NameId}
    {around : Option Handle} (typed : r.typeOf id = .ok (.rawClass name))
    (known : r.shape? id = some (.rawClass package around own)) :
    r.names.text? package = some name.package := by
  induction name generalizing id around own with
  | topLevel packageText simple =>
    cases (sound.typeOf_of_shape? known).mp typed with
    | topLevel inPackage named => exact inPackage
  | nested outer simple ih =>
    cases (sound.typeOf_of_shape? known).mp typed with
    | nested inside named =>
      obtain ⟨_, _, outerKnown⟩ := (sound.admitted _ _ known).2.2 _ rfl
      exact ih inside outerKnown

/-- The class around a class is found behind its handle. -/
theorem Sound.outer_rawClass (sound : r.Sound) {name : ClassName}
    (typed : r.typeOf id = .ok (.rawClass name)) :
    ∃ package around own, r.shape? id = some (.rawClass package around own) ∧
      Option.Rel (fun outer name => r.typeOf outer = .ok (.rawClass name)) around name.outer? := by
  obtain ⟨shape, known, forms⟩ := sound.typeOf_eq_ok_iff.mp typed
  cases forms with
  | topLevel inPackage named => exact ⟨_, _, _, known, .none⟩
  | nested inside named => exact ⟨_, _, _, known, .some inside⟩

theorem Sound.packageName_ok (sound : r.Sound) (typed : r.typeOf id = .ok type) :
    r.packageName id = .ok type.package? := by
  obtain ⟨raw, erased, rawTyped⟩ := sound.erasure_ok typed
  rw [packageName, erased]
  show (r.shape raw >>= _) = _
  cases type with
  | primitive kind | array element =>
    obtain ⟨shape, known, forms⟩ := sound.typeOf_eq_ok_iff.mp rawTyped
    rw [shape_of_shape? known]
    cases forms
    rfl
  | rawClass name | parameterized name arguments =>
    obtain ⟨package, around, own, known, _⟩ := sound.outer_rawClass rawTyped
    rw [shape_of_shape? known]
    show (r.nameText package >>= _) = _
    rw [nameText_eq_ok_iff.mpr (sound.text?_package rawTyped known)]
    rfl

theorem Sound.outer_ok (sound : r.Sound) (typed : r.typeOf id = .ok type) :
    ∃ around, r.outer id = .ok around ∧
      Option.Rel (fun outer name => r.typeOf outer = .ok (.rawClass name)) around type.outer? := by
  obtain ⟨raw, erased, rawTyped⟩ := sound.erasure_ok typed
  rw [outer, erased]
  show ∃ around, (r.shape raw >>= _) = .ok around ∧ _
  cases type with
  | primitive kind | array element =>
    obtain ⟨shape, known, forms⟩ := sound.typeOf_eq_ok_iff.mp rawTyped
    rw [shape_of_shape? known]
    cases forms
    exact ⟨none, rfl, .none⟩
  | rawClass name | parameterized name arguments =>
    obtain ⟨package, around, own, known, inside⟩ := sound.outer_rawClass rawTyped
    rw [shape_of_shape? known]
    exact ⟨around, rfl, inside⟩

/-! ### Reports and views -/

/-- The full names of several handles. -/
theorem mapM_fullName {ids : List Handle} {types : List JavaType}
    (each : List.Forall₂ (fun id type => r.typeOf id = .ok type) ids types) :
    ids.mapM r.fullName = .ok (types.map JavaType.fullName) :=
  mapM_eq_ok_iff.mpr <| List.forall₂_map_right_iff.mpr <|
    each.imp fun _ _ typed => fullName_of_typeOf typed

/-- **The report on a handle is the report on its type.** -/
theorem Sound.report_ok (sound : r.Sound) (typed : r.typeOf id = .ok type) :
    r.report id = .ok type.report := by
  obtain ⟨shape, known, forms⟩ := sound.typeOf_eq_ok_iff.mp typed
  obtain ⟨arguments, applied, each⟩ := sound.typeArguments_ok typed
  obtain ⟨box, boxes, boxTyped⟩ := sound.boxed_ok typed
  obtain ⟨unbox, unboxes, unboxTyped⟩ := sound.unboxed_ok typed
  obtain ⟨raw, erased, rawTyped⟩ := sound.erasure_ok typed
  rw [report, shape_of_shape? known]
  simp only [bind, Except.bind, pure, Except.pure, fullName_of_typeOf typed,
    binaryName_of_typeOf typed, simpleName, descriptor, typed, sound.packageName_ok typed, applied,
    mapM_fullName each, boxes, fullName_of_typeOf boxTyped, unboxes, fullName_of_typeOf unboxTyped,
    erased, fullName_of_typeOf rawTyped]
  cases forms with
  | array elements =>
    simp only [fullName_of_typeOf elements]
    rfl
  | primitive | topLevel inPackage named | nested inside named | parameterized applied each => rfl

theorem Sound.viewDebugText_ok (sound : r.Sound) (typed : r.typeOf id = .ok type) :
    (View.mk r id).debugText = .ok (type.viewName ++ "(" ++ type.fullName ++ ")") := by
  obtain ⟨shape, known, forms⟩ := sound.typeOf_eq_ok_iff.mp typed
  simp only [View.debugText, View.text, shape_of_shape? known, fullName_of_typeOf typed, bind,
    Except.bind]
  cases forms <;> rfl

/-! ### All queries -/

/-- **What a registry tells about a handle whose type is the tree `type`.** -/
structure Tells (r : Registry) (id : Handle) (type : JavaType) : Prop where
  shape : ∃ shape, r.shape id = .ok shape ∧ shape.kindName = type.kindName
  fullName : r.fullName id = .ok type.fullName
  binaryName : r.binaryName id = .ok type.binaryName
  simpleName : r.simpleName id = .ok type.simpleName
  descriptor : r.descriptor id = .ok type.descriptor
  primitive? : r.primitive? id = .ok type.primitive?
  isPrimitive : r.isPrimitive id = .ok type.primitive?.isSome
  isReference : r.isReference id = .ok !type.primitive?.isSome
  isArray : r.isArray id = .ok type.element?.isSome
  packageName : r.packageName id = .ok type.package?
  outer : ∃ around, r.outer id = .ok around ∧
    Option.Rel (fun outer name => r.typeOf outer = .ok (.rawClass name)) around type.outer?
  typeArguments : ∃ ids, r.typeArguments id = .ok ids ∧
    List.Forall₂ (fun argument type => r.typeOf argument = .ok type) ids type.arguments
  /-- An array has its elements' type, and every other type is refused by its full name. -/
  elementType : match type.element? with
    | some element => ∃ part, r.elementType id = .ok part ∧ r.typeOf part = .ok element
    | none => r.elementType id = .error (.refused (.notArray type.fullName))
  boxed : ∃ box, r.boxed id = .ok box ∧ r.typeOf box = .ok type.boxed
  unboxed : ∃ unbox, r.unboxed id = .ok unbox ∧ r.typeOf unbox = .ok type.unboxed
  erasure : ∃ raw, r.erasure id = .ok raw ∧ r.typeOf raw = .ok type.erased
  report : r.report id = .ok type.report
  view : r.view id = .ok ⟨r, id⟩
  viewText : (View.mk r id).text = .ok type.fullName
  viewDebugText : (View.mk r id).debugText = .ok (type.viewName ++ "(" ++ type.fullName ++ ")")

/-- **A sound registry tells everything about a handle that has a type.** -/
theorem Sound.tells (sound : r.Sound) (typed : r.typeOf id = .ok type) : r.Tells id type where
  shape := sound.shape_ok typed
  fullName := fullName_of_typeOf typed
  binaryName := binaryName_of_typeOf typed
  simpleName := by rw [simpleName, typed]; rfl
  descriptor := by rw [descriptor, typed]; rfl
  primitive? := sound.primitive?_ok typed
  isPrimitive := by rw [isPrimitive, sound.primitive?_ok typed]; rfl
  isReference := by rw [isReference, isPrimitive, sound.primitive?_ok typed]; rfl
  isArray := sound.isArray_ok typed
  packageName := sound.packageName_ok typed
  outer := sound.outer_ok typed
  typeArguments := sound.typeArguments_ok typed
  elementType := sound.elementType_ok typed
  boxed := sound.boxed_ok typed
  unboxed := sound.unboxed_ok typed
  erasure := sound.erasure_ok typed
  report := sound.report_ok typed
  view := by
    obtain ⟨shape, asked, _⟩ := sound.shape_ok typed
    rw [view, asked]
    rfl
  viewText := fullName_of_typeOf typed
  viewDebugText := sound.viewDebugText_ok typed

end Registry

end JavaTypes
