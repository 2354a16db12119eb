/-
**The classes that a type mentions.**

An import names a top-level class, and importing it makes the classes nested in it visible too. So
of every class in a type the outermost one counts. What a handle mentions is found along handles; in
a sound registry it is what the tree of its type mentions, from left to right.

* `ClassName.outermost`: the outermost of the classes around a class.
* `JavaType.classes`, `JavaType.outermostClasses`: the classes that occur in a type, and the
  outermost of the classes around each of them.
* `Registry.OfClasses`: handles of given classes.
* `Registry.Sound.outermostWithin_ok`: the way up from a class ends at its outermost class, before
  as many steps as the class has older handles.
* `Registry.Sound.mentionedClasses_ok`: what a handle mentions are the outermost classes in its
  type.
-/

import JavaTypes.Imports
import JavaTypes.Proofs.TypeTrees

namespace JavaTypes

/-! ### Classes in trees -/

/-- The outermost of the classes around a class, itself included. -/
def ClassName.outermost : ClassName → ClassName
  | topLevel package name => topLevel package name
  | nested outer _ => outer.outermost

/-- The outermost class is a top-level one. -/
theorem ClassName.outermost_eq_topLevel (name : ClassName) :
    ∃ package simple, name.outermost = topLevel package simple := by
  induction name with
  | topLevel package simple => exact ⟨package, simple, rfl⟩
  | nested outer simple ih => exact ih

namespace JavaType

mutual

/-- The classes that occur in a type, from left to right: a class with type arguments comes before
those in its arguments. -/
def classes : JavaType → List ClassName
  | primitive _ => []
  | rawClass name => [name]
  | parameterized basis arguments => basis :: classesEach arguments
  | array element => classes element

/-- The classes that occur in a list of types. -/
def classesEach : List JavaType → List ClassName
  | [] => []
  | first :: rest => classes first ++ classesEach rest

end

theorem classesEach_eq_flatten (types : List JavaType) :
    classesEach types = (types.map classes).flatten := by
  induction types with
  | nil => rfl
  | cons first rest ih => rw [classesEach, ih, List.map_cons, List.flatten_cons]

/-- The outermost of the classes around each class in a type, as often as one is found. -/
def outermostClasses (type : JavaType) : List ClassName := type.classes.map ClassName.outermost

theorem outermostClasses_parameterized (basis : ClassName) (arguments : List JavaType) :
    (parameterized basis arguments).outermostClasses =
      ((rawClass basis :: arguments).map outermostClasses).flatten := by
  show (basis :: classesEach arguments).map ClassName.outermost = _
  rw [classesEach_eq_flatten, List.map_cons, List.map_flatten, List.map_map]
  rfl

end JavaType

namespace Registry

variable {r : Registry} {id : Handle}

/-! ### The way up from a class -/

/-- The handles are those of the classes, one by one. -/
def OfClasses (r : Registry) (ids : List Handle) (classes : List ClassName) : Prop :=
  List.Forall₂ (fun id name => r.typeOf id = .ok (.rawClass name)) ids classes

theorem outer_of_rawClass {package name : NameId} {around : Option Handle}
    (known : r.shape? id = some (.rawClass package around name)) : r.outer id = .ok around := by
  have same : r.erasure id = .ok id := by
    rw [erasure, shape_of_shape? known]
    rfl
  unfold outer
  rw [same]
  show (r.shape id >>= _) = _
  rw [shape_of_shape? known]
  rfl

/-- **The way up from a class ends at its outermost class.** The classes on it are older and older,
so there are no more of them than the index of the first one allows. -/
theorem Sound.outermostWithin_ok (sound : r.Sound) {name : ClassName} {depth : Nat}
    (typed : r.typeOf id = .ok (.rawClass name)) (enough : id.index < depth) :
    ∃ top, r.outermostWithin depth id = .ok top ∧ r.typeOf top = .ok (.rawClass name.outermost) := by
  induction name generalizing id depth with
  | topLevel package simple =>
    obtain ⟨depth, rfl⟩ := Nat.exists_eq_add_one_of_ne_zero (Nat.ne_zero_of_lt enough)
    obtain ⟨shape, known, forms⟩ := sound.typeOf_eq_ok_iff.mp typed
    cases forms with
    | topLevel inPackage named =>
      refine ⟨id, ?_, typed⟩
      rw [outermostWithin, outer_of_rawClass known]
      rfl
  | nested around simple ih =>
    obtain ⟨depth, rfl⟩ := Nat.exists_eq_add_one_of_ne_zero (Nat.ne_zero_of_lt enough)
    obtain ⟨shape, known, forms⟩ := sound.typeOf_eq_ok_iff.mp typed
    cases forms with
    | @nested package _ outer _ _ inside named =>
      have below := sound.older id _ known outer List.mem_cons_self
      obtain ⟨top, found, topTyped⟩ := ih inside (show outer.index < depth by omega)
      refine ⟨top, ?_, topTyped⟩
      rw [outermostWithin, outer_of_rawClass known]
      exact found

/-! ### What a handle mentions -/

theorem mentionedWithin_array (depth : Nat) {element : Handle}
    (known : r.shape? id = some (.array element)) :
    r.mentionedWithin (depth + 1) id = r.mentionedWithin depth element := by
  rw [mentionedWithin, shape_of_shape? known]
  rfl

theorem mentionedWithin_parameterized (depth : Nat) {basis : Handle} {arguments : List Handle}
    (known : r.shape? id = some (.parameterized basis arguments)) :
    r.mentionedWithin (depth + 1) id =
      ((basis :: arguments).mapM (r.mentionedWithin depth) >>= fun tops => pure tops.flatten) := by
  rw [mentionedWithin, shape_of_shape? known]
  rfl

/-- A class mentions its outermost class. -/
theorem Sound.mentionedWithin_rawClass (sound : r.Sound) (depth : Nat) {name : ClassName}
    (typed : r.typeOf id = .ok (.rawClass name)) :
    ∃ tops, r.mentionedWithin (depth + 1) id = .ok tops ∧ r.OfClasses tops [name.outermost] := by
  obtain ⟨top, found, topTyped⟩ := sound.outermostWithin_ok typed (Nat.lt_succ_self _)
  obtain ⟨package, around, own, known⟩ := sound.shape?_of_rawClass typed
  refine ⟨[top], ?_, .cons topTyped .nil⟩
  rw [mentionedWithin, shape_of_shape? known]
  show (r.outermost id >>= _) = _
  rw [outermost, found]
  rfl

/-- Any bound beyond the index of a handle is enough to find the outermost classes in its type. The
induction is on the bound: it falls by one from a type to its components. -/
theorem Sound.mentionedWithin_ok (sound : r.Sound) {type : JavaType} {depth : Nat}
    (typed : r.typeOf id = .ok type) (enough : id.index < depth) :
    ∃ tops, r.mentionedWithin depth id = .ok tops ∧ r.OfClasses tops type.outermostClasses := by
  induction depth generalizing id type with
  | zero => cases enough
  | succ depth ih =>
    obtain ⟨shape, known, forms⟩ := sound.typeOf_eq_ok_iff.mp typed
    have component : ∀ part ∈ shape.components, ∀ {type : JavaType}, r.typeOf part = .ok type →
        ∃ tops, r.mentionedWithin depth part = .ok tops ∧
          r.OfClasses tops type.outermostClasses := fun part member type typed => by
      have below := sound.older id shape known part member
      exact ih typed (by omega)
    cases forms with
    | primitive =>
      rw [mentionedWithin, shape_of_shape? known]
      exact ⟨[], rfl, .nil⟩
    | topLevel inPackage named => exact sound.mentionedWithin_rawClass depth typed
    | nested inside named => exact sound.mentionedWithin_rawClass depth typed
    | @parameterized basis arguments generic types applied each =>
      obtain ⟨lists, found, classes⟩ := exists_forall₂_between
        (.cons applied each : List.Forall₂ (fun part type => r.typeOf part = .ok type)
          (basis :: arguments) (.rawClass generic :: types)) component
      refine ⟨lists.flatten, ?_, ?_⟩
      · rw [mentionedWithin_parameterized depth known, mapM_eq_ok_iff.mpr found]
        rfl
      · rw [JavaType.outermostClasses_parameterized]
        exact List.rel_flatten (List.forall₂_map_right_iff.mpr classes)
    | array elements =>
      have found := component _ (List.mem_singleton_self _) elements
      rw [mentionedWithin_array depth known]
      exact found

/-- **What a handle mentions are the outermost classes in its type**, in the order in which they
occur there. -/
theorem Sound.mentionedClasses_ok (sound : r.Sound) {type : JavaType}
    (typed : r.typeOf id = .ok type) :
    ∃ tops, r.mentionedClasses id = .ok tops ∧ r.OfClasses tops type.outermostClasses :=
  sound.mentionedWithin_ok typed (Nat.lt_succ_self _)

end Registry

end JavaTypes
