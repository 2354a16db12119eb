/-
**Which types share a full name.**

A full name has the same dot between the segments of a package as before a nested class, so it does
not tell where the package ends. That is all it does not tell: with every class flattened to the
list of its segments, types of the same full name are the same. A binary name has a dollar sign
where the full name has the dot before a nested class. So the two are equally long, and they are
compared piece by piece.

* `ClassName.segments`, `JavaType.flattened`: a class as a list of segments, and a type in which
  every class is one.
* `ClassName.Legal.segments_fullName`: splitting the full name of a class gives its segments.
* `JavaType.Legal.fullName_eq_iff`: the types with the same full name.
* `JavaType.Legal.textWith_eq_iff`: two ways to write classes with equally many characters.
* `JavaType.Legal.fullName_eq_binaryName_iff`: the types whose binary name is their full name.
* `Registry.full_names_shared`: the full names of handles.
-/

import JavaTypes.Proofs.Boxing
import JavaTypes.Proofs.Spelling

namespace JavaTypes

/-! ### Texts of equal length -/

section Lengths

variable {front front' back back' separator : String} {texts texts' : List String}

/-- Texts that begin with equally many characters are compared part by part. -/
theorem append_inj_of_length (alike : front.length = front'.length)
    (same : front ++ back = front' ++ back') : front = front' ∧ back = back' := by
  rw [← String.toList_inj, String.toList_append, String.toList_append] at same
  obtain ⟨fronts, backs⟩ :=
    List.append_inj same (by rwa [String.length_toList, String.length_toList])
  exact ⟨String.toList_inj.mp fronts, String.toList_inj.mp backs⟩

/-- The two lists have equally many texts, and these are equally long, one by one. -/
def EquallyLong (texts texts' : List String) : Prop :=
  List.Forall₂ (fun text text' => text.length = text'.length) texts texts'

theorem equallyLong_map {α : Type} {as : List α} {write write' : α → String}
    (alike : ∀ a ∈ as, (write a).length = (write' a).length) :
    EquallyLong (as.map write) (as.map write') :=
  List.forall₂_map_left_iff.mpr (List.forall₂_map_right_iff.mpr (List.forall₂_same.mpr alike))

theorem EquallyLong.length_intercalate (alike : EquallyLong texts texts') :
    (separator.intercalate texts).length = (separator.intercalate texts').length := by
  induction alike with
  | nil => rfl
  | @cons first first' rest rest' same others ih =>
    cases others with
    | nil => rwa [String.intercalate_singleton, String.intercalate_singleton]
    | cons =>
      rw [String.intercalate_cons_of_ne_nil (List.cons_ne_nil _ _),
        String.intercalate_cons_of_ne_nil (List.cons_ne_nil _ _)]
      simp only [String.length_append, same, ih]

/-- Equally long texts with a separator between them are compared one by one. -/
theorem EquallyLong.intercalate_inj (alike : EquallyLong texts texts')
    (same : separator.intercalate texts = separator.intercalate texts') : texts = texts' := by
  induction alike with
  | nil => rfl
  | @cons first first' rest rest' here others ih =>
    cases others with
    | nil =>
      rw [String.intercalate_singleton, String.intercalate_singleton] at same
      rw [same]
    | cons =>
      rw [String.intercalate_cons_of_ne_nil (List.cons_ne_nil _ _),
        String.intercalate_cons_of_ne_nil (List.cons_ne_nil _ _), String.append_assoc,
        String.append_assoc] at same
      obtain ⟨firsts, behind⟩ := append_inj_of_length here same
      rw [firsts, ih ((String.append_right_inj separator).mp behind)]

end Lengths

/-! ### Classes as lists of segments -/

namespace ClassName

/-- The segments of a class: those of its package, and then the simple names of the classes around
it and its own. -/
def segments : ClassName → List String
  | topLevel package name => (if package = "" then [] else Name.segments package) ++ [name]
  | nested outer name => outer.segments ++ [name]

variable {name other : ClassName}

theorem segments_ne_nil (name : ClassName) : name.segments ≠ [] := by
  cases name <;> exact List.append_ne_nil_of_right_ne_nil _ (List.cons_ne_nil _ _)

/-- **A full name is made of segments with dots between them.** -/
theorem fullName_eq_intercalate (name : ClassName) :
    name.fullName = ".".intercalate name.segments := by
  have behind : ∀ {front : List String} {own : String}, front ≠ [] →
      ".".intercalate (front ++ [own]) = ".".intercalate front ++ "." ++ own := fun nonempty => by
    rw [String.intercalate_append_of_ne_nil nonempty (List.cons_ne_nil _ _),
      String.intercalate_singleton]
  induction name with
  | topLevel package own =>
    rw [fullName, qualifiedWith, segments]
    by_cases empty : package = ""
    · rw [if_pos empty, if_pos empty, List.nil_append, String.intercalate_singleton]
    · rw [if_neg empty, if_neg empty, behind (Name.segments_ne_nil package),
        Name.segments_toList]
  | nested outer own ih =>
    rw [segments, behind outer.segments_ne_nil, ← ih]
    rfl

/-- Every segment of a legal class is one of a name. -/
theorem Legal.isSegment (legal : name.Legal) :
    ∀ segment ∈ name.segments, Name.IsSegment segment := by
  intro segment member
  induction name with
  | topLevel package own =>
    rcases List.mem_append.mp member with inPackage | inOwn
    · by_cases empty : package = ""
      · rw [if_pos empty] at inPackage
        cases inPackage
      · rw [if_neg empty] at inPackage
        exact Name.isSegment_iff.mpr
          ((Name.isPackage_iff package).mp (legal.1.resolve_left empty) segment inPackage)
    · rw [List.mem_singleton.mp inOwn]
      exact (Name.isNestedName_iff_isSegment.mp legal.2).1
  | nested outer own ih =>
    rcases List.mem_append.mp member with inOuter | inOwn
    · exact ih legal.1 inOuter
    · rw [List.mem_singleton.mp inOwn]
      exact (Name.isNestedName_iff_isSegment.mp legal.2).1

/-- **Splitting the full name of a class gives its segments.** -/
theorem Legal.segments_fullName (legal : name.Legal) :
    Name.segments name.fullName = name.segments := by
  rw [fullName_eq_intercalate]
  exact Name.segments_intercalate name.segments_ne_nil fun segment member =>
    (legal.isSegment segment member).plain

/-- The full name of any class is also that of a top-level class. -/
theorem Legal.isClassName_fullName (legal : name.Legal) :
    Name.isClassName name.fullName = true := by
  have parts : name.segments.dropLast ++ [name.simpleName] = name.segments := by
    cases name <;> simp [segments, ClassName.simpleName]
  refine Name.isClassName_iff_spelled.mpr ⟨name.segments.dropLast, name.simpleName, ?_, ?_, ?_⟩
  · rw [parts, fullName_eq_intercalate]
  · rw [parts]
    exact legal.isSegment
  · exact (Name.isNestedName_iff_isSegment.mp legal.simpleName).2

/-- That top-level class has the same segments. -/
theorem Legal.segments_named (legal : name.Legal) :
    (named name.fullName).segments = name.segments := by
  have accepted := legal.isClassName_fullName
  have legal' : (named name.fullName).Legal :=
    ⟨Name.qualifier_of_isClassName accepted, Name.isNestedName_lastSegment accepted⟩
  rw [← legal'.segments_fullName, fullName_named accepted, legal.segments_fullName]

theorem length_fullName (name : ClassName) : name.fullName.length = name.binaryName.length := by
  induction name with
  | topLevel package own => rfl
  | nested outer own ih =>
    show (outer.fullName ++ "." ++ own).length = (outer.binaryName ++ "$" ++ own).length
    simp only [String.length_append, ih]
    rfl

/-- **The top-level classes are those with their full name as their binary name.** -/
theorem fullName_eq_binaryName_iff : name.fullName = name.binaryName ↔ name.outer? = none := by
  cases name with
  | topLevel package own => exact ⟨fun _ => rfl, fun _ => rfl⟩
  | nested outer own =>
    refine ⟨fun same => ?_, nofun⟩
    have written : outer.fullName ++ "." ++ own = outer.binaryName ++ "$" ++ own := same
    rw [String.append_left_inj] at written
    obtain ⟨_, marks⟩ := append_inj_of_length outer.length_fullName written
    exact absurd marks (by decide)

end ClassName

/-! ### Flat types -/

/-- A type in which every class is the list of its segments. -/
inductive FlatType where
  | primitive (kind : Primitive)
  | rawClass (segments : List String)
  | parameterized (basis : List String) (arguments : List FlatType)
  | array (element : FlatType)
  deriving Repr

namespace FlatType

mutual

/-- The text of a flat type, with dots between segments. -/
protected def text : FlatType → String
  | primitive kind => kind.keyword
  | rawClass segments => ".".intercalate segments
  | parameterized basis arguments =>
    ".".intercalate basis ++ "<" ++ ",".intercalate (texts arguments) ++ ">"
  | array element => element.text ++ "[]"

/-- The texts of a list of flat types. -/
def texts : List FlatType → List String
  | [] => []
  | first :: rest => first.text :: texts rest

end

theorem texts_eq_map (types : List FlatType) : texts types = types.map FlatType.text := by
  induction types with
  | nil => rfl
  | cons first rest ih => rw [texts, ih, List.map_cons]

end FlatType

namespace JavaType

mutual

/-- The type with every class flattened to the list of its segments. -/
def flattened : JavaType → FlatType
  | primitive kind => .primitive kind
  | rawClass name => .rawClass name.segments
  | parameterized basis arguments => .parameterized basis.segments (flattenedEach arguments)
  | array element => .array element.flattened

/-- The types of a list with every class flattened. -/
def flattenedEach : List JavaType → List FlatType
  | [] => []
  | first :: rest => first.flattened :: flattenedEach rest

end

theorem flattenedEach_eq_map (types : List JavaType) :
    flattenedEach types = types.map flattened := by
  induction types with
  | nil => rfl
  | cons first rest ih => rw [flattenedEach, ih, List.map_cons]

variable {type other : JavaType}

/-- **The full name is the text of the flat type.** -/
theorem Legal.fullName_eq_text (legal : type.Legal) : type.fullName = type.flattened.text := by
  induction legal with
  | primitive kind => rfl
  | @rawClass name legal => exact name.fullName_eq_intercalate
  | @parameterized generic arguments legal nonempty each ih =>
    have applied : arguments.map fullName = (arguments.map flattened).map FlatType.text := by
      rw [List.map_map]
      exact List.map_congr_left ih
    rw [flattened, FlatType.text, FlatType.texts_eq_map, flattenedEach_eq_map, ← applied,
      ← generic.fullName_eq_intercalate, fullName, textWith, textsWith_eq_map]
  | array legal ih => rw [flattened, FlatType.text, ← ih, fullName, textWith]

/-- Flattening looks at nothing but the full names of classes. -/
theorem Legal.flattened_mapClasses (legal : type.Legal) :
    (type.mapClasses fun name => .named name.fullName).flattened = type.flattened := by
  induction legal with
  | primitive kind => rfl
  | rawClass legal => rw [mapClasses, flattened, flattened, legal.segments_named]
  | parameterized legal nonempty each ih =>
    rw [mapClasses, mapClassesEach_eq_map, flattened, flattened, flattenedEach_eq_map,
      flattenedEach_eq_map, legal.segments_named, List.map_map]
    exact congrArg _ (List.map_congr_left ih)
  | array legal ih => rw [mapClasses, flattened, ih, flattened]

/-- **The types with the same full name** are those that flattening makes equal. -/
theorem Legal.fullName_eq_iff (legal : type.Legal) (legal' : other.Legal) :
    type.fullName = other.fullName ↔ type.flattened = other.flattened := by
  constructor
  · intro same
    rw [← legal.flattened_mapClasses, ← legal'.flattened_mapClasses,
      mapClasses_eq_of_textWith_eq ClassName.legible_fullName legal legal' same]
  · intro same
    rw [legal.fullName_eq_text, legal'.fullName_eq_text, same]

/-! ### Two ways to write classes -/

section Writing

variable {write write' : ClassName → String}

/-- Texts of types are equally long if those of classes are. -/
theorem Legal.length_textWith (alike : ∀ name, (write name).length = (write' name).length)
    (legal : type.Legal) : (textWith write type).length = (textWith write' type).length := by
  induction legal with
  | primitive kind => rfl
  | @rawClass name legal => exact alike name
  | @parameterized generic arguments legal nonempty each ih =>
    simp only [textWith, textsWith_eq_map, String.length_append, alike generic,
      (equallyLong_map ih).length_intercalate]
  | array legal ih => rw [textWith, textWith, String.length_append, String.length_append, ih]

/-- **Types are written alike exactly if each of their classes is**, when both ways to write a class
take equally many characters. -/
theorem Legal.textWith_eq_iff (alike : ∀ name, (write name).length = (write' name).length)
    (legal : type.Legal) :
    textWith write type = textWith write' type ↔
      ∀ name ∈ type.classes, write name = write' name := by
  induction legal with
  | primitive kind => exact ⟨fun _ _ => nofun, fun _ => rfl⟩
  | rawClass legal => simp only [textWith, classes, List.forall_mem_singleton]
  | @parameterized generic arguments legal nonempty each ih =>
    have applied : EquallyLong (arguments.map (textWith write)) (arguments.map (textWith write')) :=
      equallyLong_map fun argument member => (each argument member).length_textWith alike
    have arguments_iff : arguments.map (textWith write) = arguments.map (textWith write') ↔
        ∀ name ∈ classesEach arguments, write name = write' name := by
      rw [List.map_inj_left, classesEach_eq_flatten]
      simp only [List.mem_flatten, List.mem_map, exists_exists_and_eq_and]
      constructor
      · rintro same name ⟨argument, member, inside⟩
        exact (ih argument member).mp (same argument member) name inside
      · intro same argument member
        exact (ih argument member).mpr fun name inside => same name ⟨argument, member, inside⟩
    rw [classes, List.forall_mem_cons, ← arguments_iff, textWith, textWith, textsWith_eq_map,
      textsWith_eq_map, String.append_left_inj]
    constructor
    · intro same
      rw [String.append_assoc, String.append_assoc] at same
      obtain ⟨generics, behind⟩ := append_inj_of_length (alike generic) same
      exact ⟨generics, applied.intercalate_inj ((String.append_right_inj "<").mp behind)⟩
    · rintro ⟨generics, same⟩
      rw [generics, same]
  | array legal ih => rw [textWith, textWith, String.append_left_inj, ih, classes]

end Writing

theorem Legal.length_fullName (legal : type.Legal) :
    type.fullName.length = type.binaryName.length :=
  legal.length_textWith ClassName.length_fullName

/-- **The types with their full name as their binary name** are those in which every class is a
top-level one. -/
theorem Legal.fullName_eq_binaryName_iff (legal : type.Legal) :
    type.fullName = type.binaryName ↔ ∀ name ∈ type.classes, name.outer? = none := by
  simp only [← ClassName.fullName_eq_binaryName_iff]
  exact legal.textWith_eq_iff ClassName.length_fullName

end JavaType

/-! ### The full names of handles -/

namespace Registry

/-- **Full names are shared exactly by the types that differ in nesting alone.** Take the registry
of any session that requests lead to, and two issued handles. They have the same full name exactly
if their types are equal once every class in them is flattened to the list of its segments. The
full name and the binary name of a handle are equally long, and they are equal exactly if no class
that occurs in the type, wherever that may be, is nested in another. Among handles of such types,
those with the same full name are equal. -/
theorem full_names_shared (calls : List Call) (a b : Handle)
    (issued : (Session.initial.after calls).registry.Issued a)
    (issued' : (Session.initial.after calls).registry.Issued b) :
    let r := (Session.initial.after calls).registry
    ∃ type other full full' binary, r.typeOf a = .ok type ∧ r.typeOf b = .ok other ∧
      r.fullName a = .ok full ∧ r.fullName b = .ok full' ∧ r.binaryName a = .ok binary ∧
      (full = full' ↔ type.flattened = other.flattened) ∧
      full.length = binary.length ∧
      (full = binary ↔ ∀ name ∈ type.classes, name.outer? = none) ∧
      ((∀ name ∈ type.classes, name.outer? = none) →
        (∀ name ∈ other.classes, name.outer? = none) → full = full' → a = b) := by
  intro r
  have sound : r.Sound := Session.sound_after_initial calls
  obtain ⟨type, typed, legal, named⟩ := sound.binaryName_of_issued issued
  obtain ⟨other, typed'⟩ := sound.typeOf_total issued'
  have legal' := sound.legal_typeOf typed'
  refine ⟨type, other, _, _, _, typed, typed', fullName_of_typeOf typed, fullName_of_typeOf typed',
    named, legal.fullName_eq_iff legal', legal.length_fullName, legal.fullName_eq_binaryName_iff,
    fun flat flat' same => ?_⟩
  rw [legal.fullName_eq_binaryName_iff.mpr flat,
    legal'.fullName_eq_binaryName_iff.mpr flat'] at same
  rw [← JavaType.binaryName_injective legal legal' same] at typed'
  exact sound.typeOf_injective typed typed'

/-- A nested class applied to a top-level one of the same full name, and the other way round. -/
theorem full_names_shared_crossed :
    let r := (Session.initial.after [.reference "a", .nested ⟨18⟩ "B", .reference "a.B",
      .narrow ⟨19⟩ [⟨20⟩], .narrow ⟨20⟩ [⟨19⟩]]).registry
    r.Issued ⟨21⟩ ∧ r.Issued ⟨22⟩ ∧ r.fullName ⟨21⟩ = .ok "a.B<a.B>" ∧
      r.fullName ⟨22⟩ = .ok "a.B<a.B>" ∧ r.binaryName ⟨21⟩ = .ok "a$B<a.B>" ∧
      ∃ type other, r.typeOf ⟨21⟩ = .ok type ∧ r.typeOf ⟨22⟩ = .ok other ∧
        type.flattened = other.flattened ∧ ∃ name ∈ type.classes, name.outer? ≠ none := by
  intro r
  have count : r.typeCount = 23 := by subst r; cbv
  have names : [r.fullName ⟨21⟩, r.fullName ⟨22⟩, r.binaryName ⟨21⟩] =
      [.ok "a.B<a.B>", .ok "a.B<a.B>", .ok "a$B<a.B>"] := by subst r; cbv
  simp only [List.cons.injEq, and_true] at names
  obtain ⟨named, named', binaryNamed⟩ := names
  have issued : r.Issued ⟨21⟩ ∧ r.Issued ⟨22⟩ := by
    rw [Issued, Issued, count]
    decide
  obtain ⟨type, other, full, full', binary, typed, typed', fullIs, fullIs', binaryIs, shared, _,
    flat, _⟩ := full_names_shared [.reference "a", .nested ⟨18⟩ "B", .reference "a.B",
      .narrow ⟨19⟩ [⟨20⟩], .narrow ⟨20⟩ [⟨19⟩]] ⟨21⟩ ⟨22⟩ issued.1 issued.2
  cases named.symm.trans fullIs
  cases named'.symm.trans fullIs'
  cases binaryNamed.symm.trans binaryIs
  have different : ("a.B<a.B>" : String) ≠ "a$B<a.B>" := by decide
  have nested : ∃ name ∈ type.classes, name.outer? ≠ none := by
    by_contra none
    exact different (flat.mpr fun name member => by
      by_contra outer
      exact none ⟨name, member, outer⟩)
  exact ⟨issued.1, issued.2, named, named', binaryNamed, type, other, typed, typed',
    shared.mp rfl, nested⟩

end Registry

end JavaTypes
