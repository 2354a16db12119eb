/-
**Types in writing.**

A type is described by a name, the names of its type arguments and a number of dimensions.
Resolving a description has one outcome, and it can be told from the strings: the description is
refused for a reason that can be read off it, or it is answered with a handle of a type whose names
are the description itself.

* `TypeExpr.fault?`, `TypeExpr.type`: why a description is refused, and the type that it describes.
* `TypeExpr.resolve_ends`: a description ends with its fault or with its type.
* `TypeExpr.textWith`, `TypeExpr.descriptor`: the description as text.
* `TypeExpr.textWith_type`, `TypeExpr.descriptor_type`: these are the texts of the type.
* `TypeExpr.resolve_by_text`: resolving a description, told from the strings.
-/

import JavaTypes.Proofs.Resolution

namespace JavaTypes

namespace TypeExpr

open Session

variable {s : Session} {e : TypeExpr}

/-! ### The outcome of a description -/

/-- Why a description is refused although its names stand for types: type arguments are not applied
to a primitive, `void` is none of them, and `void` has no dimensions. -/
def misuse? (e : TypeExpr) : Option Refusal :=
  if e.arguments ≠ [] ∧ (Primitive.ofKeyword? e.name).isSome then some (.notClass e.name)
  else if "void" ∈ e.arguments then some .voidTypeArgument
  else if e.dimensions ≠ 0 ∧ e.name = "void" then some .arrayOfVoid
  else none

/-- Without type arguments only dimensions can be misused. -/
theorem misuse?_plain (plain : e.arguments = []) :
    e.misuse? = if e.dimensions ≠ 0 ∧ e.name = "void" then some .arrayOfVoid else none := by
  rw [misuse?, if_neg (by simp [plain]), if_neg (by simp [plain])]

/-- Nothing is applied to a primitive. -/
theorem misuse?_keyword {kind : Primitive} (several : e.arguments ≠ [])
    (keyword : e.name = kind.keyword) : e.misuse? = some (.notClass kind.keyword) := by
  have known : (Primitive.ofKeyword? e.name).isSome := by
    rw [keyword, Primitive.ofKeyword?_keyword]
    rfl
  rw [misuse?, if_pos ⟨several, known⟩, keyword]

/-- A class can have dimensions, and any type arguments other than `void`. -/
theorem misuse?_class (accepted : Name.isClassName e.name = true) :
    e.misuse? = if "void" ∈ e.arguments then some .voidTypeArgument else none := by
  have noKeyword := Primitive.ofKeyword?_of_isClassName accepted
  have sized : e.name ≠ "void" := by
    intro same
    rw [same] at noKeyword
    cases noKeyword
  have unsized : ¬ (e.dimensions ≠ 0 ∧ e.name = "void") := fun void => sized void.2
  rw [misuse?, if_neg (by simp [noKeyword]), if_neg unsized]

/-- The refusal of the description, blamed on its name. -/
def blame (e : TypeExpr) (why : Refusal) : ResolveError := ⟨e.name, .refused why⟩

/-- **Why a description is refused**, if it is. The first string that is no name of a type is blamed
for it; any other failure is blamed on the name of the description. -/
def fault? (e : TypeExpr) : Option ResolveError :=
  match (e.name :: e.arguments).find? fun name => !Name.isTypeName name with
  | some name => some ⟨name, .refused (.invalidClassName name)⟩
  | none => e.misuse?.map e.blame

/-- The type without its dimensions. -/
def elementType (e : TypeExpr) : JavaType :=
  if e.arguments = [] then .named e.name
  else .parameterized (.named e.name) (e.arguments.map fun name => (JavaType.named name).boxed)

/-- The type that a description describes. -/
def type (e : TypeExpr) : JavaType := JavaType.array^[e.dimensions] e.elementType

theorem named_eq_void_iff {name : String} (fits : Name.isTypeName name = true) :
    JavaType.named name = .primitive .void ↔ name = "void" := by
  constructor
  · intro same
    rcases Name.isTypeName_cases fits with ⟨kind, rfl⟩ | accepted
    · rw [JavaType.named_keyword] at same
      cases same
      rfl
    · rw [JavaType.named_of_isClassName accepted] at same
      cases same
  · rintro rfl
    rfl

/-- Among resolved names the handle of `void` is where its keyword was. -/
theorem void_mem_iff {ids : List Handle} {names : List String} (sound : s.registry.Sound)
    (each : List.Forall₂ (fun id name => s.registry.typeOf id = .ok (.named name)) ids names)
    (fit : ∀ name ∈ names, Name.isTypeName name = true) :
    Handle.void ∈ ids ↔ "void" ∈ names := by
  have void := typeOf_ofPrimitive sound .void
  constructor
  · intro member
    obtain ⟨name, inside, typed⟩ := exists_of_mem_left each member
    rwa [(named_eq_void_iff (fit name inside)).mp (Except.ok.inj (typed.symm.trans void))] at inside
  · intro member
    obtain ⟨id, inside, typed⟩ := exists_of_mem_right each member
    rwa [sound.typeOf_injective typed void] at inside

/-- Adding the dimensions of a description without type arguments. -/
theorem plain_ends {base : Handle} (sound : s.registry.Sound)
    (typed : s.registry.typeOf base = .ok (.named e.name))
    (fits : Name.isTypeName e.name = true) (plain : e.arguments = []) :
    Ends (blaming e.name (arrays e.dimensions base)) s (e.misuse?.map e.blame) e.type := by
  rw [misuse?_plain plain, type, elementType, if_pos plain]
  by_cases void : e.dimensions ≠ 0 ∧ e.name = "void"
  · obtain ⟨rest, dimensions⟩ := Nat.exists_eq_add_one_of_ne_zero void.1
    rw [void.2] at typed
    obtain rfl : base = .void := sound.typeOf_injective typed (typeOf_ofPrimitive sound .void)
    have refused : arrays e.dimensions .void s = .error (.refused .arrayOfVoid) s := by
      rw [dimensions]
      exact bind_of_error (array_void sound)
    rw [if_pos void]
    exact Or.inl ⟨e.blame .arrayOfVoid, s, rfl, adaptExcept_of_error refused⟩
  · rw [if_neg void]
    refine Or.inr ⟨rfl, (arrays_obtains sound typed ?_).blaming e.name⟩
    rw [ne_eq, named_eq_void_iff fits]
    exact Classical.or_iff_not_imp_left.mpr fun some same => void ⟨some, same⟩

/-- Applying a resolved name to resolved type arguments. -/
theorem narrow_cases {base : Handle} {ids : List Handle} (sound : s.registry.Sound)
    (typed : s.registry.typeOf base = .ok (.named e.name))
    (each : List.Forall₂ (fun id name => s.registry.typeOf id = .ok (.named name)) ids e.arguments)
    (fit : ∀ name ∈ e.name :: e.arguments, Name.isTypeName name = true)
    (several : e.arguments ≠ []) :
    (∃ why, e.misuse? = some why ∧ narrow base ids s = .error (.refused why) s) ∨
      (e.misuse? = none ∧ Obtains (narrow base ids) s e.elementType) := by
  rcases Name.isTypeName_cases (fit e.name List.mem_cons_self) with ⟨kind, keyword⟩ | accepted
  · rw [keyword, JavaType.named_keyword] at typed
    exact Or.inl ⟨_, misuse?_keyword several keyword, narrow_primitive sound typed⟩
  · have void := void_mem_iff sound each fun name member => fit name (List.mem_cons_of_mem _ member)
    rw [JavaType.named_of_isClassName accepted] at typed
    rw [misuse?_class accepted, elementType, if_neg several]
    by_cases inside : "void" ∈ e.arguments
    · have issued : ∀ id ∈ ids, s.registry.Issued id := by
        intro id member
        obtain ⟨_, _, known⟩ := exists_of_mem_left each member
        exact sound.issued_of_typeOf known
      exact Or.inl ⟨_, if_pos inside, narrow_void sound typed issued (void.mpr inside)⟩
    · have nonempty : ids ≠ [] := by
        rintro rfl
        exact several (List.forall₂_nil_left_iff.mp each)
      have obtains := narrow_obtains sound typed nonempty (List.forall₂_map_right_iff.mpr each)
        fun member => inside (void.mp member)
      rw [List.map_map] at obtains
      exact Or.inr ⟨if_neg inside, obtains⟩

/-- Applying a resolved name to resolved type arguments, and adding the dimensions. -/
theorem applied_ends {base : Handle} {ids : List Handle} (sound : s.registry.Sound)
    (typed : s.registry.typeOf base = .ok (.named e.name))
    (each : List.Forall₂ (fun id name => s.registry.typeOf id = .ok (.named name)) ids e.arguments)
    (fit : ∀ name ∈ e.name :: e.arguments, Name.isTypeName name = true)
    (several : e.arguments ≠ []) :
    Ends (blaming e.name (narrow base ids) >>= fun element =>
      blaming e.name (arrays e.dimensions element)) s (e.misuse?.map e.blame) e.type := by
  rcases narrow_cases sound typed each fit several with ⟨why, misused, run⟩ | ⟨used, obtains⟩
  · rw [misused]
    exact Or.inl ⟨e.blame why, s, rfl, bind_of_error (adaptExcept_of_error run)⟩
  · obtain ⟨element, applied, run, sound', growth, known⟩ := obtains.blaming e.name
    have sized : e.elementType ≠ .primitive .void := by
      rw [elementType, if_neg several]
      nofun
    rw [used]
    refine Or.inr ⟨rfl, Obtains.after ?_ (bind_of_ok run) growth⟩
    exact (arrays_obtains sound' known (Or.inr sized)).blaming e.name

/-- **The outcome of a description**: its fault if it has one, and otherwise its type. -/
theorem resolve_ends (sound : s.registry.Sound) (e : TypeExpr) :
    Ends e.resolve s e.fault? e.type := by
  cases decided : Name.isTypeName e.name with
  | false =>
    obtain ⟨left, run⟩ := resolve_refused decided s
    rw [fault?, List.find?_cons_of_pos (by simp [decided])]
    exact Or.inl ⟨_, left, rfl, bind_of_error run⟩
  | true =>
    obtain ⟨base, named, run, sound', growth, typed⟩ := resolve_obtains sound decided
    rw [fault?, List.find?_cons_of_neg (by simp [decided])]
    by_cases plain : e.arguments = []
    · have rest : e.resolve s = blaming e.name (arrays e.dimensions base) named := by
        rw [resolve, bind_of_ok run, if_pos (by simp [plain])]
        rfl
      rw [plain]
      exact (plain_ends sound' typed decided plain).after rest growth
    · have rest : e.resolve s = (e.arguments.mapM Session.resolve >>= fun ids =>
          blaming e.name (narrow base ids) >>= fun element =>
            blaming e.name (arrays e.dimensions element)) named := by
        rw [resolve, bind_of_ok run, if_neg (by simp [plain])]
      rcases mapM_resolve_cases sound' e.arguments with
        ⟨name, first, left, failed⟩ | ⟨fits, ids, left, collected, sound'', growth', each⟩
      · rw [first]
        exact Or.inl ⟨_, left, rfl, rest.trans (bind_of_error failed)⟩
      · have fit : ∀ name ∈ e.name :: e.arguments, Name.isTypeName name = true := by
          simpa [decided] using fits
        have typed' := sound'.typeOf_mono sound'' growth' typed
        rw [fits]
        exact (applied_ends sound'' typed' each fit plain).after
          (rest.trans (bind_of_ok collected)) (growth.trans growth')

/-! ### The description as text -/

/-- What the name of a type argument becomes: a keyword is replaced by the name of the class that
boxes the primitive. -/
def argumentName (name : String) : String :=
  match Primitive.ofKeyword? name with
  | some kind => kind.wrapperName
  | none => name

/-- The description as text, with its names written by `short`. -/
def textWith (short : String → String) (e : TypeExpr) : String :=
  short e.name ++
    (if e.arguments = [] then ""
      else "<" ++ ",".intercalate (e.arguments.map fun name => short (argumentName name)) ++ ">") ++
    String.join (List.replicate e.dimensions "[]")

/-- The descriptor that the description spells: it has slashes for the dots of a class name, and
knows nothing of type arguments. -/
def descriptor (e : TypeExpr) : String :=
  String.join (List.replicate e.dimensions "[") ++
    match Primitive.ofKeyword? e.name with
    | some kind => String.singleton kind.letter
    | none => "L" ++ e.name.map (fun c => if c = '.' then '/' else c) ++ ";"

theorem textWith_arrays (write : ClassName → String) (dimensions : Nat) (type : JavaType) :
    (JavaType.array^[dimensions] type).textWith write =
      type.textWith write ++ String.join (List.replicate dimensions "[]") := by
  induction dimensions with
  | zero => simp
  | succ dimensions ih =>
    rw [Function.iterate_succ_apply', JavaType.textWith, ih, List.replicate_succ',
      String.join_append, String.append_assoc]
    simp

theorem descriptor_arrays (dimensions : Nat) (type : JavaType) :
    (JavaType.array^[dimensions] type).descriptor =
      String.join (List.replicate dimensions "[") ++ type.descriptor := by
  induction dimensions with
  | zero => simp
  | succ dimensions ih =>
    rw [Function.iterate_succ_apply', JavaType.descriptor, ih, List.replicate_succ,
      String.join_cons, String.append_assoc]

/-- A type argument is stored as the class of its replaced name. -/
theorem boxed_named {name : String} (fits : Name.isTypeName name = true) :
    (JavaType.named name).boxed = .rawClass (.named (argumentName name)) ∧
      Name.isClassName (argumentName name) = true := by
  rcases Name.isTypeName_cases fits with ⟨kind, rfl⟩ | accepted
  · rw [JavaType.named_keyword, argumentName, Primitive.ofKeyword?_keyword]
    exact ⟨congrArg _ (ClassName.named_wrapperName kind).symm, Name.isClassName_wrapperName kind⟩
  · rw [JavaType.named_of_isClassName accepted, argumentName,
      Primitive.ofKeyword?_of_isClassName accepted]
    exact ⟨rfl, accepted⟩

/-- In a description without fault every name stands for a type, and one with type arguments has a
class name. -/
theorem names_of_fault?_eq_none (fine : e.fault? = none) :
    (∀ name ∈ e.name :: e.arguments, Name.isTypeName name = true) ∧
      (e.arguments ≠ [] → Name.isClassName e.name = true) := by
  unfold fault? at fine
  split at fine
  · cases fine
  · rename_i fits
    have fit : ∀ name ∈ e.name :: e.arguments, Name.isTypeName name = true := by
      simpa using fits
    refine ⟨fit, fun several => ?_⟩
    have used : e.misuse? = none := Option.map_eq_none_iff.mp fine
    rcases Name.isTypeName_cases (fit e.name List.mem_cons_self) with ⟨kind, keyword⟩ | accepted
    · cases used.symm.trans (misuse?_keyword several keyword)
    · exact accepted

section Writing

variable {write : ClassName → String} {short : String → String}
  (writes : ∀ name, Name.isClassName name = true → write (.named name) = short name)
  (keywords : ∀ kind : Primitive, short kind.keyword = kind.keyword)
include writes keywords

theorem textWith_named {name : String} (fits : Name.isTypeName name = true) :
    (JavaType.named name).textWith write = short name := by
  rcases Name.isTypeName_cases fits with ⟨kind, rfl⟩ | accepted
  · rw [JavaType.named_keyword, JavaType.textWith, keywords]
  · rw [JavaType.named_of_isClassName accepted, JavaType.textWith, writes name accepted]

/-- **The text of the described type is the description**, whichever way classes are written. -/
theorem textWith_type (fine : e.fault? = none) : e.type.textWith write = e.textWith short := by
  obtain ⟨fit, applied⟩ := names_of_fault?_eq_none fine
  rw [type, textWith_arrays, textWith, elementType]
  congr 1
  by_cases plain : e.arguments = []
  · rw [if_pos plain, if_pos plain, textWith_named writes keywords (fit e.name List.mem_cons_self),
      String.append_empty]
  · have each : e.arguments.map (fun name => (JavaType.named name).boxed.textWith write) =
        e.arguments.map fun name => short (argumentName name) := by
      refine List.map_congr_left fun name member => ?_
      obtain ⟨boxed, accepted⟩ := boxed_named (fit name (List.mem_cons_of_mem _ member))
      rw [boxed, JavaType.textWith, writes _ accepted]
    rw [if_neg plain, if_neg plain, JavaType.textWith, JavaType.textsWith_eq_map, List.map_map,
      writes e.name (applied plain)]
    simp only [Function.comp_def, each, String.append_assoc]

end Writing

theorem descriptor_type (fine : e.fault? = none) : e.type.descriptor = e.descriptor := by
  obtain ⟨fit, applied⟩ := names_of_fault?_eq_none fine
  rw [type, descriptor_arrays, descriptor, elementType]
  congr 1
  by_cases plain : e.arguments = []
  · rw [if_pos plain]
    rcases Name.isTypeName_cases (fit e.name List.mem_cons_self) with ⟨kind, keyword⟩ | accepted
    · rw [keyword, JavaType.named_keyword, Primitive.ofKeyword?_keyword, JavaType.descriptor]
    · rw [JavaType.named_of_isClassName accepted, Primitive.ofKeyword?_of_isClassName accepted,
        JavaType.descriptor, JavaType.classDescriptor, ClassName.binaryName_named accepted,
        Name.internalForm]
  · have accepted := applied plain
    rw [if_neg plain, Primitive.ofKeyword?_of_isClassName accepted, JavaType.descriptor,
      JavaType.classDescriptor, ClassName.binaryName_named accepted, Name.internalForm]

/-- **Resolving a description, told from the strings.** In every session that requests lead to, a
description without fault is answered with a handle, and the names and the descriptor behind that
handle are the texts of the description; any other description is refused for its fault. -/
theorem resolve_by_text (calls : List Call) (e : TypeExpr) :
    match e.fault? with
    | some error => ∃ left, e.resolve (Session.initial.after calls) = .error error left
    | none => ∃ id left, e.resolve (Session.initial.after calls) = .ok id left ∧
        left.registry.fullName id = .ok (e.textWith fun name => name) ∧
        left.registry.binaryName id = .ok (e.textWith fun name => name) ∧
        left.registry.simpleName id = .ok (e.textWith Name.lastSegment) ∧
        left.registry.descriptor id = .ok e.descriptor := by
  have sound := Session.sound_after_initial calls
  rcases resolve_ends sound e with ⟨error, left, faulty, run⟩ | ⟨fine, id, left, run, _, _, typed⟩
  · rw [faulty]
    exact ⟨left, run⟩
  · rw [fine]
    refine ⟨id, left, run, ?_, ?_, ?_, ?_⟩
    · rw [Registry.fullName_of_typeOf typed]
      exact congrArg _ (textWith_type (fun _ => ClassName.fullName_named) (fun _ => rfl) fine)
    · rw [Registry.binaryName_of_typeOf typed]
      exact congrArg _ (textWith_type (fun _ => ClassName.binaryName_named) (fun _ => rfl) fine)
    · rw [Registry.simpleName, typed]
      exact congrArg _ (textWith_type (fun _ _ => rfl) Name.lastSegment_keyword fine)
    · rw [Registry.descriptor, typed]
      exact congrArg _ (descriptor_type fine)

example : (TypeExpr.mk "java.util.Map" ["java.lang.String", "long"] 1).textWith Name.lastSegment =
    "Map<String,Long>[]" := by decide +kernel

example : (TypeExpr.mk "java.util.Map" ["java.lang.String", "long"] 1).descriptor =
    "[Ljava/util/Map;" := by decide +kernel

example : (TypeExpr.mk "void" ["void"] 1).fault? = some ⟨"void", .refused (.notClass "void")⟩ := by
  decide +kernel

end TypeExpr

end JavaTypes
