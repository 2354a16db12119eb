/-
**Resolving names, and building on what they resolve to.**

A string stands for a type if it is a primitive keyword or the name of a class. Resolving it has one
outcome, whatever the session knows already, and so have the steps that build on the answer: a
class is applied to type arguments, and dimensions are added.

* `Name.isTypeName`: the names that stand for a type.
* `Session.Obtains`, `Session.Ends`: an operation that answers with a handle of a known type, and
  one that may fail with a known error instead.
* `Session.resolve_obtains`, `Session.resolve_refused`: what one name does.
* `Session.mapM_resolve_cases`: what a list of names does.
* `Session.narrow_obtains`, `Session.arrays_obtains`: type arguments and dimensions.
-/

import JavaTypes.Proofs.Identity
import JavaTypes.TypeExpr
import Mathlib.Logic.Function.Iterate

namespace JavaTypes

/-! ### Names of types -/

/-- Whether the name stands for a type: a primitive keyword or the name of a top-level class. -/
def Name.isTypeName (s : String) : Bool := (Primitive.ofKeyword? s).isSome || isClassName s

theorem Name.isTypeName_cases {s : String} (fits : isTypeName s = true) :
    (∃ kind : Primitive, s = kind.keyword) ∨ isClassName s = true :=
  (Bool.or_eq_true_iff.mp fits).imp_left exists_keyword

theorem Primitive.ofKeyword?_keyword (kind : Primitive) : ofKeyword? kind.keyword = some kind := by
  cases kind <;> rfl

/-- No class name is a keyword. -/
theorem Primitive.ofKeyword?_of_isClassName {s : String} (accepted : Name.isClassName s = true) :
    ofKeyword? s = none := by
  cases known : ofKeyword? s with
  | none => rfl
  | some kind =>
    obtain ⟨kind, rfl⟩ := Name.exists_keyword (Option.isSome_iff_exists.mpr ⟨_, known⟩)
    rw [Name.isClassName_keyword] at accepted
    cases accepted

theorem Name.lastSegment_keyword (kind : Primitive) : lastSegment kind.keyword = kind.keyword := by
  cases kind <;> decide +kernel

theorem Name.isClassName_wrapperName (kind : Primitive) : isClassName kind.wrapperName = true := by
  cases kind <;> decide +kernel

theorem ClassName.named_wrapperName (kind : Primitive) :
    named kind.wrapperName = .topLevel javaLang kind.wrapperSimpleName := by
  cases kind <;> decide +kernel

/-- The type that a name stands for. -/
def JavaType.named (name : String) : JavaType :=
  match Primitive.ofKeyword? name with
  | some kind => .primitive kind
  | none => .rawClass (.named name)

theorem JavaType.named_keyword (kind : Primitive) : named kind.keyword = .primitive kind := by
  rw [named, Primitive.ofKeyword?_keyword]

theorem JavaType.named_of_isClassName {name : String} (accepted : Name.isClassName name = true) :
    named name = .rawClass (.named name) := by
  rw [named, Primitive.ofKeyword?_of_isClassName accepted]

namespace Session

variable {s : Session} {id : Handle} {type : JavaType} {name : String}

/-! ### Operations that answer with a handle -/

/-- The operation succeeds with a handle of the type; the registry that it leaves is sound and has
everything that it had before. -/
def Obtains {ε : Type} (operation : EStateM ε Session Handle) (s : Session) (type : JavaType) :
    Prop :=
  ∃ id left, operation s = .ok id left ∧ left.registry.Sound ∧ s.registry.Grows left.registry ∧
    left.registry.typeOf id = .ok type

/-- The answer to a request that nothing stands against has the type that it describes. -/
theorem obtains_of_requests {call : Call} {names : NamePool} {shape : Shape}
    (sound : s.registry.Sound) (asks : call.Requests s.registry names shape) :
    ∃ type, call.Describes s.registry type ∧ Obtains call.perform s type := by
  obtain ⟨type, describes, typed⟩ := Call.describes_of_ok sound asks.perform
  exact ⟨type, describes, _, _, asks.perform, Call.sound_of_ok sound asks.perform,
    Call.grows_of_ok asks.perform, typed⟩

theorem Obtains.blaming {operation : SessionM Handle} (obtains : Obtains operation s type)
    (name : String) : Obtains (blaming name operation) s type := by
  obtain ⟨id, left, run, facts⟩ := obtains
  exact ⟨id, left, adaptExcept_of_ok run, facts⟩

theorem Obtains.after {ε : Type} {operation rest : EStateM ε Session Handle} {middle : Session}
    (obtains : Obtains rest middle type) (run : operation s = rest middle)
    (growth : s.registry.Grows middle.registry) : Obtains operation s type := by
  obtain ⟨id, left, done, sound, growth', typed⟩ := obtains
  exact ⟨id, left, run.trans done, sound, growth.trans growth', typed⟩

/-- The operation fails with the error, if there is one, and otherwise answers with a handle of the
type. -/
def Ends (operation : ResolveM Handle) (s : Session) (error : Option ResolveError)
    (type : JavaType) : Prop :=
  (∃ fault left, error = some fault ∧ operation s = .error fault left) ∨
    (error = none ∧ Obtains operation s type)

theorem Ends.after {operation rest : ResolveM Handle} {middle : Session}
    {error : Option ResolveError} (ends : Ends rest middle error type)
    (run : operation s = rest middle) (growth : s.registry.Grows middle.registry) :
    Ends operation s error type := by
  rcases ends with ⟨fault, left, failed, done⟩ | ⟨succeeds, obtains⟩
  · exact Or.inl ⟨fault, left, failed, run.trans done⟩
  · exact Or.inr ⟨succeeds, obtains.after run growth⟩

/-! ### Resolving a name -/

theorem reference_obtains (sound : s.registry.Sound) (accepted : Name.isClassName name = true) :
    Obtains (reference name) s (.rawClass (.named name)) := by
  obtain ⟨type, describes, obtains⟩ := obtains_of_requests sound (.reference accepted)
  cases describes
  exact obtains

/-- Resolving a string that is no class name is refused. -/
theorem reference_refused (rejected : Name.isClassName name = false) :
    ∃ left, reference name s = .error (.refused (.invalidClassName name)) left := by
  refine ⟨{ s with events := s.events.push (.classNameRejected name) }, ?_⟩
  unfold reference
  rw [if_neg (by rw [rejected]; exact Bool.false_ne_true)]
  rfl

theorem resolve_keyword (kind : Primitive) (s : Session) :
    resolve kind.keyword s = .ok (.ofPrimitive kind) s := by
  cases kind <;> rfl

theorem resolve_of_isClassName (accepted : Name.isClassName name = true) :
    resolve name = blaming name (reference name) := by
  rw [resolve, Primitive.ofKeyword?_of_isClassName accepted]
  rfl

theorem typeOf_ofPrimitive {r : Registry} (sound : r.Sound) (kind : Primitive) :
    r.typeOf (.ofPrimitive kind) = .ok (.primitive kind) :=
  (sound.typeOf_of_shape? (sound.primitives kind)).mpr .primitive

/-- **A name that stands for a type is resolved to it.** -/
theorem resolve_obtains (sound : s.registry.Sound) (fits : Name.isTypeName name = true) :
    Obtains (resolve name) s (.named name) := by
  rcases Name.isTypeName_cases fits with ⟨kind, rfl⟩ | accepted
  · rw [JavaType.named_keyword]
    exact ⟨_, s, resolve_keyword kind s, sound, .refl _, typeOf_ofPrimitive sound kind⟩
  · rw [JavaType.named_of_isClassName accepted, resolve_of_isClassName accepted]
    exact (reference_obtains sound accepted).blaming name

/-- Any other name is refused, and blamed for it. -/
theorem resolve_refused (rejected : Name.isTypeName name = false) (s : Session) :
    ∃ left, resolve name s = .error ⟨name, .refused (.invalidClassName name)⟩ left := by
  rw [Name.isTypeName, Bool.or_eq_false_iff] at rejected
  obtain ⟨left, run⟩ := reference_refused (s := s) rejected.2
  refine ⟨left, ?_⟩
  rw [resolve, if_neg (by rw [rejected.1]; exact Bool.false_ne_true)]
  exact adaptExcept_of_error run

/-- **What resolving a list of names does**: each of them is resolved in what the ones before it
left, or the first one that stands for no type ends it. -/
theorem mapM_resolve_cases (sound : s.registry.Sound) (names : List String) :
    (∃ name, names.find? (fun name => !Name.isTypeName name) = some name ∧
      ∃ left, names.mapM resolve s = .error ⟨name, .refused (.invalidClassName name)⟩ left) ∨
    (names.find? (fun name => !Name.isTypeName name) = none ∧
      ∃ ids left, names.mapM resolve s = .ok ids left ∧ left.registry.Sound ∧
        s.registry.Grows left.registry ∧
        List.Forall₂ (fun id name => left.registry.typeOf id = .ok (.named name)) ids names) := by
  induction names generalizing s with
  | nil => exact Or.inr ⟨rfl, [], s, rfl, sound, .refl _, .nil⟩
  | cons name names ih =>
    simp only [List.mapM_cons]
    cases decided : Name.isTypeName name with
    | false =>
      obtain ⟨left, run⟩ := resolve_refused decided s
      rw [List.find?_cons_of_pos (by simp [decided])]
      exact Or.inl ⟨name, rfl, left, bind_of_error run⟩
    | true =>
      obtain ⟨id, middle, run, sound', growth, typed⟩ := resolve_obtains sound decided
      rw [List.find?_cons_of_neg (by simp [decided]), bind_of_ok run]
      rcases ih sound' with ⟨other, first, left, failed⟩ | ⟨none, ids, left, rest, final, growth', each⟩
      · exact Or.inl ⟨other, first, left, bind_of_error failed⟩
      · exact Or.inr ⟨none, id :: ids, left, bind_of_ok rest, final, growth.trans growth',
          .cons (sound'.typeOf_mono final growth' typed) each⟩

/-! ### Type arguments -/

/-- A type argument other than `void` can be stored. -/
theorem boxedArgument_ok {r : Registry} (issued : r.Issued id) (sized : id ≠ .void) :
    ∃ boxed, boxedArgument r id = .ok boxed := by
  obtain ⟨shape, known⟩ := Registry.issued_iff.mp issued
  rw [boxedArgument, if_neg sized, Registry.boxed, Registry.shape_of_shape? known]
  cases shape <;> exact ⟨_, rfl⟩

theorem boxedArgument_void (r : Registry) :
    boxedArgument r .void = .error (.refused .voidTypeArgument) := by
  rw [boxedArgument, if_pos rfl]

/-- One `void` among issued type arguments is enough for them to be refused. -/
theorem mapM_boxedArgument_void {r : Registry} {arguments : List Handle}
    (issued : ∀ argument ∈ arguments, r.Issued argument) (void : Handle.void ∈ arguments) :
    arguments.mapM (boxedArgument r) = .error (.refused .voidTypeArgument) := by
  obtain ⟨front, rest, rfl, sized⟩ := List.eq_append_cons_of_mem void
  have fit : ∀ argument ∈ front, ∃ boxed, boxedArgument r argument = .ok boxed :=
    fun argument member => boxedArgument_ok (issued argument (List.mem_append_left _ member))
      fun same => sized (same ▸ member)
  exact mapM_of_error fit (boxedArgument_void r)

section Applying

variable {base : Handle} {arguments : List Handle} {types : List JavaType}

/-- A primitive has no type arguments. -/
theorem narrow_primitive {kind : Primitive} (sound : s.registry.Sound)
    (typed : s.registry.typeOf base = .ok (.primitive kind)) :
    narrow base arguments s = .error (.refused (.notClass kind.keyword)) s := by
  obtain ⟨shape, known, forms⟩ := sound.typeOf_eq_ok_iff.mp typed
  cases forms
  rw [narrow, bind_of_ok (query_of_ok (Registry.shape_of_shape? known))]
  exact bind_of_ok (query_of_ok (Registry.fullName_of_typeOf typed))

theorem narrow_void {generic : ClassName} (sound : s.registry.Sound)
    (applied : s.registry.typeOf base = .ok (.rawClass generic))
    (issued : ∀ argument ∈ arguments, s.registry.Issued argument)
    (void : Handle.void ∈ arguments) :
    narrow base arguments s = .error (.refused .voidTypeArgument) s := by
  obtain ⟨package, around, own, known⟩ := sound.shape?_of_rawClass applied
  have nonempty : ¬ arguments.isEmpty = true := by simpa using List.ne_nil_of_mem void
  rw [narrow, bind_of_ok (query_of_ok (Registry.shape_of_shape? known))]
  simp only
  rw [if_neg nonempty, bind_of_error (query_of_error (mapM_boxedArgument_void issued void))]

/-- **A class is applied to type arguments** if there are any, and `void` is not among them. -/
theorem narrow_obtains {generic : ClassName} (sound : s.registry.Sound)
    (applied : s.registry.typeOf base = .ok (.rawClass generic)) (nonempty : arguments ≠ [])
    (each : List.Forall₂ (fun argument type => s.registry.typeOf argument = .ok type)
      arguments types) (sized : Handle.void ∉ arguments) :
    Obtains (narrow base arguments) s (.parameterized generic (types.map JavaType.boxed)) := by
  obtain ⟨package, around, own, known⟩ := sound.shape?_of_rawClass applied
  obtain ⟨boxed, fits⟩ := exists_forall₂ fun argument member => by
    obtain ⟨type, _, typed⟩ := exists_of_mem_left each member
    exact boxedArgument_ok (sound.issued_of_typeOf typed) fun void => sized (void ▸ member)
  obtain ⟨type, describes, obtains⟩ :=
    obtains_of_requests sound (.narrow known nonempty (mapM_eq_ok_iff.mpr fits))
  cases describes with
  | narrow applied' each' =>
    cases applied.symm.trans applied'
    rw [forall₂_injective each.flip each'.flip fun _ _ _ _ typed typed' =>
      Except.ok.inj (typed.symm.trans typed')]
    exact obtains

end Applying

/-! ### Dimensions -/

theorem array_void (sound : s.registry.Sound) :
    array .void s = .error (.refused .arrayOfVoid) s := by
  rw [array, bind_of_ok (query_of_ok (Registry.shape_of_shape? (sound.primitives .void))),
    if_pos rfl]
  rfl

theorem array_obtains (sound : s.registry.Sound) (typed : s.registry.typeOf id = .ok type)
    (sized : type ≠ .primitive .void) : Obtains (array id) s (.array type) := by
  have different : id ≠ .void := by
    rintro rfl
    exact sized (Except.ok.inj (typed.symm.trans (typeOf_ofPrimitive sound .void)))
  obtain ⟨shape, known, _⟩ := sound.typeOf_eq_ok_iff.mp typed
  obtain ⟨found, describes, obtains⟩ := obtains_of_requests sound (.array known different)
  cases describes with
  | array elements =>
    cases typed.symm.trans elements
    exact obtains

/-- **Dimensions are added one by one.** Only `void` cannot have any. -/
theorem arrays_obtains {dimensions : Nat} (sound : s.registry.Sound)
    (typed : s.registry.typeOf id = .ok type) (sized : dimensions = 0 ∨ type ≠ .primitive .void) :
    Obtains (arrays dimensions id) s (JavaType.array^[dimensions] type) := by
  induction dimensions generalizing s id type with
  | zero => exact ⟨id, s, rfl, sound, .refl _, typed⟩
  | succ dimensions ih =>
    obtain ⟨row, middle, run, sound', growth, rowTyped⟩ :=
      array_obtains sound typed (sized.resolve_left (Nat.succ_ne_zero _))
    obtain ⟨final, left, rest, sound'', growth', finalTyped⟩ := ih sound' rowTyped (Or.inr nofun)
    exact ⟨final, left, (bind_of_ok run).trans rest, sound'', growth.trans growth', finalTyped⟩

end Session

end JavaTypes
