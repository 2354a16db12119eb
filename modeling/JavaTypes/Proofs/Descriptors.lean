/-
**Descriptors tell types apart up to erasure.**

A descriptor is a bracket for every dimension of an array, and then the descriptor of the innermost
elements without their type arguments: a letter, or the internal name of a class between `L` and a
semicolon. All of it can be read back. The brackets end at the first other character, no letter of a
primitive is an `L`, and an internal name gives the binary name back, as no name has a slash.

* `JavaType.dimensions`, `JavaType.innermost`: what is left when all dimensions are taken off.
* `JavaType.descriptor_eq_append`: the brackets of a descriptor, and what follows them.
* `Name.internalForm_inj`: an internal name can be read.
* `JavaType.descriptor_eq_iff`: the types with the same descriptor.
* `Registry.Innermost`: going down an array, handle by handle.
* `Registry.descriptors_up_to_erasure`: the descriptors of handles.
-/

import JavaTypes.Proofs.Answers
import JavaTypes.Proofs.Readability
import Mathlib

namespace JavaTypes

/-! ### Brackets and internal names -/

/-- Behind brackets that are followed by another character, both can be told. -/
theorem brackets_unique {n m : Nat} {rest rest' : List Char} (ends : rest.head? ≠ some '[')
    (ends' : rest'.head? ≠ some '[')
    (same : List.replicate n '[' ++ rest = List.replicate m '[' ++ rest') :
    n = m ∧ rest = rest' := by
  induction n generalizing m with
  | zero =>
    cases m with
    | zero => exact ⟨rfl, same⟩
    | succ m =>
      rw [List.replicate_zero, List.nil_append] at same
      rw [same] at ends
      exact absurd rfl ends
  | succ n ih =>
    cases m with
    | zero =>
      rw [List.replicate_zero, List.nil_append] at same
      rw [← same] at ends'
      exact absurd rfl ends'
    | succ m =>
      obtain ⟨dimensions, rests⟩ := ih (List.cons.inj same).2
      exact ⟨by rw [dimensions], rests⟩

theorem toList_brackets (n : Nat) :
    (String.join (List.replicate n "[")).toList = List.replicate n '[' := by
  induction n with
  | zero => rfl
  | succ n ih =>
    rw [List.replicate_succ, String.join_cons, String.toList_append, ih]
    rfl

/-- There are no dots in an internal name. -/
theorem Name.dot_notMem_internalForm (name : String) : '.' ∉ (internalForm name).toList := by
  rw [internalForm, String.toList_map, List.mem_map]
  rintro ⟨c, _, same⟩
  by_cases dot : c = '.'
  · rw [if_pos dot] at same
    exact absurd same (by decide)
  · rw [if_neg dot] at same
    exact dot same

/-- **An internal name gives the name back** if that has no slashes of its own. -/
theorem Name.internalForm_inj {name other : String} (plain : '/' ∉ name.toList)
    (plain' : '/' ∉ other.toList) (same : internalForm name = internalForm other) :
    name = other := by
  have back : ∀ text : String, '/' ∉ text.toList →
      (internalForm text).map (fun c => if c = '/' then '.' else c) = text := by
    intro text clean
    rw [internalForm, ← String.toList_inj, String.toList_map, String.toList_map, List.map_map]
    refine (List.map_congr_left fun c member => ?_).trans (List.map_id _)
    by_cases dot : c = '.'
    · rw [Function.comp_apply, if_pos dot, if_pos rfl, dot]
      rfl
    · have noSlash : c ≠ '/' := fun slash => clean (slash ▸ member)
      rw [Function.comp_apply, if_neg dot, if_neg noSlash]
      rfl
  rw [← back name plain, same, back other plain']

/-- No class has a slash in its name. -/
theorem ClassName.slash_notMem_binaryName {name : ClassName} (legal : name.Legal) :
    '/' ∉ name.binaryName.toList := by
  intro member
  rcases mem_qualifiedWith legal member with dot | part | separator
  · exact absurd dot (by decide)
  · exact absurd part (by decide)
  · exact absurd separator (by decide)

/-! ### Taking off dimensions -/

namespace JavaType

/-- The number of dimensions of an array; no other type has any. -/
def dimensions : JavaType → Nat
  | array element => element.dimensions + 1
  | _ => 0

/-- What the elements of the elements of an array are in the end; any other type itself. -/
def innermost : JavaType → JavaType
  | array element => element.innermost
  | type => type

theorem descriptor_erased (type : JavaType) : type.erased.descriptor = type.descriptor := by
  cases type <;> rfl

theorem erased_erased (type : JavaType) : type.erased.erased = type.erased := by
  cases type <;> rfl

/-- Only a primitive has a primitive as its erasure. -/
theorem primitive?_of_erased {type : JavaType} {kind : Primitive}
    (flat : type.erased = primitive kind) : type.primitive? = some kind := by
  cases type <;> cases flat
  rfl

/-- **A descriptor has a bracket for every dimension**, and what follows tells the erasure of the
innermost elements. -/
theorem descriptor_eq_append (type : JavaType) :
    type.descriptor =
      String.join (List.replicate type.dimensions "[") ++ type.innermost.erased.descriptor := by
  fun_induction innermost type with
  | case1 element ih =>
    rw [descriptor, dimensions, List.replicate_succ, String.join_cons, String.append_assoc, ← ih]
  | case2 type other =>
    rw [descriptor_erased]
    cases type with
    | array element => exact absurd rfl (other element)
    | primitive kind | rawClass name | parameterized basis arguments => simp [dimensions]

/-- What is left of a legal type without dimensions and type arguments. -/
theorem Legal.innermost_erased {type : JavaType} (legal : type.Legal) :
    (∃ kind, type.innermost.erased = .primitive kind) ∨
      ∃ name : ClassName, name.Legal ∧ type.innermost.erased = .rawClass name := by
  induction legal with
  | primitive kind => exact Or.inl ⟨kind, rfl⟩
  | @rawClass name legal => exact Or.inr ⟨name, legal, rfl⟩
  | @parameterized generic arguments legal nonempty each ih => exact Or.inr ⟨generic, legal, rfl⟩
  | array legal ih => exact ih

theorem classDescriptor_inj {name other : ClassName} (legal : name.Legal) (legal' : other.Legal)
    (same : classDescriptor name = classDescriptor other) : name = other := by
  rw [classDescriptor, classDescriptor, String.append_left_inj, String.append_right_inj] at same
  exact ClassName.binaryName_injective legal legal' <|
    Name.internalForm_inj (ClassName.slash_notMem_binaryName legal)
      (ClassName.slash_notMem_binaryName legal') same

theorem head?_classDescriptor (name : ClassName) :
    (classDescriptor name).toList.head? = some 'L' := by
  rw [classDescriptor, String.toList_append, String.toList_append]
  rfl

/-- Without dimensions a descriptor begins with no bracket. -/
theorem Legal.head?_descriptor {type : JavaType} (legal : type.Legal) :
    type.innermost.erased.descriptor.toList.head? ≠ some '[' := by
  rcases legal.innermost_erased with ⟨kind, flat⟩ | ⟨name, _, flat⟩
  · rw [flat]
    cases kind <;> decide
  · rw [flat, descriptor, head?_classDescriptor]
    decide

/-- No letter of a primitive begins the descriptor of a class. -/
theorem singleton_letter_ne (kind : Primitive) (name : ClassName) :
    String.singleton kind.letter ≠ classDescriptor name := by
  intro same
  have first := head?_classDescriptor name
  rw [← same] at first
  cases kind <;> exact absurd first (by decide)

theorem letter_injective {kind other : Primitive}
    (same : String.singleton kind.letter = String.singleton other.letter) : kind = other := by
  cases kind <;> cases other <;> first | rfl | exact absurd same (by decide)

/-- **Types have the same descriptor** exactly if they have the same number of dimensions and
innermost elements with the same erasure. -/
theorem descriptor_eq_iff {type other : JavaType} (legal : type.Legal) (legal' : other.Legal) :
    type.descriptor = other.descriptor ↔
      type.dimensions = other.dimensions ∧ type.innermost.erased = other.innermost.erased := by
  rw [descriptor_eq_append type, descriptor_eq_append other]
  constructor
  · intro same
    have chars := congrArg String.toList same
    rw [String.toList_append, String.toList_append, toList_brackets, toList_brackets] at chars
    obtain ⟨dimensions, rest⟩ :=
      brackets_unique legal.head?_descriptor legal'.head?_descriptor chars
    refine ⟨dimensions, ?_⟩
    have flatSame := String.toList_inj.mp rest
    rcases legal.innermost_erased with ⟨kind, flat⟩ | ⟨name, named, flat⟩ <;>
      rcases legal'.innermost_erased with ⟨kind', flat'⟩ | ⟨name', named', flat'⟩ <;>
      rw [flat, flat'] at flatSame ⊢
    · rw [letter_injective flatSame]
    · exact absurd flatSame (singleton_letter_ne kind name')
    · exact absurd flatSame.symm (singleton_letter_ne kind' name)
    · rw [classDescriptor_inj named named' flatSame]
  · rintro ⟨dimensions, flat⟩
    rw [dimensions, flat]

end JavaType

/-! ### Going down an array -/

namespace Registry

variable {r : Registry} {id core : Handle} {dimensions : Nat} {type : JavaType}

/-- **Going down an array**: from element type to element type, `dimensions` times, until there is
no array any more but `core`. -/
inductive Innermost (r : Registry) : Handle → Nat → Handle → Prop
  | here {id : Handle} (plain : r.isArray id = .ok false) : Innermost r id 0 id
  | down {id element core : Handle} {dimensions : Nat} (elements : r.elementType id = .ok element)
    (rest : Innermost r element dimensions core) : Innermost r id (dimensions + 1) core

/-- The element type of an issued handle is a handle of the elements' type. -/
theorem Sound.typeOf_of_elementType (sound : r.Sound) (typed : r.typeOf id = .ok type)
    {element : Handle} (elements : r.elementType id = .ok element) :
    ∃ part, type = .array part ∧ r.typeOf element = .ok part := by
  have told := sound.elementType_ok typed
  cases type with
  | array part =>
    obtain ⟨element', told, typed'⟩ := told
    cases elements.symm.trans told
    exact ⟨part, rfl, typed'⟩
  | primitive kind | rawClass name | parameterized basis arguments =>
    cases elements.symm.trans told

/-- **Going down an array leads where the tree of its type does.** -/
theorem Sound.typeOf_innermost (sound : r.Sound) (down : r.Innermost id dimensions core)
    (typed : r.typeOf id = .ok type) :
    dimensions = type.dimensions ∧ r.typeOf core = .ok type.innermost := by
  induction down generalizing type with
  | here plain =>
    have told := sound.isArray_ok typed
    cases type with
    | array element => cases plain.symm.trans told
    | primitive kind | rawClass name | parameterized basis arguments => exact ⟨rfl, typed⟩
  | down elements rest ih =>
    obtain ⟨part, rfl, typed'⟩ := sound.typeOf_of_elementType typed elements
    obtain ⟨dimensions, last⟩ := ih typed'
    exact ⟨by rw [dimensions, JavaType.dimensions], last⟩

/-- Every issued handle leads to innermost elements. -/
theorem Sound.exists_innermost (sound : r.Sound) (typed : r.typeOf id = .ok type) :
    ∃ core, r.Innermost id type.dimensions core := by
  fun_induction JavaType.innermost type generalizing id with
  | case1 part ih =>
    obtain ⟨element, elements, typed'⟩ := sound.elementType_ok typed
    obtain ⟨core, rest⟩ := ih typed'
    exact ⟨core, .down elements rest⟩
  | case2 type other =>
    have told := sound.isArray_ok typed
    cases type with
    | array element => exact absurd rfl (other element)
    | primitive kind | rawClass name | parameterized basis arguments => exact ⟨id, .here told⟩

theorem Sound.typeOf_of_erasure (sound : r.Sound) (typed : r.typeOf id = .ok type) {raw : Handle}
    (erased : r.erasure id = .ok raw) : r.typeOf raw = .ok type.erased := by
  obtain ⟨raw', erased', rawTyped⟩ := sound.erasure_ok typed
  cases erased.symm.trans erased'
  exact rawTyped

/-- An erased type is its own erasure. -/
theorem Sound.erasure_of_erased (sound : r.Sound) (typed : r.typeOf id = .ok type.erased) :
    r.erasure id = .ok id := by
  obtain ⟨raw, erased, rawTyped⟩ := sound.erasure_ok typed
  rw [JavaType.erased_erased] at rawTyped
  rw [erased, sound.typeOf_injective rawTyped typed]

/-- What is told about the descriptor of an issued handle. -/
theorem Sound.descriptor_told (sound : r.Sound) (typed : r.typeOf id = .ok type) :
    ∃ core raw text, r.Innermost id type.dimensions core ∧ r.erasure core = .ok raw ∧
      r.descriptor id = .ok (String.join (List.replicate type.dimensions "[") ++ text) ∧
      ((∃ kind, r.primitive? core = .ok (some kind) ∧ text = String.singleton kind.letter) ∨
        ∃ binary, r.binaryName raw = .ok binary ∧
          text = "L" ++ Name.internalForm binary ++ ";" ∧
          '.' ∉ (Name.internalForm binary).toList) := by
  obtain ⟨core, down⟩ := sound.exists_innermost typed
  obtain ⟨_, coreTyped⟩ := sound.typeOf_innermost down typed
  obtain ⟨raw, erased, rawTyped⟩ := sound.erasure_ok coreTyped
  refine ⟨core, raw, type.innermost.erased.descriptor, down, erased, ?_, ?_⟩
  · rw [(sound.tells typed).descriptor, ← JavaType.descriptor_eq_append]
  · rcases (sound.legal_typeOf typed).innermost_erased with ⟨kind, flat⟩ | ⟨name, _, flat⟩
    · rw [flat]
      refine Or.inl ⟨kind, ?_, rfl⟩
      rw [sound.primitive?_ok coreTyped, JavaType.primitive?_of_erased flat]
    · rw [flat] at rawTyped ⊢
      exact Or.inr ⟨_, binaryName_of_typeOf rawTyped, rfl, Name.dot_notMem_internalForm _⟩

/-- **Handles with the same descriptor**, by what they lead to. -/
theorem Sound.descriptor_eq_iff (sound : r.Sound) {id' core' raw raw' : Handle} {dimensions' : Nat}
    {other : JavaType} (typed : r.typeOf id = .ok type) (typed' : r.typeOf id' = .ok other)
    (down : r.Innermost id dimensions core) (erased : r.erasure core = .ok raw)
    (down' : r.Innermost id' dimensions' core') (erased' : r.erasure core' = .ok raw') :
    r.descriptor id = r.descriptor id' ↔ dimensions = dimensions' ∧ raw = raw' := by
  obtain ⟨rfl, coreTyped⟩ := sound.typeOf_innermost down typed
  obtain ⟨rfl, coreTyped'⟩ := sound.typeOf_innermost down' typed'
  have rawTyped := sound.typeOf_of_erasure coreTyped erased
  have rawTyped' := sound.typeOf_of_erasure coreTyped' erased'
  have handles : raw = raw' ↔ type.innermost.erased = other.innermost.erased := by
    constructor
    · rintro rfl
      exact Except.ok.inj (rawTyped.symm.trans rawTyped')
    · intro flat
      rw [← flat] at rawTyped'
      exact sound.typeOf_injective rawTyped rawTyped'
  rw [(sound.tells typed).descriptor, (sound.tells typed').descriptor, handles, Except.ok.injEq]
  exact JavaType.descriptor_eq_iff (sound.legal_typeOf typed) (sound.legal_typeOf typed')

/-- **Descriptors tell types apart up to erasure.** Take the registry of any session that requests
lead to. The descriptor of an issued handle has a bracket for every dimension of an array, and then
the letter of a primitive, or the internal name of a class between `L` and a semicolon, which has
no dots. Two handles have the same descriptor exactly if they have the same number of dimensions
and the erasures of their innermost elements are the same handle. So a type and its erasure have
the same descriptor, and the erasure is its own. -/
theorem descriptors_up_to_erasure (calls : List Call) :
    let r := (Session.initial.after calls).registry
    (∀ id, r.Issued id → ∃ dimensions core raw text,
      r.Innermost id dimensions core ∧ r.erasure core = .ok raw ∧
      r.descriptor id = .ok (String.join (List.replicate dimensions "[") ++ text) ∧
      ((∃ kind, r.primitive? core = .ok (some kind) ∧ text = String.singleton kind.letter) ∨
        ∃ binary, r.binaryName raw = .ok binary ∧
          text = "L" ++ Name.internalForm binary ++ ";" ∧
          '.' ∉ (Name.internalForm binary).toList)) ∧
    (∀ id id' dimensions dimensions' core core' raw raw', r.Issued id → r.Issued id' →
      r.Innermost id dimensions core → r.erasure core = .ok raw →
      r.Innermost id' dimensions' core' → r.erasure core' = .ok raw' →
      (r.descriptor id = r.descriptor id' ↔ dimensions = dimensions' ∧ raw = raw')) ∧
    ∀ id, r.Issued id → ∃ raw, r.erasure id = .ok raw ∧
      r.descriptor raw = r.descriptor id ∧ r.erasure raw = .ok raw := by
  intro r
  have sound : r.Sound := Session.sound_after_initial calls
  refine ⟨fun id issued => ?_, ?_, fun id issued => ?_⟩
  · obtain ⟨type, typed⟩ := sound.typeOf_total issued
    obtain ⟨core, raw, text, told⟩ := sound.descriptor_told typed
    exact ⟨type.dimensions, core, raw, text, told⟩
  · intro id id' dimensions dimensions' core core' raw raw' issued issued' down erased down' erased'
    obtain ⟨type, typed⟩ := sound.typeOf_total issued
    obtain ⟨other, typed'⟩ := sound.typeOf_total issued'
    exact sound.descriptor_eq_iff typed typed' down erased down' erased'
  · obtain ⟨type, typed⟩ := sound.typeOf_total issued
    obtain ⟨raw, erased, rawTyped⟩ := sound.erasure_ok typed
    refine ⟨raw, erased, ?_, sound.erasure_of_erased rawTyped⟩
    rw [(sound.tells rawTyped).descriptor, (sound.tells typed).descriptor,
      JavaType.descriptor_erased]

/-- Arrays of lists of two kinds of elements have the same descriptor, and an array of lists has
another one than a list. -/
theorem descriptors_up_to_erasure_lists :
    let r := (Session.initial.after [.reference "java.util.List", .narrow ⟨18⟩ [⟨5⟩],
      .narrow ⟨18⟩ [⟨18⟩], .array ⟨19⟩, .array ⟨20⟩]).registry
    r.Issued ⟨19⟩ ∧ r.Issued ⟨21⟩ ∧ r.Issued ⟨22⟩ ∧
      r.Innermost ⟨21⟩ 1 ⟨19⟩ ∧ r.Innermost ⟨22⟩ 1 ⟨20⟩ ∧
      r.descriptor ⟨21⟩ = r.descriptor ⟨22⟩ ∧ r.descriptor ⟨21⟩ ≠ r.descriptor ⟨19⟩ := by
  intro r
  have count : r.typeCount = 23 := by subst r; cbv
  have issued : ∀ id : Handle, id.index < 23 → r.Issued id := by
    intro id below
    rw [Issued, count]
    exact below
  have answers : [r.elementType ⟨21⟩, r.elementType ⟨22⟩, r.erasure ⟨19⟩, r.erasure ⟨20⟩] =
      [.ok ⟨19⟩, .ok ⟨20⟩, .ok ⟨18⟩, .ok ⟨18⟩] := by subst r; cbv
  have plain : [r.isArray ⟨19⟩, r.isArray ⟨20⟩] = [.ok false, .ok false] := by subst r; cbv
  simp only [List.cons.injEq, and_true] at answers plain
  obtain ⟨elements, elements', erased, erased'⟩ := answers
  have down : r.Innermost ⟨21⟩ 1 ⟨19⟩ := .down elements (.here plain.1)
  have down' : r.Innermost ⟨22⟩ 1 ⟨20⟩ := .down elements' (.here plain.2)
  have identify := (descriptors_up_to_erasure [.reference "java.util.List", .narrow ⟨18⟩ [⟨5⟩],
    .narrow ⟨18⟩ [⟨18⟩], .array ⟨19⟩, .array ⟨20⟩]).2.1
  have list := issued ⟨19⟩ (by decide)
  have row := issued ⟨21⟩ (by decide)
  have row' := issued ⟨22⟩ (by decide)
  refine ⟨list, row, row', down, down', ?_, fun same => ?_⟩
  · exact (identify _ _ _ _ _ _ _ _ row row' down erased down' erased').mpr ⟨rfl, rfl⟩
  · have dimensions := (identify _ _ _ _ _ _ _ _ row list down erased (.here plain.1) erased).mp same
    exact absurd dimensions.1 (by decide)

end Registry

end JavaTypes
