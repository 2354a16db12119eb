/-
**Answers stay as they are.**

A session goes on, and its registry grows. Whatever was told about an issued handle is told of it
for good: the tree of its type does not change, all queries answer from that tree, and a handle in
an answer is known by its own tree. The same holds of what is told about several handles at once,
of look-ups that found something, and of listings.

* `Registry.AnswersAlike`: two registries answer all queries about a handle alike.
* `Registry.Sound.answersAlike`: a registry that has grown answers like the old one.
* `Registry.Sound.lookup_mono`: what was found is found again.
* `Registry.Sound.listed_stable`, `Registry.Sound.render_stable`: listings of issued handles stay.
* `Session.answers_stable`: nothing that is asked of a session changes an answer.
-/

import JavaTypes.Proofs.Answers
import JavaTypes.Proofs.Composition
import JavaTypes.Proofs.Listings
import JavaTypes.Proofs.Lookup

namespace JavaTypes

namespace Registry

/-- **The registry `new` answers every query about the handle as `old` does.** -/
structure AnswersAlike (old new : Registry) (id : Handle) : Prop where
  shape : new.shape id = old.shape id
  fullName : new.fullName id = old.fullName id
  binaryName : new.binaryName id = old.binaryName id
  simpleName : new.simpleName id = old.simpleName id
  descriptor : new.descriptor id = old.descriptor id
  packageName : new.packageName id = old.packageName id
  outer : new.outer id = old.outer id
  typeArguments : new.typeArguments id = old.typeArguments id
  elementType : new.elementType id = old.elementType id
  boxed : new.boxed id = old.boxed id
  unboxed : new.unboxed id = old.unboxed id
  erasure : new.erasure id = old.erasure id
  primitive? : new.primitive? id = old.primitive? id
  isPrimitive : new.isPrimitive id = old.isPrimitive id
  isReference : new.isReference id = old.isReference id
  isArray : new.isArray id = old.isArray id
  report : new.report id = old.report id

section Growing

variable {old new : Registry} {id : Handle} {type : JavaType}
  (sound : old.Sound) (sound' : new.Sound) (grows : old.Grows new)

/-! ### Handles in answers -/

theorem Grows.shape_eq (grows : old.Grows new) (issued : old.Issued id) :
    new.shape id = old.shape id := by
  obtain ⟨shape, known⟩ := issued_iff.mp issued
  rw [shape_of_shape? known, shape_of_shape? (grows.shape? known)]

include sound sound' grows

/-- **A handle in an answer stays**, if both answers have the same type. -/
theorem Sound.answer_eq {ask ask' : Except Fault Handle}
    (answered : ∃ answer, ask = .ok answer ∧ old.typeOf answer = .ok type)
    (answered' : ∃ answer, ask' = .ok answer ∧ new.typeOf answer = .ok type) : ask' = ask := by
  obtain ⟨answer, told, typed⟩ := answered
  obtain ⟨answer', told', typed'⟩ := answered'
  rw [told, told', sound'.typeOf_injective typed' (sound.typeOf_mono sound' grows typed)]

theorem Sound.outer_stable (typed : old.typeOf id = .ok type) : new.outer id = old.outer id := by
  have typed' := sound.typeOf_mono sound' grows typed
  obtain ⟨around, told, inside⟩ := sound.outer_ok typed
  obtain ⟨around', told', inside'⟩ := sound'.outer_ok typed'
  rw [told, told']
  congr 1
  generalize type.outer? = outer? at inside inside'
  cases inside with
  | none =>
    cases inside'
    rfl
  | some around =>
    cases inside' with
    | some around' =>
      rw [sound'.typeOf_injective around' (sound.typeOf_mono sound' grows around)]

theorem Sound.typeArguments_stable (typed : old.typeOf id = .ok type) :
    new.typeArguments id = old.typeArguments id := by
  have typed' := sound.typeOf_mono sound' grows typed
  obtain ⟨arguments, told, each⟩ := sound.typeArguments_ok typed
  obtain ⟨arguments', told', each'⟩ := sound'.typeArguments_ok typed'
  have kept := each.imp fun _ _ typed => sound.typeOf_mono sound' grows typed
  rw [told, told', forall₂_injective each' kept fun _ _ _ _ => sound'.typeOf_injective]

theorem Sound.elementType_stable (typed : old.typeOf id = .ok type) :
    new.elementType id = old.elementType id := by
  have answer := sound.elementType_ok typed
  have answer' := sound'.elementType_ok (sound.typeOf_mono sound' grows typed)
  cases element : type.element? with
  | none =>
    rw [element] at answer answer'
    exact answer'.trans answer.symm
  | some elements =>
    rw [element] at answer answer'
    exact sound.answer_eq sound' grows answer answer'

/-! ### All answers -/

/-- **A registry that has grown answers as before** about every handle that was issued before. -/
theorem Sound.answersAlike (issued : old.Issued id) : old.AnswersAlike new id := by
  obtain ⟨type, typed⟩ := sound.typeOf_total issued
  have typed' := sound.typeOf_mono sound' grows typed
  have before := sound.tells typed
  have after := sound'.tells typed'
  exact {
    shape := grows.shape_eq issued
    fullName := after.fullName.trans before.fullName.symm
    binaryName := after.binaryName.trans before.binaryName.symm
    simpleName := after.simpleName.trans before.simpleName.symm
    descriptor := after.descriptor.trans before.descriptor.symm
    packageName := after.packageName.trans before.packageName.symm
    outer := sound.outer_stable sound' grows typed
    typeArguments := sound.typeArguments_stable sound' grows typed
    elementType := sound.elementType_stable sound' grows typed
    boxed := sound.answer_eq sound' grows before.boxed after.boxed
    unboxed := sound.answer_eq sound' grows before.unboxed after.unboxed
    erasure := sound.answer_eq sound' grows before.erasure after.erasure
    primitive? := after.primitive?.trans before.primitive?.symm
    isPrimitive := after.isPrimitive.trans before.isPrimitive.symm
    isReference := after.isReference.trans before.isReference.symm
    isArray := after.isArray.trans before.isArray.symm
    report := after.report.trans before.report.symm }

theorem Sound.compare_stable {a b : Handle} (issued : old.Issued a) (issued' : old.Issued b) :
    new.compare a b = old.compare a b := by
  obtain ⟨type, typed⟩ := sound.typeOf_total issued
  obtain ⟨other, typed'⟩ := sound.typeOf_total issued'
  rw [sound.compare_eq typed typed', sound'.compare_eq (sound.typeOf_mono sound' grows typed)
    (sound.typeOf_mono sound' grows typed')]

/-- **What was found is found again.** -/
theorem Sound.lookup_mono {name : String} (found : old.lookup name = some id) :
    new.lookup name = some id := by
  rw [sound.lookup_eq_some_iff] at found
  rw [sound'.lookup_eq_some_iff]
  exact sound.typeOf_mono sound' grows found

/-! ### Listings -/

theorem Sound.sort_stable {ids : List Handle} (issued : ∀ id ∈ ids, old.Issued id) :
    new.sort ids = old.sort ids := by
  have keys : ids.mapM new.displayKey = ids.mapM old.displayKey := by
    refine mapM_congr fun id member => ?_
    have alike := sound.answersAlike sound' grows (issued id member)
    rw [displayKey, displayKey, alike.fullName, alike.binaryName]
  rw [sort, sort, keys]

theorem Sound.needed_stable (options : ListingOptions) (issued : old.Issued id) :
    Imports.needed new options id = Imports.needed old options id := by
  rw [Imports.needed, Imports.needed, (sound.answersAlike sound' grows issued).packageName]

omit sound' grows in
/-- Whether an issued handle needs an import is decided. -/
theorem Sound.needed_ok (options : ListingOptions) (issued : old.Issued id) :
    ∃ answer, Imports.needed old options id = .ok answer := by
  obtain ⟨type, typed⟩ := sound.typeOf_total issued
  rw [Imports.needed, sound.packageName_ok typed]
  cases type.package? <;> exact ⟨_, rfl⟩

section Listing

variable {imports : Imports} (issued : ∀ id ∈ imports.toList, old.Issued id)
  (options : ListingOptions)
include issued

omit sound' grows in
/-- **Issued handles can be listed**, whatever options there are. -/
theorem Sound.exists_listed :
    ∃ order, imports.listed old options = .ok order ∧ ∀ id ∈ order, old.Issued id := by
  choose! answer answered using fun id member => sound.needed_ok options (issued id member)
  have inside : ∀ id ∈ imports.toList.filter answer, old.Issued id :=
    fun id member => issued id (List.mem_of_mem_filter member)
  obtain ⟨order, sorted, permuted, _⟩ := sound.exists_sorted inside
  refine ⟨order, ?_, fun id member => inside id (permuted.subset member)⟩
  rw [Imports.listed, filterM_of_ok answered]
  exact sorted

theorem Sound.listed_stable : imports.listed new options = imports.listed old options := by
  choose! answer answered using fun id member => sound.needed_ok options (issued id member)
  have answered' : ∀ id ∈ imports.toList, Imports.needed new options id = .ok (answer id) := by
    intro id member
    rw [sound.needed_stable sound' grows options (issued id member)]
    exact answered id member
  rw [Imports.listed, Imports.listed, filterM_of_ok answered, filterM_of_ok answered']
  exact sound.sort_stable sound' grows fun id member => issued id (List.mem_of_mem_filter member)

theorem Sound.render_stable : imports.render new options = imports.render old options := by
  obtain ⟨order, listed, inside⟩ := sound.exists_listed issued options
  have names : order.mapM new.fullName = order.mapM old.fullName :=
    mapM_congr fun id member => (sound.answersAlike sound' grows (inside id member)).fullName
  rw [Imports.render, Imports.render, sound.listed_stable sound' grows issued options, listed]
  show (order.mapM new.fullName >>= _) = (order.mapM old.fullName >>= _)
  rw [names]

end Listing

end Growing

end Registry

/-! ### Sessions -/

namespace Session

/-- **Answers stay as they are.** Take any session that demands lead to from a new one, and serve
any further demands: requests, names and descriptions, whether they are met, refused or given
handles that were never issued. Every handle that was issued is still issued, and all queries about
it, the report among them, have the answers they had; two such handles compare as before. What a
look-up found it finds again. Imports of such handles are listed as before, with the same text. -/
theorem answers_stable (earlier demands : List Demand) :
    let old := (initial.serve earlier).registry
    let new := ((initial.serve earlier).serve demands).registry
    (∀ id, old.Issued id → new.Issued id ∧ old.AnswersAlike new id) ∧
    (∀ a b, old.Issued a → old.Issued b → new.compare a b = old.compare a b) ∧
    (∀ name id, old.lookup name = some id → new.lookup name = some id) ∧
    ∀ (imports : Imports) (options : ListingOptions), (∀ id ∈ imports.toList, old.Issued id) →
      imports.listed new options = imports.listed old options ∧
      imports.render new options = imports.render old options := by
  intro old new
  have sound : old.Sound := (sound_serve Registry.sound_initial earlier).1
  obtain ⟨sound', grows⟩ := sound_serve sound demands
  refine ⟨fun id issued => ⟨grows.issued issued, sound.answersAlike sound' grows issued⟩,
    fun a b => sound.compare_stable sound' grows,
    fun name id => sound.lookup_mono sound' grows, fun imports options issued => ⟨?_, ?_⟩⟩
  · exact sound.listed_stable sound' grows issued options
  · exact sound.render_stable sound' grows issued options

/-- What was told about a class still holds after a request for an array of a handle that was never
issued, a description with an unfit type argument, and one that brings new types. -/
theorem answers_stable_list :
    let old := initial.serve [.requested (.reference "java.util.List")]
    let new := old.serve [.requested (.array ⟨99⟩), .described ⟨"org.a.B", ["int", "1x"], 0⟩,
      .described ⟨"java.util.List", ["int"], 2⟩]
    old.registry.Issued ⟨18⟩ ∧ old.registry.Issued .void ∧ new.registry.Issued ⟨18⟩ ∧
      new.registry.report ⟨18⟩ = old.registry.report ⟨18⟩ ∧
      new.registry.fullName ⟨18⟩ = .ok "java.util.List" ∧
      new.registry.lookup "java.util.List" = some ⟨18⟩ ∧
      new.registry.compare ⟨18⟩ .void = old.registry.compare ⟨18⟩ .void := by
  intro old new
  have count : old.registry.typeCount = 19 := by subst old; cbv
  have named : old.registry.fullName ⟨18⟩ = .ok "java.util.List" := by subst old; cbv
  have found : old.registry.lookup "java.util.List" = some ⟨18⟩ := by subst old; cbv
  have issued : ∀ id : Handle, id.index < 19 → old.registry.Issued id := by
    intro id below
    rw [Registry.Issued, count]
    exact below
  obtain ⟨alike, compared, kept, _⟩ := answers_stable
    [.requested (.reference "java.util.List")]
    [.requested (.array ⟨99⟩), .described ⟨"org.a.B", ["int", "1x"], 0⟩,
      .described ⟨"java.util.List", ["int"], 2⟩]
  have list := issued ⟨18⟩ (by decide)
  have void := issued .void (by decide)
  obtain ⟨still, same⟩ := alike _ list
  exact ⟨list, void, still, same.report, same.fullName.trans named, kept _ _ found,
    compared _ _ list void⟩

end Session

end JavaTypes
