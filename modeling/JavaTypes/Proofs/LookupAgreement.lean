/-
**A look-up misses nothing.**

A request for a top-level class stores it under the numbers of its two names, and a look-up goes by
the numbers of the same two names without storing anything. So the two agree: a look-up finds what
the request would answer with, and it finds nothing exactly if the request would add a type. The
full name decides, but only among top-level classes: a nested class may have the same full name.

* `Registry.IsTopLevel`: the handles of top-level classes.
* `ClassName.named_fullName`: the full name of a top-level class gives its two names back.
* `Registry.Sound.lookup_of_isTopLevel`: a top-level class is found under its full name.
* `Session.reference_fresh`: a request for a class that is not found adds it.
* `Session.lookup_complete`: look-ups and requests agree at every moment.
-/

import JavaTypes.Proofs.Stability

namespace JavaTypes

/-- **The full name of a top-level class names that class.** Its simple name has no dot, so the last
dot is the one behind the package. -/
theorem ClassName.named_fullName {package simple : String}
    (legal : (topLevel package simple).Legal) :
    named (topLevel package simple).fullName = topLevel package simple := by
  by_cases empty : package = ""
  · rw [fullName, qualifiedWith, if_pos empty, named_of_isNestedName legal.2, empty]
  · have plain := Name.mark_notMem ((Name.isNestedName_iff simple).mp legal.2).1
      (show '.' ∈ Name.marks by decide)
    rw [fullName, qualifiedWith, if_neg empty, named, Name.qualifier_append_dot package plain,
      Name.lastSegment_append_dot package plain]

namespace Registry

variable {r : Registry} {id : Handle} {name : String}

/-- Behind the handle stands a raw class with no class around it. -/
def IsTopLevel (r : Registry) (id : Handle) : Prop :=
  ∃ package own, r.shape? id = some (.rawClass package none own)

/-- **A top-level class is found under its full name.** -/
theorem Sound.lookup_of_isTopLevel (sound : r.Sound) (topLevel : r.IsTopLevel id)
    (named : r.fullName id = .ok name) : r.lookup name = some id := by
  obtain ⟨package, own, known⟩ := topLevel
  obtain ⟨type, typed, answer⟩ := bind_eq_ok_iff.mp named
  cases answer
  cases (sound.typeOf_of_shape? known).mp typed with
  | topLevel inPackage ownName =>
    cases sound.legal_typeOf typed with
    | rawClass legal =>
      rw [sound.lookup_eq_some_iff]
      show _ = Except.ok (JavaType.rawClass (.named (ClassName.fullName _)))
      rw [ClassName.named_fullName legal]
      exact typed

/-- Nothing else is ever found. -/
theorem Sound.isTopLevel_of_lookup (sound : r.Sound) (found : r.lookup name = some id) :
    r.IsTopLevel id := by
  obtain ⟨package, own, known, _⟩ := sound.shape?_topLevel (sound.lookup_eq_some_iff.mp found)
  exact ⟨package, own, known⟩

/-- Wrapper classes are found at their fixed handles. -/
theorem Sound.lookup_wrapperName (sound : r.Sound) (kind : Primitive) :
    r.lookup kind.wrapperName = some (.ofWrapper kind) := by
  rw [sound.lookup_eq_some_iff, ClassName.named_wrapperName]
  exact Call.typeOf_ofWrapper sound kind

end Registry

/-! ### Look-ups beside requests -/

namespace Session

open Registry

variable {s left : Session} {id : Handle} {name : String}

/-- Only class names are accepted. -/
theorem isClassName_of_reference (succeeds : reference name s = .ok id left) :
    Name.isClassName name = true := by
  by_contra rejected
  obtain ⟨_, refused⟩ := reference_refused (s := s) (Bool.eq_false_iff.mpr rejected)
  rw [succeeds] at refused
  cases refused

/-- What a request answers with is found afterwards. -/
theorem lookup_of_reference (sound : s.registry.Sound)
    (succeeds : reference name s = .ok id left) :
    left.registry.Sound ∧ left.registry.lookup name = some id := by
  have answered : (Call.reference name).perform s = .ok id left := succeeds
  have sound' := Call.sound_of_ok sound answered
  obtain ⟨type, describes, typed⟩ := Call.describes_of_ok sound answered
  cases describes
  exact ⟨sound', sound'.lookup_eq_some_iff.mpr typed⟩

/-- **A request for a class that is not found adds it.** -/
theorem reference_fresh (sound : s.registry.Sound) (accepted : Name.isClassName name = true)
    (missing : s.registry.lookup name = none) :
    ∃ left, reference name s = .ok ⟨s.registry.typeCount⟩ left ∧
      left.registry.typeCount = s.registry.typeCount + 1 := by
  obtain ⟨id, left, run, _, _, typed⟩ := reference_obtains sound accepted
  have unknown : ∀ known, s.registry.Issued known →
      s.registry.typeOf known ≠ .ok (.rawClass (.named name)) := by
    intro known _ typed'
    rw [sound.lookup_eq_some_iff.mpr typed'] at missing
    cases missing
  obtain ⟨rfl, grown⟩ := Call.fresh_of_unknown sound
    (show (Call.reference name).perform s = _ from run) typed unknown
  exact ⟨left, run, grown⟩

/-- Nothing is found exactly if the request adds a type. -/
theorem lookup_eq_none_iff (sound : s.registry.Sound)
    (succeeds : reference name s = .ok id left) :
    s.registry.lookup name = none ↔ left.registry.typeCount = s.registry.typeCount + 1 := by
  have accepted := isClassName_of_reference succeeds
  constructor
  · intro missing
    obtain ⟨left', run, grown⟩ := reference_fresh sound accepted missing
    rw [succeeds] at run
    cases run
    exact grown
  · intro grown
    cases found : s.registry.lookup name with
    | none => rfl
    | some known =>
      rw [reference_of_lookup sound accepted found] at succeeds
      cases succeeds
      omega

/-- **Look-ups and requests agree.** Take any session that requests lead to, and a string that a
request for a top-level class accepts. What is found under the string is the top-level class that
has it as its full name, and then the request answers with the same handle and changes nothing. If
nothing is found the request adds a type, and only then. After the request its answer is found,
whatever is requested next. The same holds of every top-level class and its full name, and wrapper
classes are found from the start; nothing else is ever found, under any string. -/
theorem lookup_complete (calls : List Call) :
    let s := initial.after calls
    let r := s.registry
    (∀ name handle left, reference name s = .ok handle left →
      (∀ id, r.lookup name = some id ↔ r.IsTopLevel id ∧ r.fullName id = .ok name) ∧
      (∀ id, r.lookup name = some id → handle = id ∧ left = s) ∧
      (r.lookup name = none ↔ left.registry.typeCount = r.typeCount + 1) ∧
      ∀ more, (left.after more).registry.lookup name = some handle) ∧
    (∀ id name, r.IsTopLevel id → r.fullName id = .ok name →
      ∀ more, (s.after more).registry.lookup name = some id) ∧
    (∀ kind, r.lookup kind.wrapperName = some (.ofWrapper kind)) ∧
    ∀ name id, r.lookup name = some id → r.IsTopLevel id := by
  intro s r
  have sound : r.Sound := sound_after_initial calls
  refine ⟨fun name handle left succeeds => ?_, fun id name topLevel named more => ?_,
    sound.lookup_wrapperName, fun name id found => sound.isTopLevel_of_lookup found⟩
  · have accepted := isClassName_of_reference succeeds
    obtain ⟨sound', found'⟩ := lookup_of_reference sound succeeds
    refine ⟨fun id => ⟨fun found => ?_, fun ⟨topLevel, named⟩ => ?_⟩, fun id found => ?_,
      lookup_eq_none_iff sound succeeds, fun more => ?_⟩
    · exact ⟨sound.isTopLevel_of_lookup found, sound.fullName_of_lookup accepted found⟩
    · exact sound.lookup_of_isTopLevel topLevel named
    · rw [reference_of_lookup sound accepted found] at succeeds
      cases succeeds
      exact ⟨rfl, rfl⟩
    · exact sound'.lookup_mono (sound_after sound' more) (grows_after left more) found'
  · have found := sound.lookup_of_isTopLevel topLevel named
    exact sound.lookup_mono (sound_after sound more) (grows_after s more) found

/-- A nested class that has the full name of a top-level class in a package is not found under it,
neither before that class is known nor afterwards. -/
theorem lookup_complete_nested :
    let s := initial.after [.reference "a", .nested ⟨18⟩ "B"]
    s.registry.fullName ⟨19⟩ = .ok "a.B" ∧ s.registry.lookup "a.B" = none ∧
      ∃ left, reference "a.B" s = .ok ⟨20⟩ left ∧ left.registry.typeCount = 21 ∧
        (left.after [.array ⟨19⟩]).registry.lookup "a.B" = some ⟨20⟩ ∧
        (s.after [.array ⟨99⟩]).registry.lookup "a" = some ⟨18⟩ := by
  intro s
  have sound : s.registry.Sound := sound_after_initial _
  have nested : s.registry.fullName ⟨19⟩ = .ok "a.B" := by subst s; cbv
  have outer : s.registry.fullName ⟨18⟩ = .ok "a" := by subst s; cbv
  have found : s.registry.lookup "a" = some ⟨18⟩ := by subst s; cbv
  have topLevel := sound.isTopLevel_of_lookup found
  have count : s.registry.typeCount = 20 := by subst s; cbv
  have missing : s.registry.lookup "a.B" = none := by subst s; cbv
  obtain ⟨left, run, grown⟩ := reference_fresh sound (by decide +kernel) missing
  rw [count] at run grown
  obtain ⟨agrees, holds, _⟩ := lookup_complete [.reference "a", .nested ⟨18⟩ "B"]
  obtain ⟨_, _, _, later⟩ := agrees "a.B" ⟨20⟩ left run
  exact ⟨nested, missing, left, run, grown, later _, holds ⟨18⟩ "a" topLevel outer _⟩

end Session

end JavaTypes
