/-
**Collecting the classes that names stand for.**

The command line hands over names. Each is resolved in the session that the ones before it left,
and the class that it stands for joins the imports. What is collected in the end is known from the
names alone: the classes among them, each once.

* `Session.addImport_topLevel`: adding a top-level class inserts it.
* `CommandLine.Collected`: what holds of the session when some of the names are behind.
* `CommandLine.importName_ok`, `CommandLine.importName_error`: what one name does.
* `CommandLine.importNames_cases`: what all of them do.
-/

import JavaTypes.CommandLine.Run
import JavaTypes.Proofs.ImportSets
import JavaTypes.Proofs.Resolution

namespace JavaTypes

/-! ### Adding a class to the imports -/

namespace Session

variable {s : Session} {id : Handle}

/-- Adding a top-level class inserts it. -/
theorem addImport_topLevel {package simple : String} (sound : s.Sound)
    (typed : s.registry.typeOf id = .ok (.rawClass (.topLevel package simple))) :
    ∃ left, addImport id s = .ok () left ∧ left.registry = s.registry ∧
      left.imports = s.imports.insert id := by
  obtain ⟨tops, left, _, classes, run, recorded, _⟩ := addImport_ok sound typed
  obtain rfl : tops = [id] := forall₂_injective classes (.cons typed .nil)
    fun _ _ _ _ => sound.registry.typeOf_injective
  exact ⟨left, run, recorded.registry, congrArg Imports.mk recorded.classes⟩

/-- Adding a primitive changes nothing. -/
theorem addImport_primitive (sound : s.registry.Sound) (kind : Primitive) :
    addImport (.ofPrimitive kind) s = .ok () s := by
  obtain ⟨tops, mentioned, classes⟩ := sound.mentionedClasses_ok (typeOf_ofPrimitive sound kind)
  cases classes
  rw [addImport, bind_of_ok (query_of_ok mentioned)]
  rfl

end Session

namespace CommandLine

open Session

/-- **The session when some names are behind**: its registry is sound, and its imports are the
classes among those names. -/
structure Collected (behind : List String) (s : Session) : Prop where
  sound : s.registry.Sound
  formed : s.imports.classes.WellFormed
  classes : ∀ id ∈ s.imports.toList, ∃ name ∈ behind, Name.isClassName name = true ∧
    s.registry.typeOf id = .ok (.rawClass (.named name))
  complete : ∀ name ∈ behind, Name.isClassName name = true → ∃ id ∈ s.imports.toList,
    s.registry.typeOf id = .ok (.rawClass (.named name))

theorem collected_initial : Collected [] initial := by
  refine ⟨Registry.sound_initial, ?_, ?_, nofun⟩
  · rw [imports_initial]
    exact OrderedSet.wellFormed_empty
  · rw [imports_initial]
    exact nofun

variable {behind : List String} {name : String} {s middle left : Session} {id : Handle}

theorem importName_of_ok (resolved : resolve name s = .ok id middle)
    (added : addImport id middle = .ok () left) : importName name s = .ok () left :=
  (bind_of_ok (adaptExcept_of_ok resolved)).trans (adaptExcept_of_ok added)

theorem Collected.session_sound (collected : Collected behind s) : s.Sound :=
  ⟨collected.sound, collected.formed, fun id member => by
    obtain ⟨name, _, _, typed⟩ := collected.classes id member
    exact ⟨_, _, typed⟩⟩

/-- A keyword adds nothing. -/
theorem importName_keyword (collected : Collected behind s) (kind : Primitive) :
    ∃ left, importName kind.keyword s = .ok () left ∧
      Collected (behind ++ [kind.keyword]) left := by
  refine ⟨s, importName_of_ok (resolve_keyword kind s) (addImport_primitive collected.sound kind),
    collected.sound, collected.formed, fun id member => ?_, fun name member accepted => ?_⟩
  · obtain ⟨name, given, fits⟩ := collected.classes id member
    exact ⟨name, List.mem_append_left _ given, fits⟩
  · rcases List.mem_append.mp member with old | new
    · exact collected.complete name old accepted
    · rw [List.mem_singleton.mp new, Name.isClassName_keyword] at accepted
      cases accepted

/-- A class name adds its class. -/
theorem importName_class (collected : Collected behind s)
    (accepted : Name.isClassName name = true) :
    ∃ left, importName name s = .ok () left ∧ Collected (behind ++ [name]) left := by
  obtain ⟨id, middle, run, sound, growth, typed⟩ := reference_obtains collected.sound accepted
  have kept : middle.imports = s.imports :=
    imports_of_ok (show Call.perform (.reference name) s = _ from run)
  have resolved : resolve name s = .ok id middle := by
    rw [resolve_of_isClassName accepted]
    exact adaptExcept_of_ok run
  obtain ⟨left, added, registry, inserted⟩ :=
    addImport_topLevel (collected.session_sound.of_registry sound growth kept) typed
  have members : ∀ other, other ∈ left.imports.toList ↔ other ∈ s.imports.toList ∨ other = id := by
    rw [inserted, kept]
    exact fun other => collected.formed.mem_insert
  have keep : ∀ {other type}, s.registry.typeOf other = .ok type →
      left.registry.typeOf other = .ok type := by
    rw [registry]
    exact collected.sound.typeOf_mono sound growth
  rw [← registry] at typed sound
  refine ⟨left, importName_of_ok resolved added, sound, ?_,
    fun other member => ?_, fun other member accepted' => ?_⟩
  · rw [inserted, kept]
    exact collected.formed.insert id
  · rcases (members other).mp member with old | rfl
    · obtain ⟨given, behind, class_, typed⟩ := collected.classes other old
      exact ⟨given, List.mem_append_left _ behind, class_, keep typed⟩
    · exact ⟨name, by simp, accepted, typed⟩
  · rcases List.mem_append.mp member with old | new
    · obtain ⟨given, inside, typed⟩ := collected.complete other old accepted'
      exact ⟨given, (members given).mpr (Or.inl inside), keep typed⟩
    · rw [List.mem_singleton.mp new]
      exact ⟨id, (members id).mpr (Or.inr rfl), typed⟩

/-- A name that stands for a type is imported. -/
theorem importName_ok (collected : Collected behind s) (fits : Name.isTypeName name = true) :
    ∃ left, importName name s = .ok () left ∧ Collected (behind ++ [name]) left := by
  rcases Name.isTypeName_cases fits with ⟨kind, rfl⟩ | accepted
  · exact importName_keyword collected kind
  · exact importName_class collected accepted

/-- Any other name ends the run, and the message names it. -/
theorem importName_error (rejected : Name.isTypeName name = false) (s : Session) :
    ∃ left, importName name s =
      .error (ResolveError.message ⟨name, .refused (.invalidClassName name)⟩) left := by
  obtain ⟨left, refused⟩ := resolve_refused rejected s
  exact ⟨left, bind_of_error (adaptExcept_of_error refused)⟩

/-- **What the names of a command line do**: all of them are collected, or the first that stands
for no type ends the run. -/
theorem importNames_cases (names : List String) :
    (∃ name, names.find? (fun name => !Name.isTypeName name) = some name ∧
      ∃ left, names.forM importName initial =
        .error (ResolveError.message ⟨name, .refused (.invalidClassName name)⟩) left) ∨
    (names.find? (fun name => !Name.isTypeName name) = none ∧
      ∃ left, names.forM importName initial = .ok () left ∧ Collected names left) :=
  forM_cases (fun _ _ _ => importName_ok) (fun _ _ s _ rejected => importName_error rejected s)
    names collected_initial

end CommandLine

end JavaTypes
