/-
**The import listing, told from the names alone.**

Behind a listing stand handles, whose numbers depend on the order in which names were given. What is
printed does not: it is the text that sorting the given names as strings leads to.

* `ImportListing.needed`: the names that need an import.
* `ImportListing.text`: the listing of a set of names.
* `CommandLine.Collected.render_eq`: imports that were collected from names render as their listing.
* `CommandLine.run_imports`: what the command prints.
-/

import JavaTypes.Proofs.ImportCollection
import JavaTypes.Proofs.Listings

namespace JavaTypes

/-! ### Listings of strings -/

namespace ImportListing

/-- Whether a class of this name needs an import: it is in a package, which is neither that of the
compilation unit nor, if its classes are visible without import, `java.lang`. -/
def needed (package : Option String) (implicitJavaLang : Bool) (name : String) : Bool :=
  name.toList.contains '.' && package != some (Name.qualifier name) &&
    !(implicitJavaLang && Name.qualifier name == "java.lang")

/-- The lines for a set of names: those of the `java` group in ascending order, then the others in
ascending order, with an empty line between the two if there are both. -/
def blocks (names : Finset String) : String :=
  let first := DisplayOrder.group true names
  let rest := DisplayOrder.group false names
  lines first ++ (if first = [] ∨ rest = [] then "" else "\n") ++ lines rest

/-- **The listing of a set of names**: the lines for those that need an import. -/
def text (package : Option String) (implicitJavaLang : Bool) (names : Finset String) : String :=
  blocks (names.filter fun name => needed package implicitJavaLang name)

/-- Among the names of types only class names have a dot. -/
theorem isClassName_of_needed {package : Option String} {implicitJavaLang : Bool} {name : String}
    (fits : Name.isTypeName name = true) (need : needed package implicitJavaLang name = true) :
    Name.isClassName name = true := by
  rcases Name.isTypeName_cases fits with ⟨kind, rfl⟩ | accepted
  · rw [needed, Bool.and_eq_true, Bool.and_eq_true] at need
    have noDot : kind.keyword.toList.contains '.' = false := by cases kind <;> decide
    rw [noDot] at need
    cases need.1.1
  · exact accepted

/-- The classes that a listing skips are those whose names need no import. -/
theorem not_skips_eq_needed {name : String} (accepted : Name.isClassName name = true)
    (options : ListingOptions) :
    (!options.skips (Name.qualifier name)) =
      needed options.package options.implicitJavaLang name := by
  have package := ((Name.isClassName_iff name).mp accepted).1
  have inPackage : (Name.qualifier name == "") = !name.toList.contains '.' := by
    rw [Bool.eq_iff_iff, beq_iff_eq, Name.qualifier_eq_empty_iff package]
    simp
  rw [ListingOptions.skips, needed, inPackage, bne, javaLang, Bool.not_or, Bool.not_or,
    Bool.not_not]
  exact Bool.and_right_comm _ _ _

/-- Distinct names in display order are printed as the lines for their set. -/
theorem block_eq {names : List String} (distinct : names.Nodup)
    (ascending : names.Pairwise fun a b => (DisplayOrder.compareNames a b).isLE = true) :
    Imports.block .plain names = blocks names.toFinset := by
  rw [← DisplayOrder.filter_append_filter ascending, Imports.block_append (by simp) (by simp),
    DisplayOrder.filter_append_filter ascending, DisplayOrder.filter_eq_group distinct ascending,
    DisplayOrder.filter_eq_group distinct ascending, join_line_plain, join_line_plain, blocks]

end ImportListing

/-! ### Rendering classes by their names -/

/-- The handles are those of the classes with these names. -/
def Registry.Named (r : Registry) (ids : List Handle) (name : Handle → String) : Prop :=
  ∀ id ∈ ids, Name.isClassName (name id) = true ∧
    r.typeOf id = .ok (.rawClass (.named (name id)))

namespace Registry.Named

open DisplayOrder ImportListing

variable {r : Registry} {ids : List Handle} {name : Handle → String} {id : Handle}

theorem fullName (named : r.Named ids name) (member : id ∈ ids) :
    r.fullName id = .ok (name id) := by
  obtain ⟨accepted, typed⟩ := named id member
  rw [Registry.fullName_of_typeOf typed]
  exact congrArg Except.ok (ClassName.fullName_named accepted)

/-- **Imports with distinct names render as the listing of their names.** -/
theorem render_eq {s : Session} (sound : s.Sound)
    (named : s.registry.Named s.imports.toList name)
    (distinct : (s.imports.toList.map name).Nodup) (package : Option String)
    (implicitJavaLang : Bool) :
    s.imports.render s.registry { package, implicitJavaLang, palette := .plain } =
      .ok (text package implicitJavaLang (s.imports.toList.map name).toFinset) := by
  obtain ⟨order, listed, ascending, inside⟩ := sound.listed_ok { package, implicitJavaLang }
  have members : ∀ id, id ∈ order ↔
      id ∈ s.imports.toList ∧ needed package implicitJavaLang (name id) = true := by
    intro id
    rw [inside]
    refine and_congr_right fun member => ?_
    obtain ⟨accepted, typed⟩ := named id member
    have need := not_skips_eq_needed accepted { package, implicitJavaLang }
    simp [sound.registry.packageName_topLevel typed, ← need]
  have imported : ∀ id ∈ order, id ∈ s.imports.toList := fun id member =>
    ((members id).mp member).1
  obtain ⟨names, each, byName, rendered⟩ := sound.render_ok listed ascending imported
  have given : order.mapM s.registry.fullName = .ok (order.map name) :=
    mapM_of_ok fun id member => named.fullName (imported id member)
  cases (mapM_eq_ok_iff.mpr each).symm.trans given
  have distinct' : (order.map name).Nodup := by
    refine List.Nodup.map_on (fun id member id' member' same => ?_) (ascending.imp ne_of_irrefl)
    exact List.inj_on_of_nodup_map distinct (imported id member) (imported id' member') same
  have wanted : (order.map name).toFinset =
      (s.imports.toList.map name).toFinset.filter
        fun name => needed package implicitJavaLang name := by
    ext given
    simp only [List.mem_toFinset, Finset.mem_filter, List.mem_map, members]
    constructor
    · rintro ⟨id, ⟨member, need⟩, rfl⟩
      exact ⟨⟨id, member, rfl⟩, need⟩
    · rintro ⟨⟨id, member, rfl⟩, need⟩
      exact ⟨id, ⟨member, need⟩, rfl⟩
  rw [rendered .plain, block_eq distinct' byName, wanted, text]

end Registry.Named

/-! ### The command -/

namespace CommandLine

open Registry ImportListing

variable {names : List String} {s : Session}

/-- The imports that names lead to are the classes among them, each once. -/
theorem Collected.exists_named (collected : Collected names s) :
    ∃ name, s.registry.Named s.imports.toList name ∧ (s.imports.toList.map name).Nodup ∧
      ∀ given, given ∈ s.imports.toList.map name ↔
        given ∈ names ∧ Name.isClassName given = true := by
  choose! name given accepted typed using collected.classes
  refine ⟨name, fun id member => ⟨accepted id member, typed id member⟩, ?_, fun other => ?_⟩
  · refine List.Nodup.map_on (fun id member id' member' same => ?_) collected.formed.nodup
    refine collected.sound.typeOf_injective (typed id member) ?_
    rw [same]
    exact typed id' member'
  · rw [List.mem_map]
    constructor
    · rintro ⟨id, member, rfl⟩
      exact ⟨given id member, accepted id member⟩
    · rintro ⟨inside, accepted'⟩
      obtain ⟨id, member, typed'⟩ := collected.complete other inside accepted'
      rw [typed id member, Except.ok.injEq, JavaType.rawClass.injEq] at typed'
      refine ⟨id, member, ?_⟩
      rw [← ClassName.fullName_named (accepted id member), typed',
        ClassName.fullName_named accepted']

/-- **Imports that were collected from names render as the listing of the names.** -/
theorem Collected.render_eq (collected : Collected names s)
    (fit : ∀ name ∈ names, Name.isTypeName name = true) (package : Option String)
    (implicitJavaLang : Bool) :
    s.imports.render s.registry { package, implicitJavaLang, palette := .plain } =
      .ok (text package implicitJavaLang names.toFinset) := by
  obtain ⟨name, named, distinct, members⟩ := collected.exists_named
  rw [named.render_eq collected.session_sound distinct, text, text]
  congr 2
  ext given
  rw [Finset.mem_filter, Finset.mem_filter, List.mem_toFinset, List.mem_toFinset, members]
  constructor
  · rintro ⟨⟨inside, _⟩, need⟩
    exact ⟨inside, need⟩
  · rintro ⟨inside, need⟩
    exact ⟨⟨inside, isClassName_of_needed (fit given inside) need⟩, need⟩

/-- The wording of the error for a string that stands for no type. -/
theorem message_invalidClassName (name : String) :
    ResolveError.message ⟨name, .refused (.invalidClassName name)⟩ =
      name ++ ": invalid class name: " ++ Text.quoted name := by
  have colon : ": " ++ "invalid class name: " = ": invalid class name: " := by decide
  show name ++ ": " ++ ("invalid class name: " ++ Text.quoted name) = _
  rw [← colon]
  simp only [String.append_assoc]

/-- What the command does with a request for plain text. -/
theorem run_imports_cases {request : ImportsRequest} {terminal : Bool}
    (plain : request.color.colored terminal = false) :
    (∃ name, request.names.find? (fun name => !Name.isTypeName name) = some name ∧
      ∃ events, (Request.imports request).run terminal =
        ⟨1, "", Event.log request.verbosity events ++ "error: " ++
          (name ++ ": invalid class name: " ++ Text.quoted name) ++ "\n"⟩) ∨
    (request.names.find? (fun name => !Name.isTypeName name) = none ∧
      ∃ events, (Request.imports request).run terminal =
        ⟨0, text request.package request.implicitJavaLang request.names.toFinset,
          Event.log request.verbosity events⟩) := by
  rcases importNames_cases request.names with
    ⟨name, first, left, failed⟩ | ⟨none, left, succeeded, collected⟩
  · refine Or.inl ⟨name, first, left.events.toList, ?_⟩
    have answer : ((Request.imports request).answer terminal).run Session.initial =
        .error (ResolveError.message ⟨name, .refused (.invalidClassName name)⟩) left :=
      bind_of_error failed
    rw [Request.run, answer, message_invalidClassName]
    rfl
  · have fit : ∀ name ∈ request.names, Name.isTypeName name = true := by
      simpa using List.find?_eq_none.mp none
    have rendered := collected.render_eq fit request.package request.implicitJavaLang
    obtain ⟨last, reported, registry⟩ : ∃ last, stating (Session.emit
        (.listingImports request.names.length left.imports.size)) left = .ok () last ∧
        last.registry = left.registry := ⟨_, rfl, rfl⟩
    have answer : ((Request.imports request).answer terminal).run Session.initial =
        .ok (text request.package request.implicitJavaLang request.names.toFinset) last := by
      refine (bind_of_ok succeeded).trans ?_
      refine (bind_of_ok (rfl : (get : AnswerM Session) left = .ok left left)).trans ?_
      refine (bind_of_ok reported).trans (adaptExcept_of_ok (Session.query_of_ok ?_))
      rw [plain, registry]
      exact rendered
    refine Or.inr ⟨none, last.events.toList, ?_⟩
    rw [Request.run, answer]
    rfl

/-- **The `imports` command as a function of strings**, for plain text. If some name stands for no
type, the first such name is the error, which quotes it, and nothing is printed. Otherwise the
listing of the set of names is printed. So neither the order of the names nor their repetition shows
in what is printed. -/
theorem run_imports (request : ImportsRequest) (terminal : Bool)
    (plain : request.color.colored terminal = false) :
    (∃ events, (Request.imports request).run terminal =
      match request.names.find? (fun name => !Name.isTypeName name) with
      | some name => ⟨1, "", Event.log request.verbosity events ++ "error: " ++
          (name ++ ": invalid class name: " ++ Text.quoted name) ++ "\n"⟩
      | none => ⟨0, text request.package request.implicitJavaLang request.names.toFinset,
          Event.log request.verbosity events⟩) ∧
    ∀ (other : ImportsRequest) (terminal' : Bool), other.color.colored terminal' = false →
      other.package = request.package → other.implicitJavaLang = request.implicitJavaLang →
      (∀ name, name ∈ other.names ↔ name ∈ request.names) →
      ((Request.imports other).run terminal').exitCode =
          ((Request.imports request).run terminal).exitCode ∧
        ((Request.imports other).run terminal').stdout =
          ((Request.imports request).run terminal).stdout := by
  refine ⟨?_, fun other terminal' plain' package implicit same => ?_⟩
  · rcases run_imports_cases plain with ⟨name, first, events, run⟩ | ⟨none, events, run⟩
    · exact ⟨events, by rw [run, first]⟩
    · exact ⟨events, by rw [run, none]⟩
  · have names : other.names.toFinset = request.names.toFinset := by
      ext name
      rw [List.mem_toFinset, List.mem_toFinset, same]
    rcases run_imports_cases plain with ⟨name, first, events, run⟩ | ⟨none, events, run⟩ <;>
      rcases run_imports_cases plain' with ⟨name', first', events', run'⟩ | ⟨none', events', run'⟩
    · rw [run, run']
      exact ⟨rfl, rfl⟩
    · rw [List.find?_eq_none] at none'
      have bad := none' name ((same name).mpr (List.mem_of_find?_eq_some first))
      exact absurd (List.find?_some first) bad
    · rw [List.find?_eq_none] at none
      have bad := none name' ((same name').mp (List.mem_of_find?_eq_some first'))
      exact absurd (List.find?_some first') bad
    · rw [run, run', package, implicit, names]
      exact ⟨rfl, rfl⟩

/-- A run that prints two blocks, and one in which a string that stands for no type comes behind a
primitive and before another such string. -/
theorem run_imports_two_blocks :
    ColorChoice.colored true .never = false ∧
      (Request.imports ⟨["org.b.C", "java.util.Map", "int", "org.b.C"],
          none, true, .never, 0⟩).run true =
        ⟨0, "import java.util.Map;\n\nimport org.b.C;\n", ""⟩ ∧
      (Request.imports ⟨["int", "a..\n", "1x"], none, true, .never, 0⟩).run true =
        ⟨1, "", "error: a..\n: invalid class name: \"a..\\n\"\n"⟩ := by
  obtain ⟨⟨events, run⟩, _⟩ := run_imports
    ⟨["org.b.C", "java.util.Map", "int", "org.b.C"], none, true, .never, 0⟩ true rfl
  obtain ⟨⟨events', failed⟩, _⟩ := run_imports
    ⟨["int", "a..\n", "1x"], none, true, .never, 0⟩ true rfl
  have known : ["org.b.C", "java.util.Map", "int", "org.b.C"].find?
      (fun name => !Name.isTypeName name) = none := by decide +kernel
  have listed : text none true ["org.b.C", "java.util.Map", "int", "org.b.C"].toFinset =
      "import java.util.Map;\n\nimport org.b.C;\n" := by decide +kernel
  have first : ["int", "a..\n", "1x"].find? (fun name => !Name.isTypeName name) =
      some "a..\n" := by decide +kernel
  have quotes : Text.quoted "a..\n" = "\"a..\\n\"" := by decide +kernel
  simp only [known, listed, Event.log_zero] at run
  simp only [first, quotes, Event.log_zero] at failed
  exact ⟨rfl, run, failed⟩

end CommandLine

end JavaTypes
