/-
**What a look-up finds.**

A name is only split for a look-up: the part before the last dot is looked for as a package, the
part behind it as a class. So a look-up finds the top-level class with these two parts, whatever
the string is. The parts give the string back unless it begins with a dot: a dot with nothing
before it leaves the same parts as no dot.

* `Name.segments_append_dot`, `Name.parts_cases`: a string and its two parts.
* `Registry.Sound.lookup_eq_some_iff`: what a look-up finds.
* `Session.lookup_finds_named`: the name of what is found is the string, or the string without the
  dot that it begins with.
-/

import JavaTypes.Proofs.Resolution
import Mathlib

namespace JavaTypes

/-! ### A string and its two parts -/

namespace Name

/-- Strings with a dot between them have their segments one after the other. -/
theorem segments_append_dot (first second : String) :
    segments (first ++ "." ++ second) = segments first ++ segments second := by
  have split : (first.toList ++ '.' :: second.toList).splitOn '.' =
      first.toList.splitOn '.' ++ second.toList.splitOn '.' :=
    List.splitOnP_append_cons _ _ (beq_self_eq_true '.')
  rw [segments, segments, segments, ← List.map_append, ← split]
  simp

/-- **A string without a dot is its own last part; any other one is its two parts with a dot
between them.** -/
theorem parts_cases (s : String) :
    (qualifier s = "" ∧ lastSegment s = s) ∨ qualifier s ++ "." ++ lastSegment s = s := by
  by_cases alone : (segments s).dropLast = []
  · exact Or.inl ⟨by rw [qualifier, alone, String.intercalate_nil], lastSegment_of_alone alone⟩
  · have whole := segments_toList s
    rw [segments_eq_concat s, String.intercalate_append_of_ne_nil alone (List.cons_ne_nil _ _),
      String.intercalate_singleton] at whole
    exact Or.inr whole

theorem isPackage_append_dot (first second : String) :
    isPackage (first ++ "." ++ second) = true ↔
      isPackage first = true ∧ isPackage second = true := by
  simp only [isPackage_iff, segments_append_dot, List.forall_mem_append]

/-- What follows a dot is the last part, if there is no dot in it. -/
theorem lastSegment_append_dot (package : String) {simple : String}
    (plain : '.' ∉ simple.toList) : lastSegment (package ++ "." ++ simple) = simple := by
  rw [lastSegment, segments_append_dot, segments_of_dot_notMem plain, List.getLastD_concat]

/-- What stands before that dot is the first part. -/
theorem qualifier_append_dot (package : String) {simple : String}
    (plain : '.' ∉ simple.toList) : qualifier (package ++ "." ++ simple) = package := by
  rw [qualifier, segments_append_dot, segments_of_dot_notMem plain, List.dropLast_concat,
    segments_toList]

/-- A simple name in a package makes a class name. -/
theorem isClassName_append_dot {package simple : String} (inPackage : isPackage package = true)
    (named : isNestedName simple = true) : isClassName (package ++ "." ++ simple) = true := by
  obtain ⟨identifier, free, noDollar⟩ := (isNestedName_iff simple).mp named
  rw [isClassName_iff, isPackage_append_dot,
    lastSegment_append_dot package (mark_notMem identifier (by decide))]
  exact ⟨⟨inPackage, isPackage_of_isIdentifier identifier free⟩, noDollar⟩

/-- So does a simple name alone. -/
theorem isClassName_of_isNestedName {simple : String} (named : isNestedName simple = true) :
    isClassName simple = true := by
  rw [isNestedName, Bool.and_eq_true] at named
  exact named.1

/-- No class name begins with a dot. -/
theorem isClassName_dot (simple : String) : isClassName ("." ++ simple) = false := by
  rw [← Bool.not_eq_true, isClassName_iff]
  rintro ⟨package, _⟩
  rw [show "." ++ simple = "" ++ "." ++ simple by rw [String.empty_append],
    isPackage_append_dot] at package
  exact isPackage_ne_empty package.1 rfl

end Name

/-- A simple name alone is that of a class without package. -/
theorem ClassName.named_of_isNestedName {simple : String}
    (named : Name.isNestedName simple = true) : ClassName.named simple = .topLevel "" simple := by
  have plain := Name.mark_notMem ((Name.isNestedName_iff simple).mp named).1
    (show '.' ∈ Name.marks by decide)
  rw [ClassName.named, Name.qualifier, Name.lastSegment, Name.segments_of_dot_notMem plain]
  rfl

/-! ### What is found -/

theorem NamePool.find?_eq_some_iff {pool : NamePool} (formed : pool.WellFormed) {name : String}
    {id : NameId} : pool.find? name = some id ↔ pool.text? id = some name := by
  rw [find?, Option.map_eq_some_iff, text?]
  constructor
  · rintro ⟨position, found, rfl⟩
    exact (formed name position).mp found
  · intro known
    exact ⟨id.index, (formed name id.index).mpr known, rfl⟩

namespace Registry

variable {r : Registry} {id : Handle} {name : String}

/-- **A look-up finds the top-level class whose package and name are the two parts of the
string**, if the registry has one. -/
theorem Sound.lookup_eq_some_iff (sound : r.Sound) :
    r.lookup name = some id ↔ r.typeOf id = .ok (.rawClass (.named name)) := by
  have found : r.lookup name = some id ↔ ∃ package own, r.names.text? package =
      some (Name.qualifier name) ∧ r.names.text? own = some (Name.lastSegment name) ∧
        r.shape? id = some (.rawClass package none own) := by
    unfold lookup
    simp only [Option.bind_eq_bind, Option.bind_eq_some_iff,
      NamePool.find?_eq_some_iff sound.namesFormed, sound.typesFormed _ _]
    constructor
    · rintro ⟨package, inPackage, own, named, position, stored, answer⟩
      cases answer
      exact ⟨package, own, inPackage, named, stored⟩
    · rintro ⟨package, own, inPackage, named, stored⟩
      exact ⟨package, inPackage, own, named, id.index, stored, rfl⟩
  rw [found, sound.typeOf_eq_ok_iff]
  constructor
  · rintro ⟨package, own, inPackage, named, known⟩
    exact ⟨_, known, .topLevel inPackage named⟩
  · rintro ⟨shape, known, forms⟩
    generalize same : JavaType.rawClass (.named name) = type at forms
    cases forms <;> cases same
    next inPackage named => exact ⟨_, _, inPackage, named, known⟩

/-- What a registry holds under a name has the package and the simple name of a class. -/
theorem Sound.legal_of_lookup (sound : r.Sound) (found : r.lookup name = some id) :
    (ClassName.named name).Legal := by
  cases sound.legal_typeOf (sound.lookup_eq_some_iff.mp found) with
  | rawClass legal => exact legal

/-- **What is found under a class name has that name.** -/
theorem Sound.fullName_of_lookup (sound : r.Sound) (accepted : Name.isClassName name = true)
    (found : r.lookup name = some id) : r.fullName id = .ok name := by
  rw [fullName_of_typeOf (sound.lookup_eq_some_iff.mp found)]
  exact congrArg Except.ok (ClassName.fullName_named accepted)

/-- **A string under which something is found** is a class name, or a class name without package
behind a dot. -/
theorem Sound.name_of_lookup (sound : r.Sound) (found : r.lookup name = some id) :
    Name.isClassName name = true ∨ ∃ simple, name = "." ++ simple ∧
      Name.isClassName simple = true ∧ r.lookup simple = some id := by
  have legal := sound.legal_of_lookup found
  rcases Name.parts_cases name with ⟨_, last⟩ | whole
  · have named := legal.2
    rw [last] at named
    exact Or.inl (Name.isClassName_of_isNestedName named)
  · rcases legal.1 with empty | package
    · right
      have simple := Name.isClassName_of_isNestedName legal.2
      refine ⟨Name.lastSegment name, ?_, simple, ?_⟩
      · rw [empty, String.empty_append] at whole
        exact whole.symm
      -- the simple name alone has the same two parts
      · have parts : ClassName.named (Name.lastSegment name) = ClassName.named name := by
          rw [ClassName.named_of_isNestedName legal.2, ClassName.named, empty]
        rw [sound.lookup_eq_some_iff, parts]
        exact sound.lookup_eq_some_iff.mp found
    · rw [← whole]
      exact Or.inl (Name.isClassName_append_dot package legal.2)

end Registry

/-! ### Asking for what is found -/

namespace Session

open Registry

variable {s : Session} {id : Handle} {name : String}

/-- A request for what is found under a class name answers with it, and changes nothing. -/
theorem reference_of_lookup (sound : s.registry.Sound) (accepted : Name.isClassName name = true)
    (found : s.registry.lookup name = some id) : reference name s = .ok id s := by
  show (Call.reference name).perform s = _
  exact Call.perform_of_known sound (.reference accepted) .reference
    (sound.lookup_eq_some_iff.mp found)

/-- **What a look-up finds.** Take any session that requests lead to. If something is found under a
string that does not begin with a dot, then it has that string as its full name, and a request for
the string answers with it and changes nothing. If the string begins with a dot, all this holds of
the string without the dot, while a request for the string itself is refused. -/
theorem lookup_finds_named (calls : List Call) (name : String) (id : Handle)
    (found : (initial.after calls).registry.lookup name = some id) :
    let s := initial.after calls
    (name.toList.head? ≠ some '.' ∧ s.registry.fullName id = .ok name ∧
      reference name s = .ok id s) ∨
    ∃ simple, name = "." ++ simple ∧ s.registry.lookup simple = some id ∧
      s.registry.fullName id = .ok simple ∧ reference simple s = .ok id s ∧
      ∃ left, reference name s = .error (.refused (.invalidClassName name)) left := by
  intro s
  have sound : s.registry.Sound := sound_after_initial calls
  rcases sound.name_of_lookup found with accepted | ⟨simple, rfl, accepted, found'⟩
  · refine Or.inl ⟨fun dot => ?_, sound.fullName_of_lookup accepted found,
      reference_of_lookup sound accepted found⟩
    obtain ⟨rest, chars⟩ := List.head?_eq_some_iff.mp dot
    have behind : name = "." ++ String.ofList rest := by
      rw [← String.toList_inj, chars, String.toList_append]
      show _ = '.' :: (String.ofList rest).toList
      rw [String.toList_ofList]
    rw [behind, Name.isClassName_dot] at accepted
    cases accepted
  · exact Or.inr ⟨simple, rfl, found', sound.fullName_of_lookup accepted found',
      reference_of_lookup sound accepted found', reference_refused (Name.isClassName_dot simple)⟩

/-- A class in a package is found under its name. -/
theorem lookup_finds_named_map :
    let s := initial.after [.reference "java.util.Map"]
    s.registry.lookup "java.util.Map" = some ⟨18⟩ ∧
      s.registry.fullName ⟨18⟩ = .ok "java.util.Map" ∧
      reference "java.util.Map" s = .ok ⟨18⟩ s := by
  intro s
  have found : s.registry.lookup "java.util.Map" = some ⟨18⟩ := by subst s; cbv
  refine ⟨found, ?_⟩
  rcases lookup_finds_named [.reference "java.util.Map"] _ _ found with
    ⟨_, named, same⟩ | ⟨simple, dotted, _⟩
  · exact ⟨named, same⟩
  · have first := congrArg (fun text : String => text.toList.head?) dotted
    simp at first

/-- **A dot in front is overlooked**: a class without package is found under its name behind a dot,
which is not its name and which no request accepts. -/
theorem lookup_overlooks_dot :
    let s := initial.after [.reference "Foo"]
    s.registry.lookup ".Foo" = some ⟨18⟩ ∧ s.registry.fullName ⟨18⟩ = .ok "Foo" ∧
      ∃ left, reference ".Foo" s = .error (.refused (.invalidClassName ".Foo")) left := by
  intro s
  have found : s.registry.lookup ".Foo" = some ⟨18⟩ := by subst s; cbv
  have typed : s.registry.typeOf ⟨18⟩ = .ok (.rawClass (.topLevel "" "Foo")) := by subst s; cbv
  exact ⟨found, fullName_of_typeOf typed, reference_refused (Name.isClassName_dot "Foo")⟩

end Session

end JavaTypes
