/-
**Class names, segment by segment.**

The grammar of class names checks a whole string, a request divides it at the last dot, and a name
is written from the two parts again. Here all three are told from the segments that a name consists
of, without the functions that split and check: which strings are class names, what a request for
one is refused with, and what is answered about the class that it makes.

* `Name.IsSegment`, `Name.Spelled`: one segment of a name, and a name spelled by its segments.
* `Name.isClassName_iff_spelled`: the class names are the strings that have a spelling.
* `Session.reference_spelled`: what is told about a top-level class.
* `Session.nested_ok_iff`, `Session.nested_told`: when a class may be nested in another, and what is
  told about it.
* `Session.class_names_spelled`: requests for classes accept exactly such names and give them back.
-/

import JavaTypes.Proofs.Answers
import JavaTypes.Proofs.Lookup

namespace JavaTypes

/-! ### Spellings -/

namespace Name

/-- One segment of a name: a letter, an underscore or a dollar sign, then letters, numeric
characters, underscores and dollar signs. It is no primitive keyword. -/
structure IsSegment (segment : String) : Prop where
  characters : ∃ first rest, segment.toList = first :: rest ∧
    (Unicode.isAlphabetic first = true ∨ first = '_' ∨ first = '$') ∧
    ∀ c ∈ rest, Unicode.isAlphabetic c = true ∨ Unicode.isNumeric c = true ∨ c = '_' ∨ c = '$'
  noKeyword : ∀ kind : Primitive, segment ≠ kind.keyword

/-- **The spelling of a class name**: the segments of the qualifier and the last segment, which has
no dollar sign, with dots between them. -/
structure Spelled (front : List String) (last name : String) : Prop where
  joined : name = ".".intercalate (front ++ [last])
  segments : ∀ segment ∈ front ++ [last], IsSegment segment
  noDollar : '$' ∉ last.toList

variable {front : List String} {last name : String}

theorem isStart_iff {c : Char} :
    isStart c = true ↔ Unicode.isAlphabetic c = true ∨ c = '_' ∨ c = '$' := by
  simp [isStart, or_assoc]

theorem isPart_iff {c : Char} :
    isPart c = true ↔
      Unicode.isAlphabetic c = true ∨ Unicode.isNumeric c = true ∨ c = '_' ∨ c = '$' := by
  simp [isPart, or_assoc]

theorem isIdentifier_iff {segment : String} :
    isIdentifier segment = true ↔ ∃ first rest, segment.toList = first :: rest ∧
      (Unicode.isAlphabetic first = true ∨ first = '_' ∨ first = '$') ∧
      ∀ c ∈ rest, Unicode.isAlphabetic c = true ∨ Unicode.isNumeric c = true ∨ c = '_' ∨ c = '$' := by
  unfold isIdentifier
  cases chars : segment.toList with
  | nil => simp [isIdentifierChars]
  | cons first rest => simp [isIdentifierChars, isStart_iff, isPart_iff]

theorem isNoKeyword_iff {segment : String} :
    isNoKeyword segment = true ↔ ∀ kind : Primitive, segment ≠ kind.keyword := by
  constructor
  · rintro free kind rfl
    rw [isNoKeyword_keyword] at free
    cases free
  · intro others
    by_contra keyword
    rw [isNoKeyword, Option.isNone_iff_eq_none, ← Option.not_isSome_iff_eq_none,
      Classical.not_not] at keyword
    obtain ⟨kind, same⟩ := exists_keyword keyword
    exact others kind same

/-- The segments are the identifiers other than the primitive keywords. -/
theorem isSegment_iff {segment : String} :
    IsSegment segment ↔ isIdentifier segment = true ∧ isNoKeyword segment = true := by
  rw [isIdentifier_iff, isNoKeyword_iff]
  exact ⟨fun fits => ⟨fits.characters, fits.noKeyword⟩, fun both => ⟨both.1, both.2⟩⟩

theorem IsSegment.plain {segment : String} (fits : IsSegment segment) : '.' ∉ segment.toList :=
  mark_notMem (isSegment_iff.mp fits).1 (by decide)

/-- The names of nested classes are the segments without dollar signs. -/
theorem isNestedName_iff_isSegment {name : String} :
    isNestedName name = true ↔ IsSegment name ∧ '$' ∉ name.toList := by
  rw [isNestedName_iff, isSegment_iff, and_assoc]

/-- **Splitting a spelled name gives its segments back.** -/
theorem Spelled.segments_eq (spelled : Spelled front last name) :
    Name.segments name = front ++ [last] := by
  rw [spelled.joined]
  exact segments_intercalate (by simp) fun segment member => (spelled.segments segment member).plain

theorem Spelled.qualifier_eq (spelled : Spelled front last name) :
    qualifier name = ".".intercalate front := by
  rw [qualifier, spelled.segments_eq, List.dropLast_concat]

theorem Spelled.lastSegment_eq (spelled : Spelled front last name) : lastSegment name = last := by
  rw [lastSegment, spelled.segments_eq, List.getLastD_concat]

/-- **The class names are the strings that have a spelling.** -/
theorem isClassName_iff_spelled :
    isClassName name = true ↔ ∃ front last, Spelled front last name := by
  rw [isClassName_iff, isPackage_iff]
  constructor
  · rintro ⟨each, noDollar⟩
    have parts := segments_eq_concat name
    refine ⟨(segments name).dropLast, lastSegment name, ?_, fun segment member => ?_, noDollar⟩
    · rw [← parts, segments_toList]
    · rw [← parts] at member
      exact isSegment_iff.mpr (each segment member)
  · rintro ⟨front, last, spelled⟩
    rw [spelled.segments_eq, spelled.lastSegment_eq]
    exact ⟨fun segment member => isSegment_iff.mp (spelled.segments segment member),
      spelled.noDollar⟩

end Name

/-! ### Requests for classes -/

namespace Session

open Registry

variable {s left : Session} {id outer : Handle} {front : List String} {last name : String}

/-- **What is told about a top-level class**: the name that was asked for, and its parts. -/
theorem reference_spelled (sound : s.registry.Sound) (spelled : Name.Spelled front last name) :
    ∃ id left, reference name s = .ok id left ∧
      left.registry.fullName id = .ok name ∧ left.registry.binaryName id = .ok name ∧
      left.registry.simpleName id = .ok last ∧
      left.registry.packageName id = .ok (some (".".intercalate front)) ∧
      left.registry.outer id = .ok none ∧
      left.registry.descriptor id =
        .ok ("L" ++ name.map (fun c => if c = '.' then '/' else c) ++ ";") := by
  have accepted := Name.isClassName_iff_spelled.mpr ⟨front, last, spelled⟩
  obtain ⟨id, left, run, sound', _, typed⟩ := reference_obtains sound accepted
  have told := sound'.tells typed
  obtain ⟨around, outer, inside⟩ := told.outer
  cases inside
  refine ⟨id, left, run, ?_, ?_, ?_, ?_, outer, ?_⟩
  · rw [told.fullName]
    exact congrArg Except.ok (ClassName.fullName_named accepted)
  · rw [told.binaryName]
    exact congrArg Except.ok (ClassName.binaryName_named accepted)
  · rw [told.simpleName]
    exact congrArg Except.ok spelled.lastSegment_eq
  · rw [told.packageName]
    exact congrArg (Except.ok ∘ some) spelled.qualifier_eq
  · rw [told.descriptor, JavaType.descriptor, JavaType.classDescriptor,
      ClassName.binaryName_named accepted, Name.internalForm]

/-- **A class may be nested in every raw class**, under any segment without dollar signs. -/
theorem nested_ok_iff :
    (∃ id left, nested outer name s = .ok id left) ↔
      (∃ package, s.registry.IsRaw outer package) ∧ Name.IsSegment name ∧ '$' ∉ name.toList := by
  rw [← Name.isNestedName_iff_isSegment]
  constructor
  · rintro ⟨id, left, succeeds⟩
    obtain ⟨names, shape, asks, _⟩ :=
      Call.requests_of_ok (show (Call.nested outer name).perform s = _ from succeeds)
    cases asks with
    | nested raw accepted => exact ⟨⟨_, _, _, raw⟩, accepted⟩
  · rintro ⟨⟨package, around, own, raw⟩, accepted⟩
    exact ⟨_, _, (Call.Requests.nested raw accepted).perform⟩

/-- **What is told about a nested class**: its own name behind that of the class around it. -/
theorem nested_told (sound : s.registry.Sound) (succeeds : nested outer name s = .ok id left) :
    ∃ full binary package, s.registry.fullName outer = .ok full ∧
      s.registry.binaryName outer = .ok binary ∧ s.registry.packageName outer = .ok (some package) ∧
      left.registry.fullName id = .ok (full ++ "." ++ name) ∧
      left.registry.binaryName id = .ok (binary ++ "$" ++ name) ∧
      left.registry.simpleName id = .ok name ∧ left.registry.outer id = .ok (some outer) ∧
      left.registry.packageName id = .ok (some package) := by
  have answered : (Call.nested outer name).perform s = .ok id left := succeeds
  have sound' := Call.sound_of_ok sound answered
  have growth := Call.grows_of_ok answered
  obtain ⟨type, describes, typed⟩ := Call.describes_of_ok sound answered
  cases describes with
  | @nested _ _ around inside =>
    have before := sound.tells inside
    have after := sound'.tells typed
    obtain ⟨outer', told, rel⟩ := after.outer
    cases rel with
    | some inside' =>
      obtain rfl := sound'.typeOf_injective inside' (sound.typeOf_mono sound' growth inside)
      exact ⟨around.fullName, around.binaryName, around.package, before.fullName,
        before.binaryName, before.packageName, after.fullName, after.binaryName, after.simpleName,
        told, after.packageName⟩

/-- **Requests for classes go by the spelling of names.** Take any session that requests lead to.
A request for a top-level class succeeds exactly if the string is spelled by segments, the last of
them without a dollar sign; any other string is refused as no class name. The class has that string
as its full and its binary name, its simple name is the last segment, its package the segments
before it, its descriptor has slashes for the dots, and there is no class around it. A class may be
nested exactly in a raw class, which is then an issued handle, under one segment without dollar
signs; it is written behind the class around it, which the answer tells, and shares its package. -/
theorem class_names_spelled (calls : List Call) :
    let s := initial.after calls
    (∀ front last name, Name.Spelled front last name →
      ∃ id left, reference name s = .ok id left ∧
        left.registry.fullName id = .ok name ∧ left.registry.binaryName id = .ok name ∧
        left.registry.simpleName id = .ok last ∧
        left.registry.packageName id = .ok (some (".".intercalate front)) ∧
        left.registry.outer id = .ok none ∧
        left.registry.descriptor id =
          .ok ("L" ++ name.map (fun c => if c = '.' then '/' else c) ++ ";")) ∧
    (∀ name, (¬ ∃ front last, Name.Spelled front last name) →
      ∃ left, reference name s = .error (.refused (.invalidClassName name)) left) ∧
    (∀ outer name, (∃ id left, nested outer name s = .ok id left) ↔
      (∃ package, s.registry.IsRaw outer package) ∧ Name.IsSegment name ∧ '$' ∉ name.toList) ∧
    ∀ outer name id left, nested outer name s = .ok id left →
      ∃ full binary package, s.registry.fullName outer = .ok full ∧
        s.registry.binaryName outer = .ok binary ∧
        s.registry.packageName outer = .ok (some package) ∧
        left.registry.fullName id = .ok (full ++ "." ++ name) ∧
        left.registry.binaryName id = .ok (binary ++ "$" ++ name) ∧
        left.registry.simpleName id = .ok name ∧ left.registry.outer id = .ok (some outer) ∧
        left.registry.packageName id = .ok (some package) := by
  intro s
  have sound : s.registry.Sound := sound_after_initial calls
  refine ⟨fun front last name spelled => reference_spelled sound spelled,
    fun name unspelled => ?_, fun outer name => nested_ok_iff,
    fun outer name id left succeeds => nested_told sound succeeds⟩
  rw [← Name.isClassName_iff_spelled, Bool.not_eq_true] at unspelled
  exact reference_refused unspelled

/-- Dollar signs in a package, in the name of a class, and before a nested class. -/
theorem class_names_spelled_dollar :
    let s := initial.after [.reference "a.b$c.D"]
    (∃ id left, reference "a.b$c.D" s = .ok id left ∧
      left.registry.fullName id = .ok "a.b$c.D" ∧
      left.registry.packageName id = .ok (some "a.b$c") ∧
      left.registry.descriptor id = .ok "La/b$c/D;") ∧
    (∃ left, reference "a.D$E" s = .error (.refused (.invalidClassName "a.D$E")) left) ∧
    ∃ id left, nested ⟨18⟩ "E" s = .ok id left ∧
      left.registry.fullName id = .ok "a.b$c.D.E" ∧
      left.registry.binaryName id = .ok "a.b$c.D$E" ∧
      left.registry.outer id = .ok (some ⟨18⟩) := by
  intro s
  obtain ⟨accepts, refuses, nests, tells⟩ := class_names_spelled [.reference "a.b$c.D"]
  have spelled : Name.Spelled ["a", "b$c"] "D" "a.b$c.D" := by
    refine ⟨by decide +kernel, fun segment member => ?_, by decide⟩
    rw [Name.isSegment_iff]
    revert segment
    decide +kernel
  have unspelled : ¬ ∃ front last, Name.Spelled front last "a.D$E" := by
    rw [← Name.isClassName_iff_spelled]
    decide +kernel
  have raw : s.registry.IsRaw ⟨18⟩ ⟨10⟩ := ⟨none, ⟨11⟩, by subst s; cbv⟩
  have fits : Name.IsSegment "E" := Name.isSegment_iff.mpr (by decide +kernel)
  obtain ⟨id, left, run⟩ := (nests ⟨18⟩ "E").mpr ⟨⟨_, raw⟩, fits, by decide⟩
  obtain ⟨full, binary, package, named, named', _, full', binary', _, around, _⟩ :=
    tells ⟨18⟩ "E" id left run
  have names : [s.registry.fullName ⟨18⟩, s.registry.binaryName ⟨18⟩] =
      [.ok "a.b$c.D", .ok "a.b$c.D"] := by subst s; cbv
  rw [named, named'] at names
  simp only [List.cons.injEq, Except.ok.injEq, and_true] at names
  obtain ⟨rfl, rfl⟩ := names
  obtain ⟨top, left', run', full'', _, _, package'', _, descriptor⟩ := accepts _ _ _ spelled
  rw [show ".".intercalate ["a", "b$c"] = "a.b$c" by decide +kernel] at package''
  rw [show "L" ++ "a.b$c.D".map (fun c => if c = '.' then '/' else c) ++ ";" = "La/b$c/D;" by
    decide +kernel] at descriptor
  exact ⟨⟨top, left', run', full'', package'', descriptor⟩, refuses _ unspelled, id, left, run,
    full', binary', around⟩

end Session

end JavaTypes
