/-
**What the names of classes look like.**

The grammar of class names is read off the characters of a string. Here it is turned into what the
rest of the theory needs: no identifier holds a dot or another mark that separates parts of a
name, a class name splits into a package and a simple name, and these two give it back.

* `Name.isPart_eq_false_of_mark`: separating marks are in no identifier.
* `Name.isNestedName_iff`: the names of nested classes, without segments.
* `Name.isNestedName_lastSegment`, `Name.qualifier_of_isClassName`: the two parts of a class name.
* `ClassName.named`, `ClassName.fullName_named`: the top-level class of a name, and its name.
* `ClassName.Legal`, `JavaType.Legal`: the classes and the types that a registry may hold.
-/

import JavaTypes.JavaType
import JavaTypes.Name.Class

namespace JavaTypes

namespace Name

/-! ### Identifiers -/

/-- The marks that separate the parts of names and of types. -/
def marks : List Char := ['.', '<', '>', ',', '[', ']']

/-- **No mark is part of an identifier**, in whatever script the identifier is written. -/
theorem isPart_eq_false_of_mark {c : Char} (mark : c ∈ marks) : isPart c = false := by
  simp only [marks, List.mem_cons, List.not_mem_nil, or_false] at mark
  rcases mark with rfl | rfl | rfl | rfl | rfl | rfl <;> decide

theorem isPart_of_isStart {c : Char} (start : isStart c = true) : isPart c = true := by
  simp only [isStart, isPart, Bool.or_eq_true] at start ⊢
  rcases start with (alphabetic | underscore) | dollar
  · exact Or.inl (Or.inl (Or.inl alphabetic))
  · exact Or.inl (Or.inr underscore)
  · exact Or.inr dollar

/-- An identifier is not empty and consists of identifier characters. -/
theorem isIdentifier_chars {s : String} (identifier : isIdentifier s = true) :
    s.toList ≠ [] ∧ ∀ c ∈ s.toList, isPart c = true := by
  unfold isIdentifier at identifier
  cases chars : s.toList with
  | nil =>
    rw [chars] at identifier
    cases identifier
  | cons first rest =>
    rw [chars, isIdentifierChars, Bool.and_eq_true, List.all_eq_true] at identifier
    refine ⟨List.cons_ne_nil _ _, fun c member => ?_⟩
    rcases List.mem_cons.mp member with rfl | later
    · exact isPart_of_isStart identifier.1
    · exact identifier.2 c later

theorem mark_notMem {s : String} (identifier : isIdentifier s = true) {mark : Char}
    (isMark : mark ∈ marks) : mark ∉ s.toList := by
  intro member
  have part := (isIdentifier_chars identifier).2 mark member
  rw [isPart_eq_false_of_mark isMark] at part
  cases part

theorem ne_empty_of_isIdentifier {s : String} (identifier : isIdentifier s = true) : s ≠ "" := by
  rintro rfl
  exact (isIdentifier_chars identifier).1 rfl

/-! ### Segments -/

theorem segments_ne_nil (s : String) : segments s ≠ [] := by
  unfold segments
  rw [ne_eq, List.map_eq_nil_iff]
  exact List.splitOn_ne_nil '.' _

/-- A string without dots is its own only segment. -/
theorem segments_of_dot_notMem {s : String} (plain : '.' ∉ s.toList) : segments s = [s] := by
  unfold segments
  rw [List.splitOn_eq_singleton plain, List.map_singleton, String.ofList_toList]

/-- Joining dotless parts by dots and splitting again gives the parts. -/
theorem segments_intercalate {parts : List String} (nonempty : parts ≠ [])
    (plain : ∀ part ∈ parts, '.' ∉ part.toList) : segments (".".intercalate parts) = parts := by
  unfold segments
  rw [String.toList_intercalate]
  have split : (['.'].intercalate (parts.map String.toList)).splitOn '.' =
      parts.map String.toList := by
    refine List.splitOn_intercalate '.' (fun chars member => ?_) (by simpa using nonempty)
    obtain ⟨part, inside, rfl⟩ := List.mem_map.mp member
    exact plain part inside
  rw [show ".".toList = ['.'] from rfl, split, List.map_map]
  have identity : String.ofList ∘ String.toList = id := by
    funext part
    exact String.ofList_toList
  rw [identity, List.map_id]

theorem segments_eq_concat (s : String) :
    segments s = (segments s).dropLast ++ [lastSegment s] := by
  have nonempty := segments_ne_nil s
  have last : lastSegment s = (segments s).getLast nonempty := by
    rw [lastSegment, List.getLastD_eq_getLast?, List.getLast?_eq_some_getLast nonempty]
    rfl
  rw [last, List.dropLast_concat_getLast nonempty]

/-- What is joined by dots consists of dots and of the characters of the parts. -/
theorem mem_intercalate_dot {parts : List String} {c : Char}
    (member : c ∈ (".".intercalate parts).toList) : c = '.' ∨ ∃ part ∈ parts, c ∈ part.toList := by
  induction parts with
  | nil => cases member
  | cons first rest ih =>
    by_cases alone : rest = []
    · rw [alone, String.intercalate_singleton] at member
      exact Or.inr ⟨first, List.mem_cons_self, member⟩
    · rw [String.intercalate_cons_of_ne_nil alone, String.toList_append, String.toList_append,
        List.mem_append, List.mem_append] at member
      rcases member with (inFirst | dot) | inRest
      · exact Or.inr ⟨first, List.mem_cons_self, inFirst⟩
      · exact Or.inl (List.mem_singleton.mp dot)
      · rcases ih inRest with dot | ⟨part, inside, inPart⟩
        · exact Or.inl dot
        · exact Or.inr ⟨part, List.mem_cons_of_mem _ inside, inPart⟩

theorem lastSegment_mem (s : String) : lastSegment s ∈ segments s := by
  rw [segments_eq_concat s]
  exact List.mem_append_right _ (List.mem_singleton_self _)

/-! ### Class names -/

/-- Whether the string names a package: a dotted name in which no segment is a primitive
keyword. -/
def isPackage (s : String) : Bool := isQualified s && (segments s).all isNoKeyword

theorem isPackage_iff (s : String) :
    isPackage s = true ↔
      ∀ segment ∈ segments s, isIdentifier segment = true ∧ isNoKeyword segment = true := by
  rw [isPackage, isQualified, Bool.and_eq_true, List.all_eq_true, List.all_eq_true]
  exact ⟨fun both segment member => ⟨both.1 segment member, both.2 segment member⟩,
    fun each => ⟨fun segment member => (each segment member).1,
      fun segment member => (each segment member).2⟩⟩

theorem isClassName_iff (s : String) :
    isClassName s = true ↔ isPackage s = true ∧ '$' ∉ (lastSegment s).toList := by
  rw [isClassName, ← isPackage, Bool.and_eq_true, Bool.not_eq_true', List.contains_eq_mem,
    decide_eq_false_iff_not]

theorem isPackage_of_isIdentifier {s : String} (identifier : isIdentifier s = true)
    (free : isNoKeyword s = true) : isPackage s = true := by
  rw [isPackage_iff, segments_of_dot_notMem (mark_notMem identifier (by decide))]
  rintro segment member
  rw [List.mem_singleton.mp member]
  exact ⟨identifier, free⟩

/-- **The names of nested classes**: identifiers other than the primitive keywords, and without a
dollar sign. -/
theorem isNestedName_iff (s : String) :
    isNestedName s = true ↔
      isIdentifier s = true ∧ isNoKeyword s = true ∧ '$' ∉ s.toList := by
  rw [isNestedName, Bool.and_eq_true, Bool.not_eq_true', List.contains_eq_mem,
    decide_eq_false_iff_not, isClassName_iff]
  constructor
  · rintro ⟨⟨package, noDollar⟩, noDot⟩
    have single := segments_of_dot_notMem noDot
    have last : lastSegment s = s := by rw [lastSegment, single]; rfl
    obtain ⟨identifier, free⟩ := (isPackage_iff s).mp package s (by rw [single]; simp)
    rw [last] at noDollar
    exact ⟨identifier, free, noDollar⟩
  · rintro ⟨identifier, free, noDollar⟩
    have noDot : '.' ∉ s.toList := mark_notMem identifier (by decide)
    have last : lastSegment s = s := by rw [lastSegment, segments_of_dot_notMem noDot]; rfl
    rw [last]
    exact ⟨⟨isPackage_of_isIdentifier identifier free, noDollar⟩, noDot⟩

/-- A word with a primitive is the keyword of that primitive. -/
theorem exists_keyword {word : String} (known : (Primitive.ofKeyword? word).isSome = true) :
    ∃ kind : Primitive, word = kind.keyword := by
  obtain ⟨kind, found⟩ := Option.isSome_iff_exists.mp known
  unfold Primitive.ofKeyword? at found
  have same : kind.keyword = word := by simpa using List.find?_some found
  exact ⟨kind, same.symm⟩

theorem isClassName_keyword (kind : Primitive) : isClassName kind.keyword = false := by
  cases kind <;> decide +kernel

theorem isNoKeyword_keyword (kind : Primitive) : isNoKeyword kind.keyword = false := by
  cases kind <;> decide

/-- The simple name in a class name could name a nested class. -/
theorem isNestedName_lastSegment {s : String} (className : isClassName s = true) :
    isNestedName (lastSegment s) = true := by
  obtain ⟨package, noDollar⟩ := (isClassName_iff s).mp className
  obtain ⟨identifier, free⟩ := (isPackage_iff s).mp package _ (lastSegment_mem s)
  exact (isNestedName_iff _).mpr ⟨identifier, free, noDollar⟩

/-- What stands before the last dot of a class name is a package; it is empty if there is no
dot. -/
theorem qualifier_of_isPackage {s : String} (package : isPackage s = true) :
    ((segments s).dropLast = [] ∧ qualifier s = "") ∨
      ((segments s).dropLast ≠ [] ∧ isPackage (qualifier s) = true) := by
  by_cases alone : (segments s).dropLast = []
  · exact Or.inl ⟨alone, by rw [qualifier, alone, String.intercalate_nil]⟩
  · refine Or.inr ⟨alone, (isPackage_iff _).mpr ?_⟩
    have each := (isPackage_iff s).mp package
    have inside : ∀ part ∈ (segments s).dropLast, part ∈ segments s :=
      fun part member => List.dropLast_subset _ member
    rw [qualifier, segments_intercalate alone
      fun part member => mark_notMem (each part (inside part member)).1 (by decide)]
    exact fun part member => each part (inside part member)

theorem qualifier_of_isClassName {s : String} (className : isClassName s = true) :
    qualifier s = "" ∨ isPackage (qualifier s) = true := by
  rcases qualifier_of_isPackage ((isClassName_iff s).mp className).1 with ⟨_, empty⟩ | ⟨_, package⟩
  · exact Or.inl empty
  · exact Or.inr package

/-- The characters of a package are dots and identifier characters. -/
theorem isPackage_chars {s : String} (package : isPackage s = true) :
    ∀ c ∈ s.toList, c = '.' ∨ isPart c = true := by
  intro c member
  rw [← segments_toList s] at member
  rcases mem_intercalate_dot member with dot | ⟨segment, inside, inSegment⟩
  · exact Or.inl dot
  · have identifier := ((isPackage_iff s).mp package segment inside).1
    exact Or.inr ((isIdentifier_chars identifier).2 c inSegment)

theorem lastSegment_of_alone {s : String} (alone : (segments s).dropLast = []) :
    lastSegment s = s := by
  have whole := segments_toList s
  rwa [segments_eq_concat, alone, List.nil_append, String.intercalate_singleton] at whole

theorem isPackage_ne_empty {s : String} (package : isPackage s = true) : s ≠ "" := by
  rintro rfl
  have identifier := ((isPackage_iff "").mp package _ (lastSegment_mem "")).1
  exact ne_empty_of_isIdentifier identifier rfl

/-- The names without qualifier are those without dots. -/
theorem qualifier_eq_empty_iff {s : String} (package : isPackage s = true) :
    qualifier s = "" ↔ '.' ∉ s.toList := by
  constructor
  · intro empty
    rcases qualifier_of_isPackage package with ⟨alone, _⟩ | ⟨_, package'⟩
    · have identifier := ((isPackage_iff s).mp package _ (lastSegment_mem s)).1
      rw [lastSegment_of_alone alone] at identifier
      exact mark_notMem identifier (by decide)
    · exact absurd empty (isPackage_ne_empty package')
  · intro plain
    rw [qualifier, segments_of_dot_notMem plain]
    rfl

end Name

/-! ### Classes by name -/

namespace ClassName

/-- The top-level class of a dotted name. -/
def named (name : String) : ClassName := topLevel (Name.qualifier name) (Name.lastSegment name)

/-- **The top-level class of a class name is written by that name.** -/
theorem fullName_named {name : String} (className : Name.isClassName name = true) :
    (named name).fullName = name := by
  have parts := Name.segments_eq_concat name
  have whole := Name.segments_toList name
  show (if Name.qualifier name = "" then Name.lastSegment name
    else Name.qualifier name ++ "." ++ Name.lastSegment name) = name
  rcases Name.qualifier_of_isPackage ((Name.isClassName_iff name).mp className).1 with
    ⟨alone, empty⟩ | ⟨several, package⟩
  · rw [if_pos empty]
    exact Name.lastSegment_of_alone alone
  · rw [if_neg (Name.isPackage_ne_empty package)]
    rw [parts, String.intercalate_append_of_ne_nil several (List.cons_ne_nil _ _),
      String.intercalate_singleton] at whole
    exact whole

theorem binaryName_named {name : String} (className : Name.isClassName name = true) :
    (named name).binaryName = name :=
  fullName_named className

/-- A class that a registry may hold: its package is empty or a package name, and it and the
classes around it have simple names without dollar signs. -/
def Legal : ClassName → Prop
  | topLevel package name =>
    (package = "" ∨ Name.isPackage package = true) ∧ Name.isNestedName name = true
  | nested outer name => outer.Legal ∧ Name.isNestedName name = true

end ClassName

/-- A type that a registry may hold: its classes are legal, and no class is applied to an empty list
of type arguments. -/
inductive JavaType.Legal : JavaType → Prop
  | primitive (kind : Primitive) : Legal (.primitive kind)
  | rawClass {name : ClassName} (legal : name.Legal) : Legal (.rawClass name)
  | parameterized {generic : ClassName} {arguments : List JavaType} (legal : generic.Legal)
    (nonempty : arguments ≠ []) (each : ∀ argument ∈ arguments, Legal argument) :
    Legal (.parameterized generic arguments)
  | array {element : JavaType} (legal : Legal element) : Legal (.array element)

end JavaTypes
