/-
**The characters that a type is written with.**

Names are written with letters and numbers of any script, underscores and dollar signs, and types
with names and a few marks. So what is written of a type stays on one line, shows as it is, and
needs no escape between quotes.

* `Text.isClean`, `Text.Clean`: such characters, and the texts that are made of them.
* `Text.isClean_of_isPart`: the characters of identifiers are clean.
* `JavaType.Legal.clean_textWith`, `JavaType.Legal.clean_descriptor`: so is what is written of a
  type.
* `JavaType.Legal.clean_report`: so is every value of a report.
-/

import JavaTypes.Proofs.Boxing
import JavaTypes.Proofs.Spelling

namespace JavaTypes

/-! ### Clean characters -/

namespace Text

/-- Whether the character is a control character. -/
def isControl (c : Char) : Bool := c.toNat < 0x20 || (0x7f ≤ c.toNat && c.toNat ≤ 0x9f)

/-- The characters that break a line without being control characters, and those that a string in
quotes escapes without that. -/
def marks : List Char := ['\u2028', '\u2029', '"', '\\']

/-- Whether the character neither breaks a line, nor is a control character, a double quote or a
backslash. -/
def isClean (c : Char) : Bool := !isControl c && !marks.contains c

/-- All characters of the text are clean. -/
def Clean (text : String) : Prop := ∀ c ∈ text.toList, isClean c = true

instance (text : String) : Decidable (Clean text) :=
  decidable_of_iff (text.toList.all isClean = true) List.all_eq_true

theorem Clean.notMem {text : String} (clean : Clean text) {c : Char} (unfit : isClean c = false) :
    c ∉ text.toList := fun member => Bool.false_ne_true (unfit.symm.trans (clean c member))

theorem clean_append {first second : String} :
    Clean (first ++ second) ↔ Clean first ∧ Clean second := by
  rw [Clean, String.toList_append, List.forall_mem_append]
  rfl

theorem clean_intercalate {separator : String} {texts : List String} (between : Clean separator)
    (each : ∀ text ∈ texts, Clean text) : Clean (separator.intercalate texts) := by
  induction texts with
  | nil => nofun
  | cons first rest ih =>
    obtain ⟨here, behind⟩ := List.forall_mem_cons.mp each
    by_cases alone : rest = []
    · rw [alone, String.intercalate_singleton]
      exact here
    · rw [String.intercalate_cons_of_ne_nil alone, clean_append, clean_append]
      exact ⟨⟨here, between⟩, ih behind⟩

/-- No character of an identifier is a control character. -/
theorem isControl_of_isPart {c : Char} (part : Name.isPart c = true) : isControl c = false := by
  have code : c.toNat = c.val.toNat := rfl
  have bounds : (0x20 ≤ c.toNat ∧ c.toNat < 0x7f) ∨ 0xaa ≤ c.toNat := by
    rcases Name.isPart_iff.mp part with letter | number | rfl | rfl
    · rcases Unicode.isAlpha_or_le_of_isAlphabetic letter with ascii | above
      · simp only [Char.isAlpha, Char.isUpper, Char.isLower, Bool.or_eq_true, Bool.and_eq_true,
          decide_eq_true_eq, ge_iff_le, UInt32.le_iff_toNat_le] at ascii
        simp at ascii
        omega
      · exact Or.inr above
    · rcases Unicode.isDigit_or_le_of_isNumeric number with ascii | above
      · simp only [Char.isDigit, Bool.and_eq_true, decide_eq_true_eq, ge_iff_le,
          UInt32.le_iff_toNat_le] at ascii
        simp at ascii
        omega
      · omega
    · exact Or.inl (by decide)
    · exact Or.inl (by decide)
  simp only [isControl, Bool.or_eq_false_iff, Bool.and_eq_false_iff, decide_eq_false_iff_not]
  omega

/-- **The characters of identifiers are clean.** -/
theorem isClean_of_isPart {c : Char} (part : Name.isPart c = true) : isClean c = true := by
  have unmarked : marks.all (fun mark => !Name.isPart mark) = true := by decide +kernel
  rw [isClean, isControl_of_isPart part, Bool.not_false, Bool.true_and, Bool.not_eq_true',
    ← Bool.not_eq_true, List.contains_iff_mem]
  intro marked
  have unfit := List.all_eq_true.mp unmarked c marked
  rw [part] at unfit
  cases unfit

end Text

/-! ### What is written of a type -/

open Text

/-- **The qualified name of a class is clean**, if what stands between its parts is. -/
theorem ClassName.Legal.clean_qualifiedWith {name : ClassName} (legal : name.Legal)
    {separator : String} (between : Clean separator) : Clean (name.qualifiedWith separator) := by
  intro c member
  rcases mem_qualifiedWith legal member with rfl | part | inside
  · decide
  · exact isClean_of_isPart part
  · exact between c inside

theorem ClassName.Legal.clean_simpleName {name : ClassName} (legal : name.Legal) :
    Clean name.simpleName := by
  intro c member
  have identifier := ((Name.isNestedName_iff _).mp legal.simpleName).1
  exact isClean_of_isPart ((Name.isIdentifier_chars identifier).2 c member)

theorem ClassName.Legal.clean_package {name : ClassName} (legal : name.Legal) :
    Clean name.package := by
  induction name with
  | topLevel package own =>
    rcases legal.1 with rfl | inPackage
    · nofun
    · intro c member
      rcases Name.isPackage_chars inPackage c member with rfl | part
      · decide
      · exact isClean_of_isPart part
  | nested outer own ih => exact ih legal.1

theorem Primitive.clean_keyword (kind : Primitive) : Clean kind.keyword := by
  cases kind <;> decide

namespace JavaType

variable {type : JavaType}

/-- **The text of a type is clean**, if that of classes is. -/
theorem Legal.clean_textWith (legal : type.Legal) {write : ClassName → String}
    (writes : ∀ name : ClassName, name.Legal → Clean (write name)) :
    Clean (type.textWith write) := by
  induction legal with
  | primitive kind => cases kind <;> exact Primitive.clean_keyword _
  | rawClass legal => exact writes _ legal
  | parameterized legal nonempty each ih =>
    rw [textWith, clean_append, clean_append, clean_append, textsWith_eq_map]
    refine ⟨⟨⟨writes _ legal, by decide⟩, ?_⟩, by decide⟩
    refine clean_intercalate (by decide) fun text member => ?_
    obtain ⟨argument, inside, rfl⟩ := List.mem_map.mp member
    exact ih argument inside
  | array legal ih =>
    rw [textWith, clean_append]
    exact ⟨ih, by decide⟩

theorem Legal.clean_fullName (legal : type.Legal) : Clean type.fullName :=
  legal.clean_textWith fun _ legal => legal.clean_qualifiedWith (by decide)

theorem Legal.clean_binaryName (legal : type.Legal) : Clean type.binaryName :=
  legal.clean_textWith fun _ legal => legal.clean_qualifiedWith (by decide)

theorem Legal.clean_simpleName (legal : type.Legal) : Clean type.simpleName :=
  legal.clean_textWith fun _ legal => legal.clean_simpleName

theorem clean_classDescriptor {name : ClassName} (legal : name.Legal) :
    Clean (classDescriptor name) := by
  have binary : Clean name.binaryName := legal.clean_qualifiedWith (by decide)
  rw [classDescriptor, clean_append, clean_append]
  refine ⟨⟨by decide, fun c member => ?_⟩, by decide⟩
  rw [Name.internalForm, String.toList_map, List.mem_map] at member
  obtain ⟨before, inside, rfl⟩ := member
  split
  · decide
  · exact binary before inside

/-- **Its descriptor is clean.** -/
theorem Legal.clean_descriptor (legal : type.Legal) : Clean type.descriptor := by
  induction legal with
  | primitive kind => cases kind <;> decide
  | rawClass legal => exact clean_classDescriptor legal
  | parameterized legal => exact clean_classDescriptor legal
  | array legal ih =>
    rw [descriptor, clean_append]
    exact ⟨by decide, ih⟩

/-! ### Reports -/

theorem Legal.boxed (legal : type.Legal) : type.boxed.Legal := by
  cases legal with
  | primitive kind => exact legal_boxed kind
  | rawClass legal => exact .rawClass legal
  | parameterized legal nonempty each => exact .parameterized legal nonempty each
  | array legal => exact .array legal

theorem Legal.unboxed (legal : type.Legal) : type.unboxed.Legal := by
  by_cases wrapper : ∃ kind, type = (JavaType.primitive kind).boxed
  · obtain ⟨kind, rfl⟩ := wrapper
    rw [unboxed_boxed]
    exact .primitive kind
  · rw [unboxed_of_ne_boxed fun kind same => wrapper ⟨kind, same⟩]
    exact legal

theorem Legal.erased (legal : type.Legal) : type.erased.Legal := by
  cases legal with
  | primitive kind => exact .primitive kind
  | rawClass legal => exact .rawClass legal
  | parameterized legal nonempty each => exact .rawClass legal
  | array legal => exact .array legal

theorem Legal.of_mem_arguments {argument : JavaType} (legal : type.Legal)
    (member : argument ∈ type.arguments) : argument.Legal := by
  cases legal with
  | primitive kind | rawClass legal | array legal => cases member
  | parameterized legal nonempty each => exact each argument member

theorem Legal.of_element? {element : JavaType} (legal : type.Legal)
    (known : type.element? = some element) : element.Legal := by
  cases legal with
  | primitive kind | rawClass legal | parameterized legal => cases known
  | array legal =>
    cases known
    exact legal

theorem Legal.clean_package {package : String} (legal : type.Legal)
    (known : type.package? = some package) : Clean package := by
  cases legal with
  | primitive kind | array legal => cases known
  | rawClass legal | parameterized legal =>
    cases known
    exact legal.clean_package

/-- **Every value of a report is clean.** -/
theorem Legal.clean_report (legal : type.Legal) :
    ∀ row ∈ type.report.rows, Clean row.2 := by
  have kind : Clean type.kindName := by
    cases type <;> rw [kindName] <;> decide
  intro row member
  simp only [Report.rows, JavaType.report, List.mem_append, List.mem_cons, List.mem_map,
    Option.mem_toList, List.not_mem_nil, or_false] at member
  rcases member with (((fixed | ⟨package, known, rfl⟩) | ⟨_, ⟨argument, inside, rfl⟩, rfl⟩) |
    ⟨_, known, rfl⟩) | converted
  · rcases fixed with rfl | rfl | rfl | rfl | rfl
    · exact kind
    · exact legal.clean_fullName
    · exact legal.clean_binaryName
    · exact legal.clean_simpleName
    · exact legal.clean_descriptor
  · exact legal.clean_package known
  · exact (legal.of_mem_arguments inside).clean_fullName
  · obtain ⟨element, inside, rfl⟩ := Option.map_eq_some_iff.mp known
    exact (legal.of_element? inside).clean_fullName
  · rcases converted with rfl | rfl | rfl
    · exact legal.boxed.clean_fullName
    · exact legal.unboxed.clean_fullName
    · exact legal.erased.clean_fullName

end JavaType

end JavaTypes
