/-
**The text of a type can be read in one way only.**

A text is read from its end. Its last character tells an array from a class with type arguments and
from a plain word; what stands before the type ends with an opening bracket or a comma, so a word
begins behind the last of these. Reading from the end needs no look-ahead: the brackets of arrays
and of type arguments stand behind what they belong to.

* `append_inj_of_last`: a text is divided at the last mark in one way only.
* `JavaType.Legible`: classes are written as words, no word is a primitive keyword, and the word
  tells what there is to know of the class.
* `JavaType.mapClasses_eq_of_textWith_eq`: types with equal texts are equal up to what the words
  tell of their classes.
* `ClassName.mem_qualifiedWith`, `ClassName.qualifiedWith_ne_keyword`: what qualified names are like.
* `ClassName.binaryName_injective`, `JavaType.binaryName_injective`: binary names tell everything.
* `Registry.binaryName_eq_iff`: the binary names of handles, within and across registries.
-/

import JavaTypes.Proofs.TypeTrees
import Mathlib.Data.List.Induction

namespace JavaTypes

/-! ### Dividing a text at its last mark -/

/-- The text `chars` is empty or ends with a mark. -/
def EndsMarked (mark : Char → Bool) (chars : List Char) : Prop :=
  ∀ c ∈ chars.getLast?, mark c = true

/-- Whether characters are free of marks is decided one by one. -/
theorem unmarked_of_all {mark : Char → Bool} {chars : List Char}
    (each : (chars.all fun c => !mark c) = true) : ∀ c ∈ chars, mark c = false := by
  simpa using each

theorem endsMarked_nil (mark : Char → Bool) : EndsMarked mark [] := nofun

theorem endsMarked_concat {mark : Char → Bool} {c : Char} (marked : mark c = true)
    (chars : List Char) : EndsMarked mark (chars ++ [c]) := by
  intro last member
  rw [List.getLast?_concat] at member
  cases member
  exact marked

/-- What stands behind the last mark. -/
theorem takeWhile_reverse_append {mark : Char → Bool} {front back : List Char}
    (ends : EndsMarked mark front) (clean : ∀ c ∈ back, mark c = false) :
    (front ++ back).reverse.takeWhile (fun c => !mark c) = back.reverse := by
  have stop : front.reverse.takeWhile (fun c => !mark c) = [] := by
    cases reversed : front.reverse with
    | nil => rfl
    | cons c rest =>
      have last : front.getLast? = some c := by rw [← List.head?_reverse, reversed]; rfl
      rw [List.takeWhile_cons_of_neg (by simp [ends c last])]
  rw [List.reverse_append, List.takeWhile_append_of_pos, stop, List.append_nil]
  intro c member
  simp [clean c (List.mem_reverse.mp member)]

/-- **A text is divided at its last mark in one way only.** -/
theorem append_inj_of_last {mark : Char → Bool} {front back front' back' : List Char}
    (ends : EndsMarked mark front) (ends' : EndsMarked mark front')
    (clean : ∀ c ∈ back, mark c = false) (clean' : ∀ c ∈ back', mark c = false)
    (same : front ++ back = front' ++ back') : front = front' ∧ back = back' := by
  have read := takeWhile_reverse_append ends clean
  rw [same, takeWhile_reverse_append ends' clean', List.reverse_inj] at read
  subst read
  exact ⟨List.append_cancel_right same, rfl⟩

namespace JavaType

/-! ### Words -/

/-- The characters that the texts of types add to those of their classes. -/
def isBracket (c : Char) : Bool := ['<', '>', ',', '[', ']'].contains c

/-- A text without brackets that is not empty. -/
def IsWord (text : String) : Prop := text ≠ "" ∧ ∀ c ∈ text.toList, isBracket c = false

theorem IsWord.getLast? {text : String} (word : IsWord text) (before : List Char) :
    (before ++ text.toList).getLast?.filter isBracket = none := by
  have nonempty : text.toList ≠ [] := by simpa using word.1
  rw [List.getLast?_append_of_ne_nil _ nonempty, List.getLast?_eq_some_getLast nonempty,
    Option.filter_some, word.2 _ (List.getLast_mem nonempty)]
  rfl

theorem isWord_keyword (kind : Primitive) : IsWord kind.keyword := by
  cases kind <;> exact ⟨by decide, unmarked_of_all (by decide)⟩

theorem keyword_injective {kind other : Primitive} (same : kind.keyword = other.keyword) :
    kind = other := by
  cases kind <;> cases other <;> first | rfl | exact absurd same (by decide)

mutual

/-- The type with every class replaced. -/
def mapClasses (replace : ClassName → ClassName) : JavaType → JavaType
  | primitive kind => primitive kind
  | rawClass name => rawClass (replace name)
  | parameterized generic arguments =>
    parameterized (replace generic) (mapClassesEach replace arguments)
  | array element => array (mapClasses replace element)

/-- The types of a list with every class replaced. -/
def mapClassesEach (replace : ClassName → ClassName) : List JavaType → List JavaType
  | [] => []
  | first :: rest => mapClasses replace first :: mapClassesEach replace rest

end

theorem mapClassesEach_eq_map (replace : ClassName → ClassName) (types : List JavaType) :
    mapClassesEach replace types = types.map (mapClasses replace) := by
  induction types with
  | nil => rfl
  | cons first rest ih => rw [mapClassesEach, ih, List.map_cons]

theorem mapClasses_id {type : JavaType} (legal : type.Legal) : type.mapClasses id = type := by
  induction legal with
  | primitive kind => rfl
  | rawClass legal => rfl
  | parameterized legal nonempty each ih =>
    rw [mapClasses, mapClassesEach_eq_map, List.map_congr_left ih, List.map_id']
    rfl
  | array legal ih => rw [mapClasses, ih]

/-- How classes are written, and what is told of them: every legal class is written as a word that
is no primitive keyword, and classes that are written alike have the same image. -/
structure Legible (write : ClassName → String) (told : ClassName → ClassName) : Prop where
  word : ∀ {name : ClassName}, name.Legal → IsWord (write name)
  noKeyword : ∀ {name : ClassName}, name.Legal → ∀ kind : Primitive, write name ≠ kind.keyword
  tells : ∀ {name other : ClassName}, name.Legal → other.Legal → write name = write other →
    told name = told other

/-! ### The text of a type, character by character -/

section Reading

variable {write : ClassName → String} {told : ClassName → ClassName}

/-- The characters of the text of a type. -/
def chars (write : ClassName → String) (type : JavaType) : List Char :=
  (textWith write type).toList

theorem chars_array (element : JavaType) :
    chars write (array element) = chars write element ++ ['['] ++ [']'] := by
  unfold chars
  rw [textWith, String.toList_append, List.append_assoc]
  rfl

/-- The type arguments before the last one, each with the comma behind it. -/
def leading (write : ClassName → String) (types : List JavaType) : List Char :=
  types.flatMap fun type => chars write type ++ [',']

theorem toList_intercalate_textsWith (types : List JavaType) (last : JavaType) :
    (",".intercalate (textsWith write (types ++ [last]))).toList =
      leading write types ++ chars write last := by
  induction types with
  | nil => rw [List.nil_append, textsWith, textsWith, String.intercalate_singleton]; rfl
  | cons first rest ih =>
    have nonempty : textsWith write (rest ++ [last]) ≠ [] := by
      rw [textsWith_eq_map]
      simp
    rw [List.cons_append, textsWith, String.intercalate_cons_of_ne_nil nonempty,
      String.toList_append, String.toList_append, ih, leading, leading, List.flatMap_cons]
    simp [chars]

theorem chars_parameterized (generic : ClassName) (types : List JavaType) (last : JavaType) :
    chars write (parameterized generic (types ++ [last])) =
      (write generic).toList ++ ['<'] ++ leading write types ++ chars write last ++ ['>'] := by
  unfold chars
  rw [textWith, String.toList_append, String.toList_append, String.toList_append,
    toList_intercalate_textsWith]
  simp [chars]

theorem leading_nil : leading write [] = [] := rfl

theorem leading_concat (types : List JavaType) (last : JavaType) :
    leading write (types ++ [last]) = leading write types ++ chars write last ++ [','] := by
  rw [leading, leading, List.flatMap_append, List.flatMap_singleton, List.append_assoc]

/-- What stands before a type argument ends with the opening bracket or with a comma. -/
theorem endsMarked_leading (front : List Char) (types : List JavaType) :
    EndsMarked isBracket (front ++ ['<'] ++ leading write types) := by
  rcases List.eq_nil_or_concat types with rfl | ⟨init, last, rfl⟩
  · rw [leading_nil, List.append_nil]
    exact endsMarked_concat (by decide) _
  · rw [List.concat_eq_append, leading_concat, ← List.append_assoc]
    exact endsMarked_concat (by decide) _

/-! ### Reading from the end -/

/-- The bracket that the text of a type ends with, if it ends with one. -/
def lastBracket : JavaType → Option Char
  | primitive _ => none
  | rawClass _ => none
  | parameterized _ _ => some '>'
  | array _ => some ']'

/-- **The last character tells the sort of type.** -/
theorem lastBracket_of_chars (legible : Legible write told) {type : JavaType}
    (legal : type.Legal) (before : List Char) :
    (before ++ chars write type).getLast?.filter isBracket = type.lastBracket := by
  cases legal with
  | primitive kind => exact (isWord_keyword kind).getLast? before
  | rawClass legal => exact (legible.word legal).getLast? before
  | @parameterized generic arguments legal nonempty each =>
    rcases List.eq_nil_or_concat arguments with rfl | ⟨init, last, rfl⟩
    · exact absurd rfl nonempty
    · rw [List.concat_eq_append, chars_parameterized, ← List.append_assoc, List.getLast?_concat]
      rfl
  | array legal =>
    rw [chars_array, ← List.append_assoc, List.getLast?_concat]
    rfl

/-- Types that end equal texts end with the same bracket, if with any. -/
theorem lastBracket_unique (legible : Legible write told) {type other : JavaType}
    (legal : type.Legal) (legal' : other.Legal) {before before' : List Char}
    (same : before ++ chars write type = before' ++ chars write other) :
    type.lastBracket = other.lastBracket := by
  rw [← lastBracket_of_chars legible legal before, same, lastBracket_of_chars legible legal']

/-- Two words behind marks are equal if the whole texts are. -/
theorem word_unique {word word' : String} (isWord : IsWord word) (isWord' : IsWord word')
    {before before' : List Char} (ends : EndsMarked isBracket before)
    (ends' : EndsMarked isBracket before')
    (same : before ++ word.toList = before' ++ word'.toList) : before = before' ∧ word = word' := by
  obtain ⟨front, back⟩ := append_inj_of_last ends ends' isWord.2 isWord'.2 same
  exact ⟨front, String.toList_inj.mp back⟩

/-- A text that ends with the text of this type cannot be read in another way: what else it may end
with is equal up to what the words tell, and what stands before it is the same. -/
def ReadOnce (write : ClassName → String) (told : ClassName → ClassName) (type : JavaType) : Prop :=
  ∀ {other : JavaType}, other.Legal → ∀ {before before' : List Char},
    EndsMarked isBracket before → EndsMarked isBracket before' →
    before ++ chars write type = before' ++ chars write other →
    type.mapClasses told = other.mapClasses told ∧ before = before'

/-- Type arguments behind an opening bracket are read one by one, the last one first. -/
theorem leading_unique {types : List JavaType} (each : ∀ type ∈ types, ReadOnce write told type) :
    ∀ {others : List JavaType}, (∀ other ∈ others, other.Legal) → ∀ {front front' : List Char},
      front ++ ['<'] ++ leading write types = front' ++ ['<'] ++ leading write others →
      types.map (mapClasses told) = others.map (mapClasses told) ∧ front = front' := by
  induction types using List.reverseRecOn with
  | nil =>
    intro others legal front front' same
    rcases List.eq_nil_or_concat others with rfl | ⟨init', last', rfl⟩
    · exact ⟨rfl, List.append_cancel_right (List.append_cancel_right same)⟩
    · rw [List.concat_eq_append, leading_concat, ← List.append_assoc, leading_nil,
        List.append_nil] at same
      exact absurd (List.append_inj_right' same rfl) (by decide)
  | append_singleton init last ih =>
    intro others legal front front' same
    rcases List.eq_nil_or_concat others with rfl | ⟨init', last', rfl⟩
    · rw [leading_concat, ← List.append_assoc, leading_nil, List.append_nil] at same
      exact absurd (List.append_inj_right' same rfl) (by decide)
    · rw [List.concat_eq_append] at same legal ⊢
      rw [leading_concat, leading_concat, ← List.append_assoc, ← List.append_assoc,
        ← List.append_assoc, ← List.append_assoc] at same
      obtain ⟨sameLast, sameInit⟩ := each last (by simp) (legal last' (by simp))
        (endsMarked_leading front init) (endsMarked_leading front' init')
        (List.append_cancel_right same)
      obtain ⟨sameTypes, sameFront⟩ := ih (fun type member => each type (by simp [member]))
        (fun other member => legal other (by simp [member])) sameInit
      rw [List.map_append, List.map_append, sameTypes, List.map_singleton, List.map_singleton,
        sameLast]
      exact ⟨rfl, sameFront⟩

theorem readOnce_primitive (legible : Legible write told) (kind : Primitive) :
    ReadOnce write told (primitive kind) := by
  intro other legal' before before' ends ends' same
  have sort := lastBracket_unique legible (.primitive kind) legal' same
  cases legal' with
  | primitive kind' =>
    obtain ⟨front, word⟩ := word_unique (isWord_keyword kind) (isWord_keyword kind') ends ends' same
    rw [keyword_injective word]
    exact ⟨rfl, front⟩
  | rawClass legal' =>
    obtain ⟨_, word⟩ := word_unique (isWord_keyword kind) (legible.word legal') ends ends' same
    exact absurd word.symm (legible.noKeyword legal' kind)
  | parameterized => cases sort
  | array => cases sort

theorem readOnce_rawClass (legible : Legible write told) {name : ClassName} (legal : name.Legal) :
    ReadOnce write told (rawClass name) := by
  intro other legal' before before' ends ends' same
  have sort := lastBracket_unique legible (.rawClass legal) legal' same
  cases legal' with
  | primitive kind' =>
    obtain ⟨_, word⟩ := word_unique (legible.word legal) (isWord_keyword kind') ends ends' same
    exact absurd word (legible.noKeyword legal kind')
  | rawClass legal' =>
    obtain ⟨front, word⟩ := word_unique (legible.word legal) (legible.word legal') ends ends' same
    rw [mapClasses, mapClasses, legible.tells legal legal' word]
    exact ⟨rfl, front⟩
  | parameterized => cases sort
  | array => cases sort

/-- Behind the closing bracket the last type argument is read, then those before it, then the
class. -/
theorem readOnce_parameterized (legible : Legible write told) {generic : ClassName}
    {arguments : List JavaType} (legal : (parameterized generic arguments).Legal)
    (each : ∀ argument ∈ arguments, ReadOnce write told argument) :
    ReadOnce write told (parameterized generic arguments) := by
  intro other legal' before before' ends ends' same
  have sort := lastBracket_unique legible legal legal' same
  cases legal' with
  | primitive => cases sort
  | rawClass => cases sort
  | array => cases sort
  | @parameterized generic' arguments' genericLegal' nonempty' each' =>
    obtain ⟨genericLegal, nonempty⟩ : generic.Legal ∧ arguments ≠ [] := by
      cases legal with
      | parameterized legal nonempty _ => exact ⟨legal, nonempty⟩
    rcases List.eq_nil_or_concat arguments with rfl | ⟨init, last, rfl⟩
    · exact absurd rfl nonempty
    rcases List.eq_nil_or_concat arguments' with rfl | ⟨init', last', rfl⟩
    · exact absurd rfl nonempty'
    simp only [List.concat_eq_append] at same each each' ⊢
    rw [chars_parameterized, chars_parameterized] at same
    simp only [← List.append_assoc] at same
    obtain ⟨sameLast, sameInit⟩ := each last (by simp) (each' last' (by simp))
      (endsMarked_leading _ init) (endsMarked_leading _ init') (List.append_cancel_right same)
    obtain ⟨sameTypes, sameFront⟩ := leading_unique (fun type member => each type (by simp [member]))
      (fun other member => each' other (by simp [member])) sameInit
    obtain ⟨front, word⟩ := word_unique (legible.word genericLegal) (legible.word genericLegal')
      ends ends' sameFront
    simp only [mapClasses, mapClassesEach_eq_map, List.map_append, sameTypes, List.map_singleton,
      sameLast, legible.tells genericLegal genericLegal' word]
    exact ⟨trivial, front⟩

theorem readOnce_array (legible : Legible write told) {element : JavaType}
    (legal : element.Legal) (elements : ReadOnce write told element) :
    ReadOnce write told (array element) := by
  intro other legal' before before' ends ends' same
  have sort := lastBracket_unique legible (.array legal) legal' same
  cases legal' with
  | primitive => cases sort
  | rawClass => cases sort
  | parameterized => cases sort
  | array legal' =>
    rw [chars_array, chars_array, ← List.append_assoc, ← List.append_assoc, ← List.append_assoc,
      ← List.append_assoc] at same
    obtain ⟨sameElement, front⟩ := elements legal' ends ends'
      (List.append_cancel_right (List.append_cancel_right same))
    rw [mapClasses, mapClasses, sameElement]
    exact ⟨rfl, front⟩

/-- **A legal type is read in one way**, whatever stands before it. -/
theorem readOnce (legible : Legible write told) {type : JavaType} (legal : type.Legal) :
    ReadOnce write told type := by
  induction legal with
  | primitive kind => exact readOnce_primitive legible kind
  | rawClass legal => exact readOnce_rawClass legible legal
  | parameterized legal nonempty each ih =>
    exact readOnce_parameterized legible (.parameterized legal nonempty each) ih
  | array legal ih => exact readOnce_array legible legal ih

/-- **Types with equal texts are equal up to what the words tell of their classes.** -/
theorem mapClasses_eq_of_textWith_eq (legible : Legible write told) {type other : JavaType}
    (legal : type.Legal) (legal' : other.Legal)
    (same : textWith write type = textWith write other) :
    type.mapClasses told = other.mapClasses told :=
  (readOnce legible legal legal' (endsMarked_nil isBracket) (endsMarked_nil isBracket)
    (by rw [chars, chars, same])).1

end Reading

end JavaType

/-! ### The binary names of classes -/

namespace ClassName

/-- The marks that stand before the simple name of a class. -/
def isSeparator (c : Char) : Bool := c == '.' || c == '$'

theorem isSeparator_of_isNestedName {name : String} (simple : Name.isNestedName name = true) :
    ∀ c ∈ name.toList, isSeparator c = false := by
  obtain ⟨identifier, _, noDollar⟩ := (Name.isNestedName_iff name).mp simple
  intro c member
  have noDot : c ≠ '.' := by
    rintro rfl
    exact Name.mark_notMem identifier (by decide) member
  have notDollar : c ≠ '$' := by
    rintro rfl
    exact noDollar member
  simp [isSeparator, noDot, notDollar]

theorem Legal.simpleName {name : ClassName} (legal : name.Legal) :
    Name.isNestedName name.simpleName = true := by
  cases name with
  | topLevel package name => exact legal.2
  | nested outer name => exact legal.2

/-- What stands before the simple name in the binary name of a class. -/
def beforeSimpleName : ClassName → List Char
  | topLevel package _ => if package = "" then [] else package.toList ++ ['.']
  | nested outer _ => outer.binaryName.toList ++ ['$']

theorem toList_binaryName (name : ClassName) :
    name.binaryName.toList = name.beforeSimpleName ++ name.simpleName.toList := by
  cases name with
  | topLevel package name =>
    rw [binaryName, qualifiedWith, beforeSimpleName, simpleName]
    by_cases empty : package = ""
    · rw [if_pos empty, if_pos empty, List.nil_append]
    · rw [if_neg empty, if_neg empty, String.toList_append, String.toList_append]
      rfl
  | nested outer name =>
    rw [binaryName, qualifiedWith, String.toList_append, String.toList_append]
    rfl

theorem endsMarked_beforeSimpleName (name : ClassName) :
    EndsMarked isSeparator name.beforeSimpleName := by
  cases name with
  | topLevel package name =>
    rw [beforeSimpleName]
    split
    · exact endsMarked_nil isSeparator
    · exact endsMarked_concat (by decide) _
  | nested outer name => exact endsMarked_concat (by decide) _

/-- The last separator in a binary name stands before the simple name. -/
theorem parts_of_binaryName_eq {name other : ClassName} (legal : name.Legal)
    (legal' : other.Legal) (same : name.binaryName = other.binaryName) :
    name.beforeSimpleName = other.beforeSimpleName ∧ name.simpleName = other.simpleName := by
  have whole := congrArg String.toList same
  rw [toList_binaryName, toList_binaryName] at whole
  obtain ⟨front, back⟩ := append_inj_of_last (endsMarked_beforeSimpleName name)
    (endsMarked_beforeSimpleName other) (isSeparator_of_isNestedName legal.simpleName)
    (isSeparator_of_isNestedName legal'.simpleName) whole
  exact ⟨front, String.toList_inj.mp back⟩

theorem package_of_beforeSimpleName_eq {package package' simple simple' : String}
    (same : (topLevel package simple).beforeSimpleName =
      (topLevel package' simple').beforeSimpleName) : package = package' := by
  rw [beforeSimpleName, beforeSimpleName] at same
  by_cases empty : package = "" <;> by_cases empty' : package' = ""
  · rw [empty, empty']
  · rw [if_pos empty, if_neg empty'] at same
    exact absurd same.symm (List.append_ne_nil_of_right_ne_nil _ (List.cons_ne_nil _ _))
  · rw [if_neg empty, if_pos empty'] at same
    exact absurd same (List.append_ne_nil_of_right_ne_nil _ (List.cons_ne_nil _ _))
  · rw [if_neg empty, if_neg empty'] at same
    exact String.toList_inj.mp (List.append_cancel_right same)

theorem beforeSimpleName_topLevel_ne (package simple : String) (outer : ClassName)
    (simple' : String) :
    (topLevel package simple).beforeSimpleName ≠ (nested outer simple').beforeSimpleName := by
  rw [beforeSimpleName, beforeSimpleName]
  intro same
  split at same
  · exact List.append_ne_nil_of_right_ne_nil _ (List.cons_ne_nil _ _) same.symm
  · exact absurd (List.append_inj_right' same rfl) (by decide)

/-- **Binary names tell legal classes apart.** A dollar sign before the simple name stands for a
class around it, whatever dollar signs the package has. -/
theorem binaryName_injective {name other : ClassName} (legal : name.Legal)
    (legal' : other.Legal) (same : name.binaryName = other.binaryName) : name = other := by
  induction name generalizing other with
  | topLevel package simple =>
    obtain ⟨front, back⟩ := parts_of_binaryName_eq legal legal' same
    cases other with
    | topLevel package' simple' =>
      rw [package_of_beforeSimpleName_eq front, show simple = simple' from back]
    | nested outer' simple' => exact absurd front (beforeSimpleName_topLevel_ne _ _ _ _)
  | nested outer simple ih =>
    obtain ⟨front, back⟩ := parts_of_binaryName_eq legal legal' same
    cases other with
    | topLevel package' simple' => exact absurd front.symm (beforeSimpleName_topLevel_ne _ _ _ _)
    | nested outer' simple' =>
      have outerSame := String.toList_inj.mp (List.append_cancel_right front)
      rw [ih legal.1 legal'.1 outerSame, show simple = simple' from back]

/-! ### Qualified names as words -/

theorem isBracket_of_isPart {c : Char} (part : Name.isPart c = true) :
    JavaType.isBracket c = false := by
  by_contra bracket
  rw [Bool.not_eq_false, JavaType.isBracket, List.contains_iff_mem] at bracket
  rw [Name.isPart_eq_false_of_mark (List.mem_cons_of_mem _ bracket)] at part
  cases part

section Words

variable {separator : String} {name : ClassName} (legal : name.Legal)
include legal

/-- **The characters of a qualified name** are dots, those of identifiers, and those of the
separator. -/
theorem mem_qualifiedWith {c : Char} (member : c ∈ (name.qualifiedWith separator).toList) :
    c = '.' ∨ Name.isPart c = true ∨ c ∈ separator.toList := by
  have simple : ∀ {own : String}, Name.isNestedName own = true → c ∈ own.toList →
      Name.isPart c = true := fun fits inside =>
    (Name.isIdentifier_chars ((Name.isNestedName_iff _).mp fits).1).2 c inside
  induction name with
  | topLevel package own =>
    rw [qualifiedWith] at member
    by_cases empty : package = ""
    · rw [if_pos empty] at member
      exact Or.inr (Or.inl (simple legal.2 member))
    · simp only [if_neg empty, String.toList_append, List.mem_append] at member
      rcases member with (inPackage | dot) | inOwn
      · exact (Name.isPackage_chars (legal.1.resolve_left empty) c inPackage).imp_right Or.inl
      · exact Or.inl (List.mem_singleton.mp dot)
      · exact Or.inr (Or.inl (simple legal.2 inOwn))
  | nested outer own ih =>
    simp only [qualifiedWith, String.toList_append, List.mem_append] at member
    rcases member with (inOuter | between) | inOwn
    · exact ih legal.1 inOuter
    · exact Or.inr (Or.inr between)
    · exact Or.inr (Or.inl (simple legal.2 inOwn))

theorem qualifiedWith_ne_empty : name.qualifiedWith separator ≠ "" := by
  have simple : ∀ {own : String}, Name.isNestedName own = true → own ≠ "" := fun fits =>
    Name.ne_empty_of_isIdentifier ((Name.isNestedName_iff _).mp fits).1
  cases name with
  | topLevel package own =>
    by_cases empty : package = "" <;> simp [qualifiedWith, empty, simple legal.2]
  | nested outer own => simp [qualifiedWith, simple legal.2]

/-- **No primitive keyword is a qualified name.** A name without package and without a class around
it is a simple name, and any other one has a mark that is in no keyword. -/
theorem qualifiedWith_ne_keyword {mark : Char} (marked : mark ∈ separator.toList)
    (foreign : ∀ kind : Primitive, mark ∉ kind.keyword.toList) (kind : Primitive) :
    name.qualifiedWith separator ≠ kind.keyword := by
  intro same
  cases name with
  | topLevel package own =>
    by_cases empty : package = ""
    · have free := ((Name.isNestedName_iff _).mp legal.2).2.1
      rw [qualifiedWith, if_pos empty] at same
      rw [same, Name.isNoKeyword_keyword] at free
      cases free
    · have dot : '.' ∈ ((topLevel package own).qualifiedWith separator).toList := by
        simp [qualifiedWith, empty]
      rw [same] at dot
      cases kind <;> exact absurd dot (by decide)
  | nested outer own =>
    have inside : mark ∈ ((nested outer own).qualifiedWith separator).toList := by
      simp [qualifiedWith, marked]
    rw [same] at inside
    exact foreign kind inside

/-- Qualified names of legal classes are words, if the separator has no brackets. -/
theorem isWord_qualifiedWith (clean : ∀ c ∈ separator.toList, JavaType.isBracket c = false) :
    JavaType.IsWord (name.qualifiedWith separator) := by
  refine ⟨qualifiedWith_ne_empty legal, fun c member => ?_⟩
  rcases mem_qualifiedWith legal member with rfl | part | between
  · rfl
  · exact isBracket_of_isPart part
  · exact clean c between

end Words

/-- Binary names can be read, and tell everything. -/
theorem legible_binaryName : JavaType.Legible binaryName id where
  word := fun legal => isWord_qualifiedWith legal (unmarked_of_all (by decide))
  noKeyword := fun legal => qualifiedWith_ne_keyword legal (show '$' ∈ "$".toList by decide)
    fun kind => by cases kind <;> decide
  tells := binaryName_injective

/-- Full names can be read, as far as classes differ in them. -/
theorem legible_fullName : JavaType.Legible fullName fun name => .named name.fullName where
  word := fun legal => isWord_qualifiedWith legal (unmarked_of_all (by decide))
  noKeyword := fun legal => qualifiedWith_ne_keyword legal (show '.' ∈ ".".toList by decide)
    fun kind => by cases kind <;> decide
  tells := fun _ _ same => by rw [same]

end ClassName

/-- **Binary names tell legal types apart.** -/
theorem JavaType.binaryName_injective {type other : JavaType} (legal : type.Legal)
    (legal' : other.Legal) (same : type.binaryName = other.binaryName) : type = other := by
  have equal := mapClasses_eq_of_textWith_eq ClassName.legible_binaryName legal legal' same
  rwa [mapClasses_id legal, mapClasses_id legal'] at equal

/-! ### The binary names of handles -/

namespace Registry

theorem Sound.binaryName_of_issued {r : Registry} (sound : r.Sound) {id : Handle}
    (issued : r.Issued id) :
    ∃ type, r.typeOf id = .ok type ∧ type.Legal ∧ r.binaryName id = .ok type.binaryName := by
  obtain ⟨type, typed⟩ := sound.typeOf_total issued
  exact ⟨type, typed, sound.legal_typeOf typed, binaryName_of_typeOf typed⟩

/-- **Binary names are unique.** Take the registries after any two lists of requests to new
sessions. Issued handles of the one and the other have types and binary names, and the names are
equal exactly if the types are. Within one registry this means that handles with equal binary names
are equal. -/
theorem binaryName_eq_iff (calls calls' : List Call) :
    let r := (Session.initial.after calls).registry
    let r' := (Session.initial.after calls').registry
    (∀ id id', r.Issued id → r'.Issued id' →
      ∃ type type' name name', r.typeOf id = .ok type ∧ r'.typeOf id' = .ok type' ∧
        r.binaryName id = .ok name ∧ r'.binaryName id' = .ok name' ∧
        (name = name' ↔ type = type')) ∧
    ∀ id id', r.Issued id → r.Issued id' → (r.binaryName id = r.binaryName id' ↔ id = id') := by
  intro r r'
  have sound : r.Sound := Session.sound_after_initial calls
  have sound' : r'.Sound := Session.sound_after_initial calls'
  refine ⟨fun id id' issued issued' => ?_, fun id id' issued issued' => ?_⟩
  · obtain ⟨type, typed, legal, named⟩ := sound.binaryName_of_issued issued
    obtain ⟨type', typed', legal', named'⟩ := sound'.binaryName_of_issued issued'
    exact ⟨type, type', _, _, typed, typed', named, named',
      JavaType.binaryName_injective legal legal', congrArg JavaType.binaryName⟩
  · obtain ⟨type, typed, legal, named⟩ := sound.binaryName_of_issued issued
    obtain ⟨type', typed', legal', named'⟩ := sound.binaryName_of_issued issued'
    refine ⟨fun same => ?_, congrArg r.binaryName⟩
    rw [named, named'] at same
    obtain rfl := JavaType.binaryName_injective legal legal' (Except.ok.inj same)
    exact sound.typeOf_injective typed typed'

end Registry

end JavaTypes
