/-
**The arguments that spell a list of items.**

What a command is told is a list of items: a positional argument, or an option with its value. A
`Vocabulary` says which names stand for which items, and `Vocabulary.Spells` says by which words a
list of items may be written. These are the conventions alone; they do not mention how arguments
are read.

A grammar reads words into a draft. `Grammar.Follows` ties it to a vocabulary: what one option does
to a draft is what hearing its item means. `Grammar.Follows.read_eq_ok_iff` makes this a statement
on all command lines. Reading succeeds exactly on those that spell some items, with the draft in
which these have been heard.

* `Word.ofString_eq_iff`: the form of an argument, and the argument of that form.
* `Vocabulary.Spells`: the words that spell a list of items.
* `Grammar.readFrom_of_settle`: it makes no difference when the last option takes effect.
* `Grammar.Follows.read_eq_ok_iff`: reading undoes spelling.
-/

import JavaTypes.CommandLine.Grammar
import JavaTypes.Proofs.Sequencing
import Mathlib.Data.List.TakeDrop
import Mathlib.Data.List.TakeWhile

namespace JavaTypes.CommandLine

/-! ### The form of an argument -/

/-- The text is no option: it is a single dash, or does not begin with one. -/
def IsPlain (text : String) : Prop := text = "-" ∨ text.toList.head? ≠ some '-'

/-- The name of a long option can be told from the dashes before it and a value behind it. -/
def IsLongName (name : String) : Prop := name ≠ "" ∧ '=' ∉ name.toList

instance (name : String) : Decidable (IsLongName name) := inferInstanceAs (Decidable (_ ∧ _))

namespace Word

/-- The argument of this form. -/
def text : Word → String
  | separator => "--"
  | long name none => "--" ++ name
  | long name (some value) => "--" ++ name ++ "=" ++ value
  | short letters => String.ofList ('-' :: letters)
  | plain text => text

/-- The parts of the word do not run into each other when it is written. -/
def Readable : Word → Prop
  | separator => True
  | long name none => IsLongName name
  | long name (some _) => '=' ∉ name.toList
  | short letters => letters ≠ [] ∧ letters.head? ≠ some '-'
  | plain text => IsPlain text

theorem ofLong_of_not_mem {name : List Char} (clean : '=' ∉ name) :
    ofLong name = long (String.ofList name) none := by
  have all : ∀ c ∈ name, (c != '=') = true := fun c member =>
    bne_iff_ne.mpr fun same => clean (same ▸ member)
  rw [ofLong, List.span_eq_takeWhile_dropWhile, List.dropWhile_eq_nil_iff.mpr all,
    List.takeWhile_eq_self_iff.mpr all]

theorem ofLong_append {name value : List Char} (clean : '=' ∉ name) :
    ofLong (name ++ '=' :: value) = long (String.ofList name) (some (String.ofList value)) := by
  have all : ∀ c ∈ name, (c != '=') = true := fun c member =>
    bne_iff_ne.mpr fun same => clean (same ▸ member)
  rw [ofLong, List.span_eq_takeWhile_dropWhile, List.dropWhile_append_of_pos all,
    List.takeWhile_append_of_pos all]
  simp

theorem ofString_text {word : Word} (readable : word.Readable) : ofString word.text = word := by
  match word, readable with
  | separator, _ => rfl
  | long name none, ⟨nonempty, clean⟩ =>
    have characters : (text (long name none)).toList = '-' :: '-' :: name.toList := by
      simp [text]
    rw [ofString, characters]
    cases spelled : name.toList with
    | nil => exact absurd (String.toList_eq_nil_iff.mp spelled) nonempty
    | cons c rest =>
      show ofLong (c :: rest) = _
      rw [← spelled, ofLong_of_not_mem clean, String.ofList_toList]
  | long name (some value), clean =>
    have characters : (text (long name (some value))).toList =
        '-' :: '-' :: (name.toList ++ '=' :: value.toList) := by
      simp [text]
    rw [ofString, characters]
    cases spelled : name.toList ++ '=' :: value.toList with
    | nil => simp at spelled
    | cons c rest =>
      show ofLong (c :: rest) = _
      rw [← spelled, ofLong_append clean, String.ofList_toList, String.ofList_toList]
  | short letters, ⟨nonempty, noDash⟩ =>
    rw [text, ofString, String.toList_ofList]
    match letters with
    | [] => exact absurd rfl nonempty
    | letter :: rest =>
      have other : letter ≠ '-' := fun same => noDash (by rw [same]; rfl)
      split <;> simp_all
  | plain text, .inl dash => rw [Word.text, dash]; rfl
  | plain text, .inr noDash =>
    rw [Word.text, ofString]
    split <;> simp_all

/-- An argument that begins with two dashes has the form of a long option. -/
theorem ofLong_spec {characters : List Char} (nonempty : characters ≠ []) :
    (ofLong characters).Readable ∧
      (ofLong characters).text = String.ofList ('-' :: '-' :: characters) := by
  by_cases member : '=' ∈ characters
  · obtain ⟨name, value, rfl, clean⟩ := List.eq_append_cons_of_mem member
    rw [ofLong_append clean]
    exact ⟨by simpa [Readable] using clean, String.ext (by simp [text])⟩
  · rw [ofLong_of_not_mem member]
    exact ⟨by simpa [Readable, IsLongName] using ⟨nonempty, member⟩, String.ext (by simp [text])⟩

theorem ofString_spec (argument : String) :
    (ofString argument).Readable ∧ (ofString argument).text = argument := by
  have whole : String.ofList argument.toList = argument := String.ofList_toList
  unfold ofString
  split
  case h_1 spelled => exact ⟨trivial, by rw [← whole, spelled]; rfl⟩
  case h_2 characters notSeparator spelled =>
    obtain ⟨readable, written⟩ := ofLong_spec notSeparator
    exact ⟨readable, by rw [written, ← spelled, whole]⟩
  case h_3 letter letters notSeparator notLong spelled =>
    exact ⟨⟨List.cons_ne_nil _ _, fun dash => notLong (Option.some.inj dash)⟩,
      by rw [text, ← spelled, whole]⟩
  case h_4 _ noLong noShort =>
    refine ⟨?_, rfl⟩
    cases spelled : argument.toList with
    | nil => exact Or.inr (by simp [spelled])
    | cons c rest =>
      by_cases dash : c = '-'
      · subst dash
        cases rest with
        | nil => exact Or.inl (by rw [← whole, spelled])
        | cons letter letters => exact absurd spelled (noShort letter letters)
      · exact Or.inr (by rw [spelled]; exact fun same => dash (Option.some.inj same))

theorem ofString_eq_iff {argument : String} {word : Word} :
    ofString argument = word ↔ word.Readable ∧ word.text = argument := by
  constructor
  · rintro rfl
    exact ofString_spec argument
  · rintro ⟨readable, rfl⟩
    exact ofString_text readable

end Word

/-! ### Spelling items -/

/-- What the names of a command stand for, by the item that is told. -/
structure Vocabulary (Item : Type) where
  positional : String → Item
  /-- The flag of this long name tells the item. -/
  longFlag : String → Item → Prop
  /-- The option of this long name tells the item by this value. -/
  longValue : String → String → Item → Prop
  /-- The flag of this letter tells the item. -/
  shortFlag : Char → Item → Prop
  /-- The option of this letter tells the item by this value. -/
  shortValue : Char → String → Item → Prop
  longFlag_name {name item} : longFlag name item → IsLongName name
  longValue_name {name value item} : longValue name value item → IsLongName name
  shortFlag_letter {letter item} : shortFlag letter item → letter ≠ '-'
  shortValue_letter {letter value item} : shortValue letter value item → letter ≠ '-'

/-- The value of a short option stands behind its letter, perhaps with an equals sign between the
two, or it is the argument behind. -/
inductive ShortValue : String → List Char → List String → Prop
  | attached {letters : List Char} :
    letters ≠ [] → letters.head? ≠ some '=' → ShortValue (String.ofList letters) letters []
  | equals (letters : List Char) : ShortValue (String.ofList letters) ('=' :: letters) []
  | apart {value : String} : IsPlain value → ShortValue value [] [value]

theorem exists_shortValue {letters : List Char} (nonempty : letters ≠ []) :
    ∃ value, ShortValue value letters [] := by
  match letters with
  | [] => exact absurd rfl nonempty
  | c :: rest =>
    by_cases equals : c = '='
    · rw [equals]
      exact ⟨_, .equals rest⟩
    · exact ⟨_, .attached nonempty fun same => equals (Option.some.inj same)⟩

namespace Vocabulary

variable {Item : Type}

/-- The letters behind one dash tell the items. The last of them may take the letters behind it for
its value, or the argument behind; that is then in the list of arguments. -/
inductive Cluster (v : Vocabulary Item) : List Item → List Char → List String → Prop
  | done : v.Cluster [] [] []
  | flag {item letter items letters apart} :
    v.shortFlag letter item → v.Cluster items letters apart →
    v.Cluster (item :: items) (letter :: letters) apart
  | valued {item letter value letters apart} :
    v.shortValue letter value item → ShortValue value letters apart →
    v.Cluster [item] (letter :: letters) apart

/-- The words spell the items, in this order. Everything behind a bare `--` is positional. -/
inductive Spells (v : Vocabulary Item) : List Item → List String → Prop
  | done : v.Spells [] []
  | behind (texts : List String) : v.Spells (texts.map v.positional) ("--" :: texts)
  | positional {text items words} :
    IsPlain text → v.Spells items words → v.Spells (v.positional text :: items) (text :: words)
  | flag {name item items words} :
    v.longFlag name item → v.Spells items words →
    v.Spells (item :: items) (("--" ++ name) :: words)
  | apart {name value item items words} :
    v.longValue name value item → IsPlain value → v.Spells items words →
    v.Spells (item :: items) (("--" ++ name) :: value :: words)
  | attached {name value item items words} :
    v.longValue name value item → v.Spells items words →
    v.Spells (item :: items) (("--" ++ name ++ "=" ++ value) :: words)
  | short {first letters apart items words} :
    letters ≠ [] → v.Cluster first letters apart → v.Spells items words →
    v.Spells (first ++ items) (String.ofList ('-' :: letters) :: (apart ++ words))

/-- An option tells the item. -/
inductive Tells (v : Vocabulary Item) (item : Item) : Prop
  | longFlag {name} : v.longFlag name item → v.Tells item
  | longValue {name value} : v.longValue name value item → v.Tells item
  | shortFlag {letter} : v.shortFlag letter item → v.Tells item
  | shortValue {letter value} : v.shortValue letter value item → v.Tells item

variable {v : Vocabulary Item}

theorem Cluster.tells {items : List Item} {letters : List Char} {apart : List String}
    (cluster : v.Cluster items letters apart) : ∀ item ∈ items, v.Tells item := by
  induction cluster with
  | done => nofun
  | flag tells _ ih => exact List.forall_mem_cons.mpr ⟨.shortFlag tells, ih⟩
  | valued tells _ => exact List.forall_mem_singleton.mpr (.shortValue tells)

/-- Only items that are positional or told by an option can be spelled. -/
theorem Spells.tells {items : List Item} {words : List String} (spells : v.Spells items words) :
    ∀ item ∈ items, (∃ text, item = v.positional text) ∨ v.Tells item := by
  induction spells with
  | done => nofun
  | behind texts =>
    intro item member
    obtain ⟨text, _, rfl⟩ := List.mem_map.mp member
    exact Or.inl ⟨text, rfl⟩
  | positional _ _ ih => exact List.forall_mem_cons.mpr ⟨Or.inl ⟨_, rfl⟩, ih⟩
  | flag tells _ ih => exact List.forall_mem_cons.mpr ⟨Or.inr (.longFlag tells), ih⟩
  | apart tells _ _ ih => exact List.forall_mem_cons.mpr ⟨Or.inr (.longValue tells), ih⟩
  | attached tells _ ih => exact List.forall_mem_cons.mpr ⟨Or.inr (.longValue tells), ih⟩
  | short _ cluster _ ih =>
    exact List.forall_mem_append.mpr ⟨fun item member => Or.inr (cluster.tells item member), ih⟩

/-- All items told by options can be spelled, and any positional arguments behind them. -/
theorem exists_spells {items : List Item} (told : ∀ item ∈ items, v.Tells item)
    (texts : List String) : ∃ words, v.Spells (items ++ texts.map v.positional) words := by
  induction items with
  | nil => exact ⟨_, .behind texts⟩
  | cons item items ih =>
    obtain ⟨here, later⟩ := List.forall_mem_cons.mp told
    obtain ⟨words, spells⟩ := ih later
    cases here with
    | longFlag tells => exact ⟨_, .flag tells spells⟩
    | longValue tells => exact ⟨_, .attached tells spells⟩
    | @shortFlag letter tells =>
      have cluster : v.Cluster [item] [letter] [] := .flag tells .done
      have spelled := Spells.short (List.cons_ne_nil _ _) cluster spells
      exact ⟨_, spelled⟩
    | @shortValue letter value tells =>
      obtain ⟨letters, rfl⟩ : ∃ letters, value = String.ofList letters :=
        ⟨value.toList, String.ofList_toList.symm⟩
      have cluster : v.Cluster [item] (letter :: '=' :: letters) [] :=
        .valued tells (.equals letters)
      have spelled := Spells.short (List.cons_ne_nil _ _) cluster spells
      exact ⟨_, spelled⟩

end Vocabulary

/-! The forms that the words of a spelling have. -/

theorem Word.ofString_plain {text : String} (plain : IsPlain text) :
    Word.ofString text = .plain text :=
  Word.ofString_eq_iff.mpr ⟨plain, rfl⟩

theorem Word.ofString_long {name : String} (proper : IsLongName name) :
    Word.ofString ("--" ++ name) = .long name none :=
  Word.ofString_eq_iff.mpr ⟨proper, rfl⟩

theorem Word.ofString_long_value {name : String} (proper : IsLongName name) (value : String) :
    Word.ofString ("--" ++ name ++ "=" ++ value) = .long name (some value) :=
  Word.ofString_eq_iff.mpr ⟨proper.2, rfl⟩

theorem Vocabulary.Cluster.ofString {Item : Type} {v : Vocabulary Item} {items : List Item}
    {letters : List Char} {apart : List String} (cluster : v.Cluster items letters apart)
    (nonempty : letters ≠ []) :
    Word.ofString (String.ofList ('-' :: letters)) = .short letters := by
  refine Word.ofString_eq_iff.mpr ⟨⟨nonempty, fun dash => ?_⟩, rfl⟩
  cases cluster with
  | done => exact absurd rfl nonempty
  | flag tells _ => exact v.shortFlag_letter tells (Option.some.inj dash)
  | valued tells _ => exact v.shortValue_letter tells (Option.some.inj dash)

/-! ### Reading from a draft -/

namespace Grammar

variable {Draft : Type} {g : Grammar Draft} {draft left : Draft} {words : List String}

/-- Only positional arguments take room. -/
def ValuesKeepRoom (g : Grammar Draft) : Prop :=
  ∀ option ∈ g.options, ∀ apply, option.action = .valued apply →
    ∀ text draft next, apply text draft = .ok next → g.hasRoom next = g.hasRoom draft

theorem exists_option_of_long? {name : String} {action : Action Draft}
    (known : g.long? name = some action) :
    ∃ option ∈ g.options, option.long = some name ∧ option.action = action := by
  obtain ⟨option, found, rfl⟩ := Option.map_eq_some_iff.mp known
  exact ⟨option, List.mem_of_find?_eq_some found, by simpa using List.find?_some found, rfl⟩

theorem exists_option_of_short? {letter : Char} {action : Action Draft}
    (known : g.short? letter = some action) :
    ∃ option ∈ g.options, option.short = some letter ∧ option.action = action := by
  obtain ⟨option, found, rfl⟩ := Option.map_eq_some_iff.mp known
  exact ⟨option, List.mem_of_find?_eq_some found, by simpa using List.find?_some found, rfl⟩

/-- The names of a grammar are those of its options. -/
theorem mem_of_long? {name : String} {action : Action Draft}
    (known : g.long? name = some action) : name ∈ g.options.filterMap (·.long) := by
  obtain ⟨option, inside, named, _⟩ := exists_option_of_long? known
  exact List.mem_filterMap.mpr ⟨option, inside, named⟩

theorem mem_of_short? {letter : Char} {action : Action Draft}
    (known : g.short? letter = some action) : letter ∈ g.options.filterMap (·.short) := by
  obtain ⟨option, inside, lettered, _⟩ := exists_option_of_short? known
  exact List.mem_filterMap.mpr ⟨option, inside, lettered⟩

theorem readPositional_of_settle {reading : Reading Draft}
    (settles : reading.settle = .ok draft) (room : g.hasRoom reading.draft = g.hasRoom draft)
    (text : String) : g.readPositional text reading = g.readPositional text ⟨draft, .nothing⟩ := by
  rw [readPositional, readPositional, settles, room]
  rfl

theorem readPlain_of_settle {reading : Reading Draft}
    (settles : reading.settle = .ok draft) (room : g.hasRoom reading.draft = g.hasRoom draft)
    (text : String) : g.readPlain text reading = g.readPlain text ⟨draft, .nothing⟩ := by
  obtain ⟨before, pending⟩ := reading
  cases pending with
  | nothing => exact readPositional_of_settle settles room text
  | value apply => cases settles
  | effect apply => exact readPositional_of_settle settles room text

theorem readLong_of_settle {reading : Reading Draft} (settles : reading.settle = .ok draft)
    (name : String) (value : Option String) :
    g.readLong name value reading = g.readLong name value ⟨draft, .nothing⟩ := by
  unfold readLong
  rw [settles]
  rfl

theorem readShort_of_settle {reading : Reading Draft} {letters : List Char}
    (settles : reading.settle = .ok draft) (nonempty : letters ≠ []) :
    g.readShort letters reading = g.readShort letters ⟨draft, .nothing⟩ := by
  match letters with
  | [] => exact absurd rfl nonempty
  | letter :: rest => rw [readShort, readShort, settles]; rfl

/-- **It makes no difference when the last option takes effect**, if that leaves as much room as
there was. -/
theorem readFrom_of_settle {reading : Reading Draft} (settles : reading.settle = .ok draft)
    (room : g.hasRoom reading.draft = g.hasRoom draft) (words : List String) :
    g.readFrom words reading = g.read draft words := by
  match words with
  | [] => exact settles
  | argument :: rest =>
    rw [read, readFrom, readFrom]
    have form := (Word.ofString_spec argument).1
    cases formed : Word.ofString argument with
    | separator =>
      cases rest with
      | nil => exact settles
      | cons text rest =>
        rw [readPositionals, readPositionals, readPositional_of_settle settles room]
    | long name value => simp only [readLong_of_settle settles]
    | short letters =>
      rw [formed] at form
      simp only [readShort_of_settle settles form.1]
    | plain text => simp only [readPlain_of_settle settles room]

/-! Nothing is read past an option that cannot take effect. -/

theorem settles_of_bind {Result : Type} {reading : Reading Draft} {result : Result}
    {next : Draft → Except UsageError Result} (run : (reading.settle >>= next) = .ok result) :
    ∃ draft, reading.settle = .ok draft := by
  obtain ⟨draft, settles, _⟩ := bind_eq_ok_iff.mp run
  exact ⟨draft, settles⟩

theorem settles_of_readPositional {reading after : Reading Draft} {text : String}
    (run : g.readPositional text reading = .ok after) : ∃ draft, reading.settle = .ok draft := by
  unfold readPositional at run
  split at run
  · exact settles_of_bind run
  · cases run

theorem settles_of_readLong {reading after : Reading Draft} {name : String} {value : Option String}
    (run : g.readLong name value reading = .ok after) : ∃ draft, reading.settle = .ok draft := by
  unfold readLong at run
  split at run
  · cases run
  · cases run
  all_goals exact settles_of_bind run

theorem settles_of_readShort {reading after : Reading Draft} {letter : Char} {rest : List Char}
    (run : g.readShort (letter :: rest) reading = .ok after) :
    ∃ draft, reading.settle = .ok draft := by
  unfold readShort at run
  split at run
  · cases run
  all_goals exact settles_of_bind run

theorem settles_of_readFrom {reading : Reading Draft} (run : g.readFrom words reading = .ok left)
    (taken : ∀ value rest, words = value :: rest → IsPlain value →
      ∀ apply, reading.pending ≠ .value apply) : ∃ draft, reading.settle = .ok draft := by
  match words with
  | [] => exact ⟨left, run⟩
  | argument :: rest =>
    obtain ⟨readable, written⟩ := Word.ofString_spec argument
    rw [readFrom] at run
    cases formed : Word.ofString argument with
    | separator =>
      rw [formed] at run
      cases rest with
      | nil => exact ⟨left, run⟩
      | cons text rest =>
        obtain ⟨after, first, _⟩ := bind_eq_ok_iff.mp run
        exact settles_of_readPositional first
    | long name value =>
      rw [formed] at run
      obtain ⟨after, first, _⟩ := bind_eq_ok_iff.mp run
      exact settles_of_readLong first
    | short letters =>
      rw [formed] at run readable
      obtain ⟨after, first, _⟩ := bind_eq_ok_iff.mp run
      match letters, readable with
      | letter :: letters, _ => exact settles_of_readShort first
    | plain text =>
      rw [formed] at run readable written
      obtain ⟨after, first, _⟩ := bind_eq_ok_iff.mp run
      unfold readPlain at first
      split at first
      next apply pending =>
        subst written
        exact absurd pending (taken _ _ rfl readable apply)
      · exact settles_of_readPositional first

/-- An option that still needs its value takes the next argument, if that is no option. -/
theorem readFrom_value_eq_ok_iff {apply : String → Draft → Except UsageError Draft}
    (room : ∀ text next, apply text draft = .ok next → g.hasRoom next = g.hasRoom draft) :
    g.readFrom words ⟨draft, .value apply⟩ = .ok left ↔
      ∃ value rest next, words = value :: rest ∧ IsPlain value ∧ apply value draft = .ok next ∧
        g.read next rest = .ok left := by
  have takes : ∀ value rest, IsPlain value → g.readFrom (value :: rest) ⟨draft, .value apply⟩ =
      g.readFrom rest ⟨draft, .effect (apply value)⟩ := by
    intro value rest plain
    rw [readFrom, Word.ofString_plain plain]
    rfl
  constructor
  · intro run
    by_cases plain : ∃ value rest, words = value :: rest ∧ IsPlain value
    · obtain ⟨value, rest, rfl, plain⟩ := plain
      rw [takes value rest plain] at run
      obtain ⟨next, settles⟩ := settles_of_readFrom run (by intros; nofun)
      rw [readFrom_of_settle settles (room value next settles).symm] at run
      exact ⟨value, rest, next, rfl, plain, settles, run⟩
    · obtain ⟨_, impossible⟩ := settles_of_readFrom run
        fun value rest split isPlain => absurd ⟨value, rest, split, isPlain⟩ plain
      cases impossible
  · rintro ⟨value, rest, next, rfl, plain, applies, run⟩
    have settles : Reading.settle ⟨draft, .effect (apply value)⟩ = .ok next := applies
    rw [takes value rest plain, readFrom_of_settle settles (room value next applies).symm, run]

/-! What one option does when there is nothing left to settle. -/

theorem readPositional_eq_ok_iff {text : String} {rest : Reading Draft → Except UsageError Draft} :
    (g.readPositional text ⟨draft, .nothing⟩ >>= rest) = .ok left ↔
      g.hasRoom draft = true ∧ rest ⟨g.place text draft, .nothing⟩ = .ok left := by
  unfold readPositional
  cases g.hasRoom draft with
  | true => exact ⟨fun run => ⟨rfl, run⟩, And.right⟩
  | false => exact ⟨nofun, nofun⟩

theorem readLong_some_eq_ok_iff {name value : String} :
    (g.readLong name (some value) ⟨draft, .nothing⟩ >>= g.readFrom words) = .ok left ↔
      ∃ apply next, g.long? name = some (.valued apply) ∧ apply value draft = .ok next ∧
        g.read next words = .ok left := by
  unfold readLong
  cases g.long? name with
  | none => exact ⟨nofun, nofun⟩
  | some action =>
    cases action with
    | flag apply => exact ⟨nofun, nofun⟩
    | valued apply =>
      show ((apply value draft >>= fun next => .ok ⟨next, .nothing⟩) >>= g.readFrom words) =
        .ok left ↔ _
      rw [bind_assoc, bind_eq_ok_iff]
      constructor
      · rintro ⟨next, applies, run⟩
        exact ⟨apply, next, rfl, applies, run⟩
      · rintro ⟨_, next, ⟨⟩, applies, run⟩
        exact ⟨next, applies, run⟩

theorem readLong_none_eq_ok_iff (room : g.ValuesKeepRoom) {name : String} :
    (g.readLong name none ⟨draft, .nothing⟩ >>= g.readFrom words) = .ok left ↔
      (∃ apply next, g.long? name = some (.flag apply) ∧ apply draft = .ok next ∧
        g.read next words = .ok left) ∨
      ∃ apply value rest next, g.long? name = some (.valued apply) ∧ words = value :: rest ∧
        IsPlain value ∧ apply value draft = .ok next ∧ g.read next rest = .ok left := by
  unfold readLong
  cases known : g.long? name with
  | none => exact ⟨nofun, nofun⟩
  | some action =>
    cases action with
    | flag apply =>
      show ((apply draft >>= fun next => .ok ⟨next, .nothing⟩) >>= g.readFrom words) =
        .ok left ↔ _
      rw [bind_assoc, bind_eq_ok_iff]
      constructor
      · rintro ⟨next, applies, run⟩
        exact Or.inl ⟨apply, next, rfl, applies, run⟩
      · rintro (⟨_, next, ⟨⟩, applies, run⟩ | ⟨_, _, _, _, ⟨⟩, _⟩)
        exact ⟨next, applies, run⟩
    | valued apply =>
      obtain ⟨option, inside, _, acts⟩ := exists_option_of_long? known
      show g.readFrom words ⟨draft, .value apply⟩ = .ok left ↔ _
      rw [readFrom_value_eq_ok_iff fun text => room option inside apply acts text draft]
      constructor
      · rintro ⟨value, rest, next, split, plain, applies, run⟩
        exact Or.inr ⟨apply, value, rest, next, rfl, split, plain, applies, run⟩
      · rintro (⟨_, _, ⟨⟩, _⟩ | ⟨_, value, rest, next, ⟨⟩, split, plain, applies, run⟩)
        exact ⟨value, rest, next, split, plain, applies, run⟩

theorem readShort_attached {letter : Char} {letters : List Char} {value : String}
    {apply : String → Draft → Except UsageError Draft}
    (known : g.short? letter = some (.valued apply)) (placed : ShortValue value letters []) :
    g.readShort (letter :: letters) ⟨draft, .nothing⟩ =
      apply value draft >>= fun next => .ok ⟨next, .nothing⟩ := by
  rw [readShort, known]
  cases placed with
  | equals => rfl
  | attached nonempty noEquals =>
    dsimp only [Reading.settle, bind, Except.bind]
    split
    · exact absurd rfl nonempty
    · exact absurd rfl noEquals
    · rfl

theorem readShort_cons_eq_ok_iff (room : g.ValuesKeepRoom) {letter : Char} {letters : List Char} :
    (g.readShort (letter :: letters) ⟨draft, .nothing⟩ >>= g.readFrom words) = .ok left ↔
      (∃ apply next, g.short? letter = some (.flag apply) ∧ apply draft = .ok next ∧
        (g.readShort letters ⟨next, .nothing⟩ >>= g.readFrom words) = .ok left) ∨
      ∃ apply value apart rest next, g.short? letter = some (.valued apply) ∧
        ShortValue value letters apart ∧ words = apart ++ rest ∧ apply value draft = .ok next ∧
        g.read next rest = .ok left := by
  cases known : g.short? letter with
  | none =>
    rw [readShort, known]
    exact ⟨nofun, nofun⟩
  | some action =>
    cases action with
    | flag apply =>
      rw [readShort, known]
      show ((apply draft >>= fun next => g.readShort letters ⟨next, .nothing⟩) >>=
        g.readFrom words) = .ok left ↔ _
      rw [bind_assoc, bind_eq_ok_iff]
      constructor
      · rintro ⟨next, applies, run⟩
        exact Or.inl ⟨apply, next, rfl, applies, run⟩
      · rintro (⟨_, next, ⟨⟩, applies, run⟩ | ⟨_, _, _, _, _, ⟨⟩, _⟩)
        exact ⟨next, applies, run⟩
    | valued apply =>
      have attached : ∀ value, ShortValue value letters [] →
          ((g.readShort (letter :: letters) ⟨draft, .nothing⟩ >>= g.readFrom words) = .ok left ↔
            ∃ next, apply value draft = .ok next ∧ g.read next words = .ok left) := by
        intro value placed
        rw [readShort_attached known placed, bind_assoc, bind_eq_ok_iff]
        rfl
      obtain ⟨option, inside, _, acts⟩ := exists_option_of_short? known
      have keeps := fun text => room option inside apply acts text draft
      constructor
      · intro run
        by_cases empty : letters = []
        · subst empty
          rw [readShort, known] at run
          obtain ⟨value, rest, next, rfl, plain, applies, run⟩ :=
            (readFrom_value_eq_ok_iff keeps).mp run
          exact Or.inr ⟨apply, value, [value], rest, next, rfl, .apart plain, rfl, applies, run⟩
        · obtain ⟨value, placed⟩ := exists_shortValue empty
          obtain ⟨next, applies, run⟩ := (attached value placed).mp run
          exact Or.inr ⟨apply, value, [], words, next, rfl, placed, rfl, applies, run⟩
      · rintro (⟨_, _, ⟨⟩, _⟩ | ⟨_, value, apart, rest, next, ⟨⟩, placed, rfl, applies, run⟩)
        cases apart with
        | nil => exact (attached value placed).mpr ⟨next, applies, run⟩
        | cons =>
          cases placed with
          | apart plain =>
            rw [readShort, known]
            exact (readFrom_value_eq_ok_iff keeps).mpr ⟨value, rest, next, rfl, plain, applies, run⟩

/-! ### Grammars that follow a vocabulary -/

/-- Reading by the grammar is hearing the items of the vocabulary. `Heard items draft` says that
the draft holds exactly what the items tell. -/
structure Follows {Item : Type} (g : Grammar Draft) (v : Vocabulary Item)
    (Heard : List Item → Draft → Prop) : Prop where
  room : g.ValuesKeepRoom
  unique {items draft next} : Heard items draft → Heard items next → draft = next
  /-- What items tell can be heard up to any one of them. -/
  front {behind items draft} : Heard (behind ++ items) draft → ∃ before, Heard behind before
  positional {behind draft text next} : Heard behind draft →
    (g.hasRoom draft = true ∧ g.place text draft = next ↔
      Heard (behind ++ [v.positional text]) next)
  longFlag {behind draft name next} : Heard behind draft →
    ((∃ apply, g.long? name = some (.flag apply) ∧ apply draft = .ok next) ↔
      ∃ item, v.longFlag name item ∧ Heard (behind ++ [item]) next)
  longValue {behind draft name value next} : Heard behind draft →
    ((∃ apply, g.long? name = some (.valued apply) ∧ apply value draft = .ok next) ↔
      ∃ item, v.longValue name value item ∧ Heard (behind ++ [item]) next)
  shortFlag {behind draft letter next} : Heard behind draft →
    ((∃ apply, g.short? letter = some (.flag apply) ∧ apply draft = .ok next) ↔
      ∃ item, v.shortFlag letter item ∧ Heard (behind ++ [item]) next)
  shortValue {behind draft letter value next} : Heard behind draft →
    ((∃ apply, g.short? letter = some (.valued apply) ∧ apply value draft = .ok next) ↔
      ∃ item, v.shortValue letter value item ∧ Heard (behind ++ [item]) next)

namespace Follows

variable {Item : Type} {v : Vocabulary Item} {Heard : List Item → Draft → Prop}
  {behind : List Item}

/-- The items that follow can be heard one by one. -/
theorem next (follows : g.Follows v Heard) {item : Item} {items : List Item}
    (heard : Heard (behind ++ item :: items) left) :
    ∃ next, Heard (behind ++ [item]) next ∧ Heard (behind ++ [item] ++ items) left := by
  rw [List.append_cons] at heard
  exact (follows.front heard).imp fun _ here => ⟨here, heard⟩

theorem readPositionals_eq_ok_iff (follows : g.Follows v Heard) (heard : Heard behind draft)
    {texts : List String} :
    g.readPositionals texts ⟨draft, .nothing⟩ = .ok left ↔
      Heard (behind ++ texts.map v.positional) left := by
  induction texts generalizing behind draft with
  | nil =>
    rw [List.map_nil, List.append_nil]
    refine ⟨fun run => ?_, fun told => congrArg Except.ok (follows.unique heard told)⟩
    cases run
    exact heard
  | cons text texts ih =>
    rw [readPositionals, readPositional_eq_ok_iff, List.map_cons]
    constructor
    · rintro ⟨room, run⟩
      have here : Heard (behind ++ [v.positional text]) (g.place text draft) :=
        (follows.positional heard).mp ⟨room, rfl⟩
      rw [List.append_cons]
      exact (ih here).mp run
    · intro told
      obtain ⟨next, here, later⟩ := follows.next told
      obtain ⟨room, rfl⟩ := (follows.positional heard).mpr here
      exact ⟨room, (ih here).mpr later⟩

/-- Letters that are read are heard as a cluster. -/
theorem cluster_of_readShort (follows : g.Follows v Heard) (heard : Heard behind draft)
    {letters : List Char}
    (run : (g.readShort letters ⟨draft, .nothing⟩ >>= g.readFrom words) = .ok left) :
    ∃ items apart rest next, v.Cluster items letters apart ∧ words = apart ++ rest ∧
      Heard (behind ++ items) next ∧ g.read next rest = .ok left := by
  induction letters generalizing behind draft with
  | nil => exact ⟨[], [], words, draft, .done, rfl, by rwa [List.append_nil], run⟩
  | cons letter letters ih =>
    rcases (readShort_cons_eq_ok_iff follows.room).mp run with
      ⟨apply, next, known, applies, run⟩ |
        ⟨apply, value, apart, rest, next, known, placed, split, applies, run⟩
    · obtain ⟨item, tells, here⟩ := (follows.shortFlag heard).mp ⟨apply, known, applies⟩
      obtain ⟨items, apart, rest, after, cluster, split, told, run⟩ := ih here run
      rw [List.append_assoc] at told
      exact ⟨item :: items, apart, rest, after, .flag tells cluster, split, told, run⟩
    · obtain ⟨item, tells, here⟩ := (follows.shortValue heard).mp ⟨apply, known, applies⟩
      exact ⟨[item], apart, rest, next, .valued tells placed, split, here, run⟩

/-- A cluster is read letter by letter. -/
theorem readShort_of_cluster (follows : g.Follows v Heard) (heard : Heard behind draft)
    {items : List Item} {letters : List Char} {apart : List String} {next : Draft}
    (cluster : v.Cluster items letters apart) (told : Heard (behind ++ items) next)
    (run : g.read next words = .ok left) :
    (g.readShort letters ⟨draft, .nothing⟩ >>= g.readFrom (apart ++ words)) = .ok left := by
  induction cluster generalizing behind draft with
  | done =>
    rw [List.append_nil] at told
    rw [follows.unique heard told]
    exact run
  | flag tells _ ih =>
    obtain ⟨after, here, later⟩ := follows.next told
    obtain ⟨apply, known, applies⟩ := (follows.shortFlag heard).mpr ⟨_, tells, here⟩
    exact (readShort_cons_eq_ok_iff follows.room).mpr
      (Or.inl ⟨apply, after, known, applies, ih here later⟩)
  | @valued item letter value letters apart tells placed =>
    obtain ⟨apply, known, applies⟩ := (follows.shortValue heard).mpr ⟨_, tells, told⟩
    exact (readShort_cons_eq_ok_iff follows.room).mpr
      (Or.inr ⟨apply, value, apart, words, next, known, placed, rfl, applies, run⟩)

/-- Words that spell items are read as these. -/
theorem read_of_spells (follows : g.Follows v Heard) (heard : Heard behind draft)
    {items : List Item} (spells : v.Spells items words) (told : Heard (behind ++ items) left) :
    g.read draft words = .ok left := by
  induction spells generalizing behind draft with
  | done =>
    rw [List.append_nil] at told
    exact congrArg Except.ok (follows.unique heard told)
  | behind texts => exact (follows.readPositionals_eq_ok_iff heard).mpr told
  | positional plain _ ih =>
    obtain ⟨next, here, later⟩ := follows.next told
    obtain ⟨room, rfl⟩ := (follows.positional heard).mpr here
    rw [read, readFrom, Word.ofString_plain plain]
    exact readPositional_eq_ok_iff.mpr ⟨room, ih here later⟩
  | flag tells _ ih =>
    obtain ⟨next, here, later⟩ := follows.next told
    obtain ⟨apply, known, applies⟩ := (follows.longFlag heard).mpr ⟨_, tells, here⟩
    rw [read, readFrom, Word.ofString_long (v.longFlag_name tells)]
    exact (readLong_none_eq_ok_iff follows.room).mpr
      (Or.inl ⟨apply, next, known, applies, ih here later⟩)
  | apart tells plain _ ih =>
    obtain ⟨next, here, later⟩ := follows.next told
    obtain ⟨apply, known, applies⟩ := (follows.longValue heard).mpr ⟨_, tells, here⟩
    rw [read, readFrom, Word.ofString_long (v.longValue_name tells)]
    exact (readLong_none_eq_ok_iff follows.room).mpr
      (Or.inr ⟨apply, _, _, next, known, rfl, plain, applies, ih here later⟩)
  | attached tells _ ih =>
    obtain ⟨next, here, later⟩ := follows.next told
    obtain ⟨apply, known, applies⟩ := (follows.longValue heard).mpr ⟨_, tells, here⟩
    rw [read, readFrom, Word.ofString_long_value (v.longValue_name tells)]
    exact readLong_some_eq_ok_iff.mpr ⟨apply, next, known, applies, ih here later⟩
  | short nonempty cluster _ ih =>
    rw [← List.append_assoc] at told
    obtain ⟨next, here⟩ := follows.front told
    rw [read, readFrom, cluster.ofString nonempty]
    exact follows.readShort_of_cluster heard cluster here (ih here told)

/-- Words that are read spell what has been heard from them. -/
theorem spells_of_read (follows : g.Follows v Heard) (heard : Heard behind draft)
    (run : g.read draft words = .ok left) :
    ∃ items, v.Spells items words ∧ Heard (behind ++ items) left := by
  -- the induction is on the number of words, as an option may take two of them
  induction length : words.length using Nat.strong_induction_on generalizing behind draft words with
  | h n ih =>
  have continues : ∀ {first next rest}, rest.length < words.length → Heard (behind ++ first) next →
      g.read next rest = .ok left →
      ∃ items, v.Spells items rest ∧ Heard (behind ++ (first ++ items)) left := by
    intro first next rest shorter here run
    obtain ⟨items, spells, told⟩ := ih rest.length (length ▸ shorter) here run rfl
    exact ⟨items, spells, by rwa [List.append_assoc] at told⟩
  match words with
  | [] =>
    cases run
    exact ⟨[], .done, by rwa [List.append_nil]⟩
  | argument :: rest =>
    obtain ⟨readable, written⟩ := Word.ofString_spec argument
    rw [read, readFrom] at run
    cases formed : Word.ofString argument with
    | separator =>
      rw [formed] at run written
      subst written
      exact ⟨_, .behind rest, (follows.readPositionals_eq_ok_iff heard).mp run⟩
    | plain text =>
      rw [formed] at run readable written
      subst written
      obtain ⟨room, run⟩ := readPositional_eq_ok_iff.mp run
      have here : Heard (behind ++ [v.positional text]) (g.place text draft) :=
        (follows.positional heard).mp ⟨room, rfl⟩
      obtain ⟨items, spells, told⟩ := continues (by simp) here run
      exact ⟨_, .positional readable spells, told⟩
    | long name value =>
      rw [formed] at run written
      subst written
      cases value with
      | some value =>
        obtain ⟨apply, next, known, applies, run⟩ := readLong_some_eq_ok_iff.mp run
        obtain ⟨item, tells, here⟩ := (follows.longValue heard).mp ⟨apply, known, applies⟩
        obtain ⟨items, spells, told⟩ := continues (by simp) here run
        exact ⟨_, .attached tells spells, told⟩
      | none =>
        rcases (readLong_none_eq_ok_iff follows.room).mp run with
          ⟨apply, next, known, applies, run⟩ |
            ⟨apply, value, rest, next, known, rfl, plain, applies, run⟩
        · obtain ⟨item, tells, here⟩ := (follows.longFlag heard).mp ⟨apply, known, applies⟩
          obtain ⟨items, spells, told⟩ := continues (by simp) here run
          exact ⟨_, .flag tells spells, told⟩
        · obtain ⟨item, tells, here⟩ := (follows.longValue heard).mp ⟨apply, known, applies⟩
          have shorter : rest.length < ((Word.long name none).text :: value :: rest).length := by
            simp only [List.length_cons]
            omega
          obtain ⟨items, spells, told⟩ := continues shorter here run
          exact ⟨_, .apart tells plain spells, told⟩
    | short letters =>
      rw [formed] at run readable written
      subst written
      obtain ⟨first, apart, rest, next, cluster, rfl, here, run⟩ :=
        follows.cluster_of_readShort heard run
      have shorter : rest.length < ((Word.short letters).text :: (apart ++ rest)).length := by
        simp only [List.length_cons, List.length_append]
        omega
      obtain ⟨items, spells, told⟩ := continues shorter here run
      exact ⟨_, .short readable.1 cluster spells, told⟩

/-- **Reading undoes spelling.** The words are read exactly if they spell some items, and the draft
is the one in which these have been heard. -/
theorem read_eq_ok_iff (follows : g.Follows v Heard) (heard : Heard [] draft) :
    g.read draft words = .ok left ↔ ∃ items, v.Spells items words ∧ Heard items left :=
  ⟨follows.spells_of_read heard, fun ⟨_, spells, told⟩ => follows.read_of_spells heard spells told⟩

/-- What is made of the draft is made of the items that were heard. -/
theorem read_bind_eq_ok_iff {Result : Type} (follows : g.Follows v Heard) (heard : Heard [] draft)
    {finish : Draft → Except UsageError Result} {result : Result} :
    (g.read draft words >>= finish) = .ok result ↔
      ∃ items, v.Spells items words ∧ ∃ left, Heard items left ∧ finish left = .ok result := by
  rw [bind_eq_ok_iff]
  constructor
  · rintro ⟨left, run, finishes⟩
    obtain ⟨items, spells, told⟩ := (follows.read_eq_ok_iff heard).mp run
    exact ⟨items, spells, left, told, finishes⟩
  · rintro ⟨items, spells, left, told, finishes⟩
    exact ⟨left, (follows.read_eq_ok_iff heard).mpr ⟨items, spells, told⟩, finishes⟩

end Follows

end Grammar

end JavaTypes.CommandLine
