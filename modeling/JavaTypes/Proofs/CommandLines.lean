/-
**The command lines of a request.**

The items that a command can be told are listed here with the names of its options, and a request is
told by the items that give it its fields: those that may be given once at most once, and left out
only where the field has its default. So a request has many command lines. Its items may be
interleaved in any way, and each item has several spellings.

Each command reads exactly the command lines of a request as this request, and no others.

* `Numeral`, `readDimensions_eq_ok_iff`: the texts of a number of dimensions.
* `InspectRequest.SpelledBy`, `ImportsRequest.SpelledBy`: the command lines of a request.
* `inspectGrammar_follows`, `importsGrammar_follows`: the options of a command do what their items
  say.
* `InspectRequest.exists_spelledBy_iff`, `ImportsRequest.exists_spelledBy_iff`: the requests that
  have a command line.
* `Request.parse_eq_ok_iff_spelledBy`: reading a command line gives back the request.
-/

import JavaTypes.CommandLine.Request
import JavaTypes.Proofs.Arguments
import Mathlib.Data.List.Induction

namespace JavaTypes.CommandLine

/-! ### Numbers of dimensions -/

/-- The decimal digits of the number, behind any number of zeros. -/
def IsDecimal (n : Nat) (digits : List Char) : Prop :=
  ∃ zeros, digits = List.replicate zeros '0' ++ Nat.toDigits 10 n

/-- The number is written in decimal digits, perhaps behind a sign. -/
inductive Numeral : Nat → String → Prop
  | unsigned {n digits} : IsDecimal n digits → Numeral n (String.ofList digits)
  | plus {n digits} : IsDecimal n digits → Numeral n (String.ofList ('+' :: digits))
  | minus {digits} : IsDecimal 0 digits → Numeral 0 (String.ofList ('-' :: digits))

/-- A digit is the one decimal digit of its value. -/
theorem toDigits_of_isDigit {c : Char} (digit : c.isDigit = true) :
    c.toNat - '0'.toNat < 10 ∧ Nat.toDigits 10 (c.toNat - '0'.toNat) = [c] := by
  obtain ⟨low, high⟩ := Char.isDigit_iff_toNat.mp digit
  have zero : '0'.toNat = 48 := rfl
  have nine : '9'.toNat = 57 := rfl
  have small : c.toNat - '0'.toNat < 10 := by omega
  refine ⟨small, ?_⟩
  rw [Nat.toDigits_of_lt_base small, List.singleton_inj, ← Char.toNat_inj,
    Nat.toNat_digitChar_of_lt_ten small]
  omega

theorem isDecimal_of_digits {digits : List Char} (nonempty : digits ≠ [])
    (each : ∀ c ∈ digits, c.isDigit = true) : IsDecimal (Nat.ofDigitChars 10 digits 0) digits := by
  induction digits using List.reverseRecOn with
  | nil => exact absurd rfl nonempty
  | append_singleton front c ih =>
    obtain ⟨small, last⟩ := toDigits_of_isDigit (each c (by simp))
    rw [Nat.ofDigitChars_append, Nat.ofDigitChars_cons, Nat.ofDigitChars_nil]
    by_cases empty : front = []
    · subst empty
      rw [Nat.ofDigitChars_nil, Nat.mul_zero, Nat.zero_add]
      exact ⟨0, last.symm⟩
    · obtain ⟨zeros, written⟩ := ih empty fun d member => each d (by simp [member])
      rcases Nat.eq_zero_or_pos (Nat.ofDigitChars 10 front 0) with zero | positive
      · rw [zero] at written ⊢
        refine ⟨zeros + 1, ?_⟩
        rw [Nat.mul_zero, Nat.zero_add, last, written, List.replicate_succ']
        rfl
      · refine ⟨zeros, ?_⟩
        rw [← Nat.toDigits_append_toDigits (by decide) positive small, last, ← List.append_assoc,
          ← written]

theorem IsDecimal.isDigit {n : Nat} {digits : List Char} (decimal : IsDecimal n digits) :
    ∀ c ∈ digits, c.isDigit = true := by
  obtain ⟨zeros, rfl⟩ := decimal
  intro c member
  rcases List.mem_append.mp member with zero | later
  · rw [List.eq_of_mem_replicate zero]
    rfl
  · exact Nat.isDigit_of_mem_toDigits (by decide) (by decide) later

theorem IsDecimal.nonempty {n : Nat} {digits : List Char} (decimal : IsDecimal n digits) :
    digits ≠ [] := by
  obtain ⟨zeros, rfl⟩ := decimal
  exact List.append_ne_nil_of_right_ne_nil _ Nat.toDigits_ne_nil

theorem natural?_eq_some_iff {n : Nat} {digits : List Char} :
    natural? digits = some n ↔ IsDecimal n digits := by
  have eq : digits ≠ [] → (∀ c ∈ digits, c.isDigit = true) →
      natural? digits = some (Nat.ofDigitChars 10 digits 0) := by
    intro nonempty each
    rw [natural?, if_neg (by simpa [nonempty] using each)]
    rfl
  constructor
  · intro run
    by_cases fit : digits ≠ [] ∧ ∀ c ∈ digits, c.isDigit = true
    · rw [eq fit.1 fit.2] at run
      cases run
      exact isDecimal_of_digits fit.1 fit.2
    · rw [natural?, if_pos (by simpa [Classical.or_iff_not_imp_left] using fit)] at run
      cases run
  · intro decimal
    rw [eq decimal.nonempty decimal.isDigit]
    obtain ⟨zeros, rfl⟩ := decimal
    rw [Nat.ofDigitChars_append, Nat.ofDigitChars_replicate_zero, Nat.mul_zero,
      Nat.ofDigitChars_ten_toDigits]

/-- Digits behind a sign are read as what the sign makes of their value. -/
theorem signed_eq_some_iff {sign : Int → Int} {digits : List Char} {value : Int} :
    ((natural? digits >>= fun n => pure (n : Int)).map sign) = some value ↔
      ∃ n : Nat, IsDecimal n digits ∧ sign n = value := by
  simp only [← natural?_eq_some_iff]
  cases natural? digits with
  | none => simp
  | some n => simp

theorem integer?_eq_some_iff {n : Nat} {text : String} :
    integer? text = some (n : Int) ↔ Numeral n text := by
  have whole : String.ofList text.toList = text := String.ofList_toList
  constructor
  · intro run
    unfold integer? at run
    split at run
    next digits spelled =>
      obtain ⟨value, decimal, same⟩ := signed_eq_some_iff.mp run
      obtain ⟨rfl, rfl⟩ : value = 0 ∧ n = 0 := by omega
      rw [← whole, spelled]
      exact .minus decimal
    next digits spelled =>
      obtain ⟨value, decimal, same⟩ := signed_eq_some_iff.mp run
      obtain rfl : value = n := Int.ofNat_inj.mp same
      rw [← whole, spelled]
      exact .plus decimal
    next =>
      obtain ⟨value, decimal, same⟩ := signed_eq_some_iff.mp run
      obtain rfl : value = n := Int.ofNat_inj.mp same
      rw [← whole]
      exact .unsigned decimal
  · intro numeral
    unfold integer?
    cases numeral with
    | unsigned decimal =>
      rw [String.toList_ofList]
      split
      -- a sign is no digit
      · exact absurd (decimal.isDigit _ List.mem_cons_self) (by decide)
      · exact absurd (decimal.isDigit _ List.mem_cons_self) (by decide)
      · exact signed_eq_some_iff.mpr ⟨n, decimal, rfl⟩
    | plus decimal =>
      rw [String.toList_ofList]
      exact signed_eq_some_iff.mpr ⟨n, decimal, rfl⟩
    | minus decimal =>
      rw [String.toList_ofList]
      exact signed_eq_some_iff.mpr ⟨0, decimal, rfl⟩

theorem readDimensions_eq_ok_iff {n : Nat} {text : String} :
    readDimensions text = .ok n ↔ n ≤ countLimit ∧ Numeral n text := by
  rw [← integer?_eq_some_iff]
  unfold readDimensions
  split
  next value reads =>
    rw [reads]
    split
    next small =>
      constructor
      · rintro ⟨⟩
        exact ⟨small, rfl⟩
      · rintro ⟨_, ⟨⟩⟩
        rfl
    next large =>
      refine ⟨nofun, ?_⟩
      rintro ⟨small, ⟨⟩⟩
      exact absurd small large
  next other => exact ⟨nofun, fun ⟨_, reads⟩ => absurd reads (other n)⟩

/-! ### Choices of color -/

/-- The word that stands for the choice. -/
def ColorChoice.word : ColorChoice → String
  | auto => "auto"
  | always => "always"
  | never => "never"

theorem ColorChoice.read_eq_ok_iff {text : String} {choice : ColorChoice} :
    ColorChoice.read text = .ok choice ↔ text = choice.word := by
  constructor
  · intro run
    unfold ColorChoice.read at run
    split at run <;> cases run <;> rfl
  · rintro rfl
    cases choice <;> rfl

/-! ### Fields that are given once -/

section Once

variable {α Draft : Type}

/-- The values given for a field amount to this one; if there is none, it is the default. -/
def AmountsTo (given : List α) (default value : α) : Prop :=
  given = [value] ∨ given = [] ∧ value = default

theorem filterMap_append_singleton {β : Type} {f : α → Option β} {as : List α} {a : α} :
    (as ++ [a]).filterMap f = as.filterMap f ++ (f a).toList := by
  rw [List.filterMap_append]
  cases told : f a <;> simp [told]

theorem toList_inj {a b : Option α} : a.toList = b.toList ↔ a = b := by
  cases a <;> cases b <;> simp

theorem toList_append_singleton {field filled : Option α} {a : α} :
    field.toList ++ [a] = filled.toList ↔ field = none ∧ some a = filled := by
  cases field <;> cases filled <;> simp

theorem toNat_inj {a b : Bool} : a.toNat = b.toNat ↔ a = b := by
  cases a <;> cases b <;> decide

/-- Values that are at most one in all are at most one in front. -/
theorem exists_toList_of_append {front back : List α} {o : Option α}
    (split : front ++ back = o.toList) : ∃ o' : Option α, front = o'.toList := by
  cases o with
  | none => exact ⟨none, (List.append_eq_nil_iff.mp split).1⟩
  | some a =>
    rcases List.append_eq_singleton_iff.mp split with ⟨front, _⟩ | ⟨front, _⟩
    · exact ⟨none, front⟩
    · exact ⟨some a, front⟩

theorem exists_toNat_of_add {m n : Nat} {b : Bool} (sum : m + n = b.toNat) :
    ∃ b' : Bool, m = b'.toNat := by
  have small : b.toNat ≤ 1 := b.toNat_le
  obtain rfl | rfl : m = 0 ∨ m = 1 := by omega
  · exact ⟨false, rfl⟩
  · exact ⟨true, rfl⟩

theorem toNat_add_one {raised left : Bool} :
    raised.toNat + 1 = left.toNat ↔ raised = false ∧ true = left := by
  cases raised <;> cases left <;> decide

theorem moreVerbose_min (steps : Nat) :
    moreVerbose (min steps countLimit) = min (steps + 1) countLimit := by
  unfold moreVerbose
  omega

/-- A field amounts to its value, or to the default if nothing was given for it. -/
theorem amountsTo_iff {given : List α} {default value : α} :
    AmountsTo given default value ↔
      ∃ field : Option α, given = field.toList ∧ field.getD default = value := by
  constructor
  · rintro (rfl | ⟨rfl, rfl⟩)
    · exact ⟨some value, rfl, rfl⟩
    · exact ⟨none, rfl, rfl⟩
  · rintro ⟨field, rfl, rfl⟩
    cases field with
    | none => exact Or.inr ⟨rfl, rfl⟩
    | some value => exact Or.inl rfl

theorem fillOnce_eq_ok_iff {field : Option α} {value : Except UsageError α} {set : Option α → Draft}
    {next : Draft} :
    (fillOnce field value >>= fun filled => pure (set filled)) = .ok next ↔
      ∃ a, value = .ok a ∧ field = none ∧ set (some a) = next := by
  cases field with
  | some old => exact ⟨nofun, nofun⟩
  | none =>
    cases value with
    | error fault => exact ⟨nofun, nofun⟩
    | ok a =>
      constructor
      · rintro ⟨⟩
        exact ⟨a, rfl, rfl, rfl⟩
      · rintro ⟨_, ⟨⟩, _, rfl⟩
        rfl

theorem raiseOnce_eq_ok_iff {raised : Bool} {set : Bool → Draft} {next : Draft} :
    (raiseOnce raised >>= fun flag => pure (set flag)) = .ok next ↔
      raised = false ∧ set true = next := by
  cases raised with
  | true => exact ⟨nofun, nofun⟩
  | false =>
    constructor
    · rintro ⟨⟩
      exact ⟨rfl, rfl⟩
    · rintro ⟨_, rfl⟩
      rfl

end Once

/-! ### The command `inspect` -/

/-- What `inspect` can be told. -/
inductive InspectItem where
  | name (text : String)
  | argument (text : String)
  | dimensions (n : Nat)
  | json
  | color (choice : ColorChoice)
  | verbose
  deriving DecidableEq

namespace InspectItem

/-! What an item gives for a field of the request. -/

@[simp] def name? : InspectItem → Option String
  | name text => some text
  | _ => none

@[simp] def argument? : InspectItem → Option String
  | argument text => some text
  | _ => none

@[simp] def dimensions? : InspectItem → Option Nat
  | dimensions n => some n
  | _ => none

@[simp] def color? : InspectItem → Option ColorChoice
  | color choice => some choice
  | _ => none

/-! The options by their names. -/

inductive LongFlag : String → InspectItem → Prop
  | json : LongFlag "json" json

inductive LongValue : String → String → InspectItem → Prop
  | argument (text : String) : LongValue "arg" text (argument text)
  | dimensions {n text} : n ≤ countLimit → Numeral n text → LongValue "dims" text (dimensions n)
  | color (choice : ColorChoice) : LongValue "color" choice.word (color choice)

inductive ShortFlag : Char → InspectItem → Prop
  | verbose : ShortFlag 'v' verbose

end InspectItem

/-- The names of `inspect`; none of its short options takes a value. -/
def inspectVocabulary : Vocabulary InspectItem where
  positional := .name
  longFlag := InspectItem.LongFlag
  longValue := InspectItem.LongValue
  shortFlag := InspectItem.ShortFlag
  shortValue _ _ _ := False
  longFlag_name := by rintro _ _ ⟨⟩; decide
  longValue_name := by rintro _ _ _ ⟨⟩ <;> decide
  shortFlag_letter := by rintro _ _ ⟨⟩; decide
  shortValue_letter := False.elim

/-- The items tell this request. -/
structure InspectRequest.ToldBy (request : InspectRequest) (items : List InspectItem) : Prop where
  name : items.filterMap InspectItem.name? = [request.type.name]
  arguments : items.filterMap InspectItem.argument? = request.type.arguments
  dimensions : AmountsTo (items.filterMap InspectItem.dimensions?) 0 request.type.dimensions
  json : items.count .json = request.json.toNat
  color : AmountsTo (items.filterMap InspectItem.color?) .auto request.color
  verbosity : min (items.count .verbose) countLimit = request.verbosity

/-- The words after `inspect` spell the request. -/
def InspectRequest.SpelledBy (request : InspectRequest) (words : List String) : Prop :=
  ∃ items, inspectVocabulary.Spells items words ∧ request.ToldBy items

/-- The draft holds exactly what the items tell. -/
structure InspectDraft.Heard (items : List InspectItem) (draft : InspectDraft) : Prop where
  name : items.filterMap InspectItem.name? = draft.name.toList
  arguments : items.filterMap InspectItem.argument? = draft.arguments
  dimensions : items.filterMap InspectItem.dimensions? = draft.dimensions.toList
  json : items.count .json = draft.json.toNat
  color : items.filterMap InspectItem.color? = draft.color.toList
  verbosity : min (items.count .verbose) countLimit = draft.verbosity

namespace InspectDraft

variable {items behind : List InspectItem} {draft next : InspectDraft}

theorem Heard.unique (heard : Heard items draft) (heard' : Heard items next) : draft = next := by
  obtain ⟨name, arguments, dimensions, json, color, verbosity⟩ := heard
  obtain ⟨name', arguments', dimensions', json', color', verbosity'⟩ := heard'
  obtain ⟨⟩ := draft
  obtain ⟨⟩ := next
  simp only [mk.injEq, ← toList_inj, ← toNat_inj]
  exact ⟨name.symm.trans name', arguments.symm.trans arguments', dimensions.symm.trans dimensions',
    json.symm.trans json', color.symm.trans color', verbosity.symm.trans verbosity'⟩

/-- There is still a place for the item. -/
def Accepts (draft : InspectDraft) : InspectItem → Prop
  | .name _ => draft.name = none
  | .dimensions _ => draft.dimensions = none
  | .json => draft.json = false
  | .color _ => draft.color = none
  | .argument _ | .verbose => True

/-- The draft in which the item has been put in its place. -/
def tell (draft : InspectDraft) : InspectItem → InspectDraft
  | .name text => { draft with name := some text }
  | .argument text => { draft with arguments := draft.arguments ++ [text] }
  | .dimensions n => { draft with dimensions := some n }
  | .json => { draft with json := true }
  | .color choice => { draft with color := some choice }
  | .verbose => { draft with verbosity := moreVerbose draft.verbosity }

/-- **Hearing one more item puts it in its place.** -/
theorem Heard.append_iff (heard : Heard behind draft) {item : InspectItem} :
    Heard (behind ++ [item]) next ↔ draft.Accepts item ∧ draft.tell item = next := by
  obtain ⟨name, arguments, dimensions, json, color, verbosity⟩ := heard
  have parts : Heard (behind ++ [item]) next ↔
      draft.name.toList ++ item.name?.toList = next.name.toList ∧
      draft.arguments ++ item.argument?.toList = next.arguments ∧
      draft.dimensions.toList ++ item.dimensions?.toList = next.dimensions.toList ∧
      draft.json.toNat + [item].count .json = next.json.toNat ∧
      draft.color.toList ++ item.color?.toList = next.color.toList ∧
      min (behind.count .verbose + [item].count .verbose) countLimit = next.verbosity := by
    simp only [← name, ← arguments, ← dimensions, ← json, ← color, ← filterMap_append_singleton,
      ← List.count_append]
    exact ⟨fun ⟨a, b, c, d, e, f⟩ => ⟨a, b, c, d, e, f⟩,
      fun ⟨a, b, c, d, e, f⟩ => ⟨a, b, c, d, e, f⟩⟩
  rw [parts]
  obtain ⟨⟩ := draft
  obtain ⟨⟩ := next
  subst verbosity
  cases item <;>
    simp [Accepts, tell, toList_append_singleton, toList_inj, toNat_add_one, toNat_inj,
      moreVerbose_min, and_assoc, and_left_comm]

/-- What items tell can be heard up to any one of them. -/
theorem Heard.front (heard : Heard (behind ++ items) draft) : ∃ before, Heard behind before := by
  obtain ⟨name, _, dimensions, json, color, _⟩ := heard
  rw [List.filterMap_append] at name dimensions color
  rw [List.count_append] at json
  obtain ⟨name', name⟩ := exists_toList_of_append name
  obtain ⟨dimensions', dimensions⟩ := exists_toList_of_append dimensions
  obtain ⟨json', json⟩ := exists_toNat_of_add json
  obtain ⟨color', color⟩ := exists_toList_of_append color
  exact ⟨⟨name', _, dimensions', json', color', _⟩, name, rfl, dimensions, json, color, rfl⟩

end InspectDraft

theorem inspectGrammar_long {name : String} {action : Action InspectDraft}
    (known : inspectGrammar.long? name = some action) :
    name = "arg" ∨ name = "dims" ∨ name = "json" ∨ name = "color" ∨ name = "help" := by
  simpa [inspectGrammar, helpOption] using Grammar.mem_of_long? known

theorem inspectGrammar_short {letter : Char} {action : Action InspectDraft}
    (known : inspectGrammar.short? letter = some action) : letter = 'v' ∨ letter = 'h' := by
  simpa [inspectGrammar, helpOption] using Grammar.mem_of_short? known

theorem inspectGrammar_follows :
    inspectGrammar.Follows inspectVocabulary InspectDraft.Heard where
  room := by
    intro option inside apply acts text draft next applies
    simp only [inspectGrammar, List.mem_cons, List.not_mem_nil, or_false] at inside
    rcases inside with rfl | rfl | rfl | rfl | rfl | rfl <;> cases acts
    · cases applies
      rfl
    · obtain ⟨_, _, _, rfl⟩ := fillOnce_eq_ok_iff.mp applies
      rfl
    · obtain ⟨_, _, _, rfl⟩ := fillOnce_eq_ok_iff.mp applies
      rfl
  unique := InspectDraft.Heard.unique
  front := InspectDraft.Heard.front
  positional := by
    intro behind draft text next heard
    rw [show inspectVocabulary.positional text = .name text from rfl, heard.append_iff]
    exact and_congr_left' Option.isNone_iff_eq_none
  longFlag := by
    intro behind draft name next heard
    constructor
    · rintro ⟨apply, known, applies⟩
      rcases inspectGrammar_long known with rfl | rfl | rfl | rfl | rfl
      all_goals cases known
      · obtain ⟨vacant, rfl⟩ := raiseOnce_eq_ok_iff.mp applies
        exact ⟨_, .json, heard.append_iff.mpr ⟨vacant, rfl⟩⟩
      · cases applies
    · rintro ⟨_, ⟨⟩, told⟩
      obtain ⟨vacant, rfl⟩ := heard.append_iff.mp told
      exact ⟨_, rfl, raiseOnce_eq_ok_iff.mpr ⟨vacant, rfl⟩⟩
  longValue := by
    intro behind draft name value next heard
    constructor
    · rintro ⟨apply, known, applies⟩
      rcases inspectGrammar_long known with rfl | rfl | rfl | rfl | rfl
      all_goals cases known
      · cases applies
        exact ⟨_, .argument value, heard.append_iff.mpr ⟨trivial, rfl⟩⟩
      · obtain ⟨n, reads, vacant, rfl⟩ := fillOnce_eq_ok_iff.mp applies
        obtain ⟨small, numeral⟩ := readDimensions_eq_ok_iff.mp reads
        exact ⟨_, .dimensions small numeral, heard.append_iff.mpr ⟨vacant, rfl⟩⟩
      · obtain ⟨choice, reads, vacant, rfl⟩ := fillOnce_eq_ok_iff.mp applies
        obtain rfl := ColorChoice.read_eq_ok_iff.mp reads
        exact ⟨_, .color choice, heard.append_iff.mpr ⟨vacant, rfl⟩⟩
    · rintro ⟨_, tells, told⟩
      obtain ⟨vacant, rfl⟩ := heard.append_iff.mp told
      cases tells with
      | argument => exact ⟨_, rfl, rfl⟩
      | dimensions small numeral =>
        exact ⟨_, rfl, fillOnce_eq_ok_iff.mpr
          ⟨_, readDimensions_eq_ok_iff.mpr ⟨small, numeral⟩, vacant, rfl⟩⟩
      | color choice =>
        exact ⟨_, rfl, fillOnce_eq_ok_iff.mpr
          ⟨_, ColorChoice.read_eq_ok_iff.mpr rfl, vacant, rfl⟩⟩
  shortFlag := by
    intro behind draft letter next heard
    constructor
    · rintro ⟨apply, known, applies⟩
      rcases inspectGrammar_short known with rfl | rfl
      all_goals cases known
      · cases applies
        exact ⟨_, .verbose, heard.append_iff.mpr ⟨trivial, rfl⟩⟩
      · cases applies
    · rintro ⟨_, ⟨⟩, told⟩
      obtain ⟨_, rfl⟩ := heard.append_iff.mp told
      exact ⟨_, rfl, rfl⟩
  shortValue := by
    intro behind draft letter value next heard
    refine ⟨?_, fun ⟨_, impossible, _⟩ => impossible.elim⟩
    rintro ⟨apply, known, applies⟩
    rcases inspectGrammar_short known with rfl | rfl
    all_goals cases known

/-- The items tell the request that the draft holding them amounts to. -/
theorem InspectRequest.toldBy_iff {request : InspectRequest} {items : List InspectItem} :
    request.ToldBy items ↔
      ∃ draft, InspectDraft.Heard items draft ∧ draft.finish = .ok request := by
  constructor
  · rintro ⟨name, arguments, dimensions, json, color, verbosity⟩
    obtain ⟨⟨_, _, _⟩, _, _, _⟩ := request
    obtain ⟨dimensions', given, rfl⟩ := amountsTo_iff.mp dimensions
    obtain ⟨color', givenColor, rfl⟩ := amountsTo_iff.mp color
    exact ⟨⟨some _, _, dimensions', _, color', _⟩,
      ⟨name, arguments, given, json, givenColor, verbosity⟩, rfl⟩
  · rintro ⟨⟨name', _, _, _, _, _⟩, ⟨name, arguments, dimensions, json, color, verbosity⟩, finishes⟩
    cases name' with
    | none => cases finishes
    | some text =>
      cases finishes
      exact ⟨name, arguments, amountsTo_iff.mpr ⟨_, dimensions, rfl⟩, json,
        amountsTo_iff.mpr ⟨_, color, rfl⟩, verbosity⟩

theorem Request.parse_inspect_eq_ok_iff {request : InspectRequest} {words : List String} :
    Request.parse ("inspect" :: words) = .ok (.inspect request) ↔ request.SpelledBy words := by
  have blank : InspectDraft.Heard [] {} := ⟨rfl, rfl, rfl, rfl, rfl, rfl⟩
  have parses : Request.parse ("inspect" :: words) =
      (inspectGrammar.read {} words >>= InspectDraft.finish) >>= fun asked =>
        .ok (.inspect asked) := by
    rw [bind_assoc]
    rfl
  rw [parses, bind_eq_ok_iff]
  simp only [Except.ok.injEq, Request.inspect.injEq, exists_eq_right]
  rw [inspectGrammar_follows.read_bind_eq_ok_iff blank]
  simp only [InspectRequest.SpelledBy, InspectRequest.toldBy_iff]

/-! ### The command `imports` -/

/-- What `imports` can be told. -/
inductive ImportsItem where
  | name (text : String)
  | package (text : String)
  | explicitJavaLang
  | color (choice : ColorChoice)
  | verbose
  deriving DecidableEq

namespace ImportsItem

/-! What an item gives for a field of the request. -/

@[simp] def name? : ImportsItem → Option String
  | name text => some text
  | _ => none

@[simp] def package? : ImportsItem → Option String
  | package text => some text
  | _ => none

@[simp] def color? : ImportsItem → Option ColorChoice
  | color choice => some choice
  | _ => none

/-! The options by their names. -/

inductive LongFlag : String → ImportsItem → Prop
  | explicitJavaLang : LongFlag "no-implicit-java-lang" explicitJavaLang

inductive LongValue : String → String → ImportsItem → Prop
  | package (text : String) : LongValue "package" text (package text)
  | color (choice : ColorChoice) : LongValue "color" choice.word (color choice)

inductive ShortFlag : Char → ImportsItem → Prop
  | verbose : ShortFlag 'v' verbose

inductive ShortValue : Char → String → ImportsItem → Prop
  | package (text : String) : ShortValue 'p' text (package text)

end ImportsItem

/-- The names of `imports`. -/
def importsVocabulary : Vocabulary ImportsItem where
  positional := .name
  longFlag := ImportsItem.LongFlag
  longValue := ImportsItem.LongValue
  shortFlag := ImportsItem.ShortFlag
  shortValue := ImportsItem.ShortValue
  longFlag_name := by rintro _ _ ⟨⟩; decide
  longValue_name := by rintro _ _ _ ⟨⟩ <;> decide
  shortFlag_letter := by rintro _ _ ⟨⟩; decide
  shortValue_letter := by rintro _ _ _ ⟨⟩; decide

/-- The items tell this request. At least one name is needed, and the package has no default. -/
structure ImportsRequest.ToldBy (request : ImportsRequest) (items : List ImportsItem) : Prop where
  names : items.filterMap ImportsItem.name? = request.names
  nonempty : request.names ≠ []
  package : items.filterMap ImportsItem.package? = request.package.toList
  explicit : items.count .explicitJavaLang = (!request.implicitJavaLang).toNat
  color : AmountsTo (items.filterMap ImportsItem.color?) .auto request.color
  verbosity : min (items.count .verbose) countLimit = request.verbosity

/-- The words after `imports` spell the request. -/
def ImportsRequest.SpelledBy (request : ImportsRequest) (words : List String) : Prop :=
  ∃ items, importsVocabulary.Spells items words ∧ request.ToldBy items

/-- The draft holds exactly what the items tell. -/
structure ImportsDraft.Heard (items : List ImportsItem) (draft : ImportsDraft) : Prop where
  names : items.filterMap ImportsItem.name? = draft.names
  package : items.filterMap ImportsItem.package? = draft.package.toList
  explicit : items.count .explicitJavaLang = draft.explicitJavaLang.toNat
  color : items.filterMap ImportsItem.color? = draft.color.toList
  verbosity : min (items.count .verbose) countLimit = draft.verbosity

namespace ImportsDraft

variable {items behind : List ImportsItem} {draft next : ImportsDraft}

theorem Heard.unique (heard : Heard items draft) (heard' : Heard items next) : draft = next := by
  obtain ⟨names, package, explicit, color, verbosity⟩ := heard
  obtain ⟨names', package', explicit', color', verbosity'⟩ := heard'
  obtain ⟨⟩ := draft
  obtain ⟨⟩ := next
  simp only [mk.injEq, ← toList_inj, ← toNat_inj]
  exact ⟨names.symm.trans names', package.symm.trans package', explicit.symm.trans explicit',
    color.symm.trans color', verbosity.symm.trans verbosity'⟩

/-- There is still a place for the item. -/
def Accepts (draft : ImportsDraft) : ImportsItem → Prop
  | .package _ => draft.package = none
  | .explicitJavaLang => draft.explicitJavaLang = false
  | .color _ => draft.color = none
  | .name _ | .verbose => True

/-- The draft in which the item has been put in its place. -/
def tell (draft : ImportsDraft) : ImportsItem → ImportsDraft
  | .name text => { draft with names := draft.names ++ [text] }
  | .package text => { draft with package := some text }
  | .explicitJavaLang => { draft with explicitJavaLang := true }
  | .color choice => { draft with color := some choice }
  | .verbose => { draft with verbosity := moreVerbose draft.verbosity }

/-- **Hearing one more item puts it in its place.** -/
theorem Heard.append_iff (heard : Heard behind draft) {item : ImportsItem} :
    Heard (behind ++ [item]) next ↔ draft.Accepts item ∧ draft.tell item = next := by
  obtain ⟨names, package, explicit, color, verbosity⟩ := heard
  have parts : Heard (behind ++ [item]) next ↔
      draft.names ++ item.name?.toList = next.names ∧
      draft.package.toList ++ item.package?.toList = next.package.toList ∧
      draft.explicitJavaLang.toNat + [item].count .explicitJavaLang =
        next.explicitJavaLang.toNat ∧
      draft.color.toList ++ item.color?.toList = next.color.toList ∧
      min (behind.count .verbose + [item].count .verbose) countLimit = next.verbosity := by
    simp only [← names, ← package, ← explicit, ← color, ← filterMap_append_singleton,
      ← List.count_append]
    exact ⟨fun ⟨a, b, c, d, e⟩ => ⟨a, b, c, d, e⟩, fun ⟨a, b, c, d, e⟩ => ⟨a, b, c, d, e⟩⟩
  rw [parts]
  obtain ⟨⟩ := draft
  obtain ⟨⟩ := next
  subst verbosity
  cases item <;>
    simp [Accepts, tell, toList_append_singleton, toList_inj, toNat_add_one, toNat_inj,
      moreVerbose_min, and_assoc, and_left_comm]

/-- What items tell can be heard up to any one of them. -/
theorem Heard.front (heard : Heard (behind ++ items) draft) : ∃ before, Heard behind before := by
  obtain ⟨_, package, explicit, color, _⟩ := heard
  rw [List.filterMap_append] at package color
  rw [List.count_append] at explicit
  obtain ⟨package', package⟩ := exists_toList_of_append package
  obtain ⟨explicit', explicit⟩ := exists_toNat_of_add explicit
  obtain ⟨color', color⟩ := exists_toList_of_append color
  exact ⟨⟨_, package', explicit', color', _⟩, rfl, package, explicit, color, rfl⟩

end ImportsDraft

theorem importsGrammar_long {name : String} {action : Action ImportsDraft}
    (known : importsGrammar.long? name = some action) :
    name = "package" ∨ name = "no-implicit-java-lang" ∨ name = "color" ∨ name = "help" := by
  simpa [importsGrammar, helpOption] using Grammar.mem_of_long? known

theorem importsGrammar_short {letter : Char} {action : Action ImportsDraft}
    (known : importsGrammar.short? letter = some action) :
    letter = 'p' ∨ letter = 'v' ∨ letter = 'h' := by
  simpa [importsGrammar, helpOption] using Grammar.mem_of_short? known

theorem importsGrammar_follows :
    importsGrammar.Follows importsVocabulary ImportsDraft.Heard where
  room := fun _ _ _ _ _ _ _ _ => rfl
  unique := ImportsDraft.Heard.unique
  front := ImportsDraft.Heard.front
  positional := by
    intro behind draft text next heard
    rw [show importsVocabulary.positional text = .name text from rfl, heard.append_iff]
    exact and_congr_left' (iff_of_true rfl trivial)
  longFlag := by
    intro behind draft name next heard
    constructor
    · rintro ⟨apply, known, applies⟩
      rcases importsGrammar_long known with rfl | rfl | rfl | rfl
      all_goals cases known
      · obtain ⟨vacant, rfl⟩ := raiseOnce_eq_ok_iff.mp applies
        exact ⟨_, .explicitJavaLang, heard.append_iff.mpr ⟨vacant, rfl⟩⟩
      · cases applies
    · rintro ⟨_, ⟨⟩, told⟩
      obtain ⟨vacant, rfl⟩ := heard.append_iff.mp told
      exact ⟨_, rfl, raiseOnce_eq_ok_iff.mpr ⟨vacant, rfl⟩⟩
  longValue := by
    intro behind draft name value next heard
    constructor
    · rintro ⟨apply, known, applies⟩
      rcases importsGrammar_long known with rfl | rfl | rfl | rfl
      all_goals cases known
      · obtain ⟨_, ⟨⟩, vacant, rfl⟩ := fillOnce_eq_ok_iff.mp applies
        exact ⟨_, .package value, heard.append_iff.mpr ⟨vacant, rfl⟩⟩
      · obtain ⟨choice, reads, vacant, rfl⟩ := fillOnce_eq_ok_iff.mp applies
        obtain rfl := ColorChoice.read_eq_ok_iff.mp reads
        exact ⟨_, .color choice, heard.append_iff.mpr ⟨vacant, rfl⟩⟩
    · rintro ⟨_, tells, told⟩
      obtain ⟨vacant, rfl⟩ := heard.append_iff.mp told
      cases tells with
      | package => exact ⟨_, rfl, fillOnce_eq_ok_iff.mpr ⟨_, rfl, vacant, rfl⟩⟩
      | color choice =>
        exact ⟨_, rfl, fillOnce_eq_ok_iff.mpr
          ⟨_, ColorChoice.read_eq_ok_iff.mpr rfl, vacant, rfl⟩⟩
  shortFlag := by
    intro behind draft letter next heard
    constructor
    · rintro ⟨apply, known, applies⟩
      rcases importsGrammar_short known with rfl | rfl | rfl
      all_goals cases known
      · cases applies
        exact ⟨_, .verbose, heard.append_iff.mpr ⟨trivial, rfl⟩⟩
      · cases applies
    · rintro ⟨_, ⟨⟩, told⟩
      obtain ⟨_, rfl⟩ := heard.append_iff.mp told
      exact ⟨_, rfl, rfl⟩
  shortValue := by
    intro behind draft letter value next heard
    constructor
    · rintro ⟨apply, known, applies⟩
      rcases importsGrammar_short known with rfl | rfl | rfl
      all_goals cases known
      obtain ⟨_, ⟨⟩, vacant, rfl⟩ := fillOnce_eq_ok_iff.mp applies
      exact ⟨_, .package value, heard.append_iff.mpr ⟨vacant, rfl⟩⟩
    · rintro ⟨_, ⟨⟩, told⟩
      obtain ⟨vacant, rfl⟩ := heard.append_iff.mp told
      exact ⟨_, rfl, fillOnce_eq_ok_iff.mpr ⟨_, rfl, vacant, rfl⟩⟩

/-- The items tell the request that the draft holding them amounts to. -/
theorem ImportsRequest.toldBy_iff {request : ImportsRequest} {items : List ImportsItem} :
    request.ToldBy items ↔
      ∃ draft, ImportsDraft.Heard items draft ∧ draft.finish = .ok request := by
  constructor
  · rintro ⟨names, nonempty, package, explicit, color, verbosity⟩
    obtain ⟨_, _, implicit, _, _⟩ := request
    obtain ⟨color', given, rfl⟩ := amountsTo_iff.mp color
    refine ⟨⟨_, _, !implicit, color', _⟩, ⟨names, package, explicit, given, verbosity⟩, ?_⟩
    rw [ImportsDraft.finish, if_neg (by simpa using nonempty), Bool.not_not]
  · rintro ⟨⟨named, _, _, _, _⟩, ⟨names, package, explicit, color, verbosity⟩, finishes⟩
    unfold ImportsDraft.finish at finishes
    split at finishes
    · cases finishes
    next nonempty =>
      cases finishes
      exact ⟨names, by simpa using nonempty, package, by rwa [Bool.not_not],
        amountsTo_iff.mpr ⟨_, color, rfl⟩, verbosity⟩

theorem Request.parse_imports_eq_ok_iff {request : ImportsRequest} {words : List String} :
    Request.parse ("imports" :: words) = .ok (.imports request) ↔ request.SpelledBy words := by
  have blank : ImportsDraft.Heard [] {} := ⟨rfl, rfl, rfl, rfl, rfl⟩
  have parses : Request.parse ("imports" :: words) =
      (importsGrammar.read {} words >>= ImportsDraft.finish) >>= fun asked =>
        .ok (.imports asked) := by
    rw [bind_assoc]
    rfl
  rw [parses, bind_eq_ok_iff]
  simp only [Except.ok.injEq, Request.imports.injEq, exists_eq_right]
  rw [importsGrammar_follows.read_bind_eq_ok_iff blank]
  simp only [ImportsRequest.SpelledBy, ImportsRequest.toldBy_iff]

/-! ### Every request within the limits -/

theorem count_map_of_ne {α β : Type} [DecidableEq β] {make : α → β} {b : β}
    (other : ∀ a, make a ≠ b) (as : List α) : (as.map make).count b = 0 := by
  refine List.count_eq_zero.mpr fun member => ?_
  obtain ⟨a, _, same⟩ := List.mem_map.mp member
  exact other a same

/-- All that the request asks for by options, the defaults too. -/
def InspectRequest.options (request : InspectRequest) : List InspectItem :=
  request.type.arguments.map .argument ++ .dimensions request.type.dimensions ::
    .color request.color ::
      (List.replicate request.json.toNat .json ++ List.replicate request.verbosity .verbose)

theorem InspectRequest.toldBy_options {request : InspectRequest}
    (verbosity : request.verbosity ≤ countLimit) :
    request.ToldBy (request.options ++ [request.type.name].map .name) where
  name := by
    simp [options, List.filterMap_cons, List.filterMap_replicate, Function.comp_def]
  arguments := by simp [options, List.filterMap_cons, Function.comp_def]
  dimensions := Or.inl <| by simp [options, List.filterMap_cons, Function.comp_def]
  json := by simp [options, List.count_replicate, count_map_of_ne]
  color := Or.inl <| by simp [options, List.filterMap_cons, Function.comp_def]
  verbosity := by
    simpa [options, List.count_replicate, count_map_of_ne] using Nat.min_eq_left verbosity

/-- Every request within the limits has a command line, and no others have. -/
theorem InspectRequest.exists_spelledBy_iff {request : InspectRequest} :
    (∃ words, request.SpelledBy words) ↔
      request.type.dimensions ≤ countLimit ∧ request.verbosity ≤ countLimit := by
  constructor
  · rintro ⟨words, items, spells, told⟩
    refine ⟨?_, told.verbosity ▸ Nat.min_le_right _ _⟩
    rcases told.dimensions with given | ⟨_, default⟩
    · have inside : InspectItem.dimensions request.type.dimensions ∈ items := by
        have member : request.type.dimensions ∈ items.filterMap InspectItem.dimensions? := by
          rw [given]
          exact List.mem_singleton_self _
        obtain ⟨item, inside, same⟩ := List.mem_filterMap.mp member
        cases item <;> cases same
        exact inside
      rcases spells.tells _ inside with ⟨_, ⟨⟩⟩ | tells
      cases tells with
      | longFlag tells => cases tells
      | longValue tells =>
        cases tells with
        | dimensions small _ => exact small
      | shortFlag tells => cases tells
      | shortValue impossible => exact impossible.elim
    · rw [default]
      exact Nat.zero_le _
  · rintro ⟨dimensions, verbosity⟩
    have numeral : Numeral request.type.dimensions (toString request.type.dimensions) :=
      .unsigned ⟨0, rfl⟩
    have told : ∀ item ∈ request.options, inspectVocabulary.Tells item := by
      intro item member
      simp only [options, List.mem_append, List.mem_map, List.mem_cons] at member
      rcases member with ⟨text, _, rfl⟩ | rfl | rfl | json | verbose
      · exact .longValue (.argument text)
      · exact .longValue (.dimensions dimensions numeral)
      · exact .longValue (.color request.color)
      · rw [List.eq_of_mem_replicate json]
        exact .longFlag .json
      · rw [List.eq_of_mem_replicate verbose]
        exact .shortFlag .verbose
    obtain ⟨words, spells⟩ := Vocabulary.exists_spells told [request.type.name]
    exact ⟨words, _, spells, InspectRequest.toldBy_options verbosity⟩

/-- All that the request asks for by options, the default color too. -/
def ImportsRequest.options (request : ImportsRequest) : List ImportsItem :=
  request.package.toList.map .package ++ .color request.color ::
    (List.replicate (!request.implicitJavaLang).toNat .explicitJavaLang ++
      List.replicate request.verbosity .verbose)

theorem ImportsRequest.toldBy_options {request : ImportsRequest} (nonempty : request.names ≠ [])
    (verbosity : request.verbosity ≤ countLimit) :
    request.ToldBy (request.options ++ request.names.map .name) where
  names := by
    simp [options, List.filterMap_cons, List.filterMap_replicate, Function.comp_def]
  nonempty := nonempty
  package := by
    simp only [options, List.filterMap_append, List.filterMap_map, List.filterMap_cons,
      List.filterMap_replicate, Function.comp_def, ImportsItem.package?]
    simp
  explicit := by simp [options, List.count_replicate, count_map_of_ne]
  color := Or.inl <| by simp [options, Function.comp_def]
  verbosity := by
    simpa [options, List.count_replicate, count_map_of_ne] using Nat.min_eq_left verbosity

/-- Every request within the limits that names something has a command line, and no others have. -/
theorem ImportsRequest.exists_spelledBy_iff {request : ImportsRequest} :
    (∃ words, request.SpelledBy words) ↔
      request.names ≠ [] ∧ request.verbosity ≤ countLimit := by
  constructor
  · rintro ⟨words, items, spells, told⟩
    exact ⟨told.nonempty, told.verbosity ▸ Nat.min_le_right _ _⟩
  · rintro ⟨nonempty, verbosity⟩
    have told : ∀ item ∈ request.options, importsVocabulary.Tells item := by
      intro item member
      simp only [options, List.mem_append, List.mem_map, List.mem_cons] at member
      rcases member with ⟨text, _, rfl⟩ | rfl | explicit | verbose
      · exact .longValue (.package text)
      · exact .longValue (.color request.color)
      · rw [List.eq_of_mem_replicate explicit]
        exact .longFlag .explicitJavaLang
      · rw [List.eq_of_mem_replicate verbose]
        exact .shortFlag .verbose
    obtain ⟨words, spells⟩ := Vocabulary.exists_spells told request.names
    exact ⟨words, _, spells, ImportsRequest.toldBy_options nonempty verbosity⟩

/-! ### Command lines and requests -/

/-- **Reading a command line gives back the request that it spells.** Each command reads as a
request exactly the words that spell it, with its items interleaved in any way and each in any of
its spellings. The requests that are spelled by some words are those within the limits, for
`imports` with at least one name. -/
theorem Request.parse_eq_ok_iff_spelledBy :
    (∀ request : InspectRequest,
      (∀ words, Request.parse ("inspect" :: words) = .ok (.inspect request) ↔
        request.SpelledBy words) ∧
      ((∃ words, request.SpelledBy words) ↔
        request.type.dimensions ≤ countLimit ∧ request.verbosity ≤ countLimit)) ∧
    ∀ request : ImportsRequest,
      (∀ words, Request.parse ("imports" :: words) = .ok (.imports request) ↔
        request.SpelledBy words) ∧
      ((∃ words, request.SpelledBy words) ↔
        request.names ≠ [] ∧ request.verbosity ≤ countLimit) :=
  ⟨fun _ => ⟨fun _ => parse_inspect_eq_ok_iff, InspectRequest.exists_spelledBy_iff⟩,
    fun _ => ⟨fun _ => parse_imports_eq_ok_iff, ImportsRequest.exists_spelledBy_iff⟩⟩

/-- The package is empty, behind two steps of verbosity, and a name that looks like an option stands
behind the bare `--`. -/
example : Request.parse ["imports", "a.B", "-vvp=", "-", "--color=never", "--", "-v"] =
    .ok (.imports ⟨["a.B", "-", "-v"], some "", true, .never, 2⟩) := by
  rfl

end JavaTypes.CommandLine
