/-
**How many types a description adds.**

A request that succeeds adds the type that it describes, unless the registry knows that type. So a
description adds the classes among its names that were unknown, each once however often it is named,
then the class with its type arguments, then an array for each dimension; and if it fails, nothing
but the classes of the names that were resolved.

* `Registry.Gains`: the types that an operation adds.
* `Call.gains_of_unknown`, `Call.left_of_known`: what a request adds.
* `Session.gains_mapM_resolve`, `Session.gains_arrays`: what names and dimensions add.
* `TypeExpr.resolve_eq`: a description whose names are resolved.
* `TypeExpr.typeCount_resolve`: the number of types behind a description in a new session.
-/

import JavaTypes.Proofs.Atomicity
import JavaTypes.Proofs.Boxing
import JavaTypes.Proofs.Descriptors

namespace JavaTypes

/-! ### Known types -/

namespace Registry

/-- Some handle has the type. -/
def Knows (r : Registry) (type : JavaType) : Prop := ∃ id, r.typeOf id = .ok type

/-- **The types that `new` has beyond those of `old`**, each listed once. -/
structure Gains (old new : Registry) (types : List JavaType) : Prop where
  count : new.typeCount = old.typeCount + types.length
  knows : ∀ type, new.Knows type ↔ old.Knows type ∨ type ∈ types

variable {old middle new : Registry} {first second : List JavaType} {type : JavaType}

theorem Gains.refl (r : Registry) : r.Gains r [] := ⟨rfl, by simp⟩

theorem Gains.trans (gains : old.Gains middle first) (gains' : middle.Gains new second) :
    old.Gains new (first ++ second) := by
  refine ⟨?_, fun type => ?_⟩
  · rw [gains'.count, gains.count, List.length_append, Nat.add_assoc]
  · rw [gains'.knows, gains.knows, List.mem_append, or_assoc]

theorem typeCount_initial : Session.initial.registry.typeCount = 18 := by
  rw [typeCount, OrderedSet.size_eq_length, initial_registry,
    OrderedSet.toList_ofList initialShapes_nodup]
  rfl

/-- **A new registry knows** the primitives and the wrapper classes. -/
theorem knows_initial_iff : Session.initial.registry.Knows type ↔
    ∃ kind, type = .primitive kind ∨ type = (JavaType.primitive kind).boxed := by
  constructor
  · rintro ⟨id, typed⟩
    have fixed : ∀ index < 18, ∃ kind ∈ Primitive.all,
        (⟨index⟩ : Handle) = .ofPrimitive kind ∨ (⟨index⟩ : Handle) = .ofWrapper kind := by
      decide
    have issued := sound_initial.issued_of_typeOf typed
    rw [Issued, typeCount_initial] at issued
    obtain ⟨kind, _, primitive | wrapper⟩ := fixed id.index issued
    · obtain rfl : id = .ofPrimitive kind := primitive
      have fact := Session.typeOf_ofPrimitive sound_initial kind
      exact ⟨kind, Or.inl (Except.ok.inj (typed.symm.trans fact))⟩
    · obtain rfl : id = .ofWrapper kind := wrapper
      have fact := Call.typeOf_ofWrapper sound_initial kind
      exact ⟨kind, Or.inr (Except.ok.inj (typed.symm.trans fact))⟩
  · rintro ⟨kind, rfl | rfl⟩
    · exact ⟨_, Session.typeOf_ofPrimitive sound_initial kind⟩
    · exact ⟨_, Call.typeOf_ofWrapper sound_initial kind⟩

end Registry

/-! ### What names stand for -/

namespace JavaType

theorem named_wrapperName (kind : Primitive) :
    named kind.wrapperName = (JavaType.primitive kind).boxed := by
  rw [named_of_isClassName (Name.isClassName_wrapperName kind), ClassName.named_wrapperName]
  rfl

/-- **A name can be told from what it stands for.** -/
theorem named_inj {name other : String} (fits : Name.isTypeName name = true)
    (fits' : Name.isTypeName other = true) : named name = named other ↔ name = other := by
  refine ⟨fun same => ?_, congrArg named⟩
  rcases Name.isTypeName_cases fits with ⟨kind, rfl⟩ | accepted <;>
    rcases Name.isTypeName_cases fits' with ⟨kind', rfl⟩ | accepted'
  · rw [named_keyword, named_keyword] at same
    cases same
    rfl
  · rw [named_keyword, named_of_isClassName accepted'] at same
    cases same
  · rw [named_keyword, named_of_isClassName accepted] at same
    cases same
  · rw [named_of_isClassName accepted, named_of_isClassName accepted', rawClass.injEq] at same
    rw [← ClassName.fullName_named accepted, same, ClassName.fullName_named accepted']

/-- What a name stands for has no dimensions. -/
theorem dimensions_named (name : String) : (named name).dimensions = 0 := by
  unfold named
  cases Primitive.ofKeyword? name <;> rfl

end JavaType

/-- A new registry knows what a name stands for if the name is a keyword or that of a wrapper class,
and not otherwise. -/
theorem Registry.knows_initial_named_iff {name : String} (fits : Name.isTypeName name = true) :
    Session.initial.registry.Knows (.named name) ↔
      ((Primitive.ofKeyword? name).isNone && (Primitive.ofWrapperName? name).isNone) = false := by
  rw [knows_initial_iff, Bool.and_eq_false_iff, Option.isNone_eq_false_iff,
    Option.isNone_eq_false_iff]
  constructor
  · rintro ⟨kind, same | same⟩
    · rw [← JavaType.named_keyword, JavaType.named_inj fits (by cases kind <;> rfl)] at same
      rw [same, Primitive.ofKeyword?_keyword]
      exact Or.inl rfl
    · have fits' : Name.isTypeName kind.wrapperName = true := by
        rw [Name.isTypeName, Name.isClassName_wrapperName, Bool.or_true]
      rw [← JavaType.named_wrapperName, JavaType.named_inj fits fits'] at same
      rw [same, Primitive.ofWrapperName?_wrapperName]
      exact Or.inr rfl
  · rintro (keyword | wrapper)
    · obtain ⟨kind, rfl⟩ := Name.exists_keyword keyword
      exact ⟨kind, Or.inl (JavaType.named_keyword kind)⟩
    · obtain ⟨kind, found⟩ := Option.isSome_iff_exists.mp wrapper
      have same : kind.wrapperName = name := by simpa using List.find?_some found
      exact ⟨kind, Or.inr (same ▸ JavaType.named_wrapperName kind)⟩

/-! ### What requests add -/

namespace Call

variable {call : Call} {s left : Session} {id : Handle} {type : JavaType}

/-- **A request for an unknown type adds it**, under the last handle. -/
theorem gains_of_unknown (sound : s.registry.Sound) (succeeds : call.perform s = .ok id left)
    (typed : left.registry.typeOf id = .ok type) (unknown : ¬ s.registry.Knows type) :
    s.registry.Gains left.registry [type] ∧ id.index + 1 = left.registry.typeCount := by
  have sound' := sound_of_ok sound succeeds
  obtain ⟨rfl, count⟩ := fresh_of_unknown sound succeeds typed
    fun known _ typed' => unknown ⟨known, typed'⟩
  refine ⟨⟨count, fun other => ?_⟩, count.symm⟩
  rw [List.mem_singleton]
  constructor
  · rintro ⟨known, typed'⟩
    have issued : known.index < left.registry.typeCount := sound'.issued_of_typeOf typed'
    rw [count, Nat.lt_succ_iff_lt_or_eq] at issued
    rcases issued with old | last
    · obtain ⟨before, typedBefore⟩ := sound.typeOf_total old
      have same := sound.typeOf_mono sound' (grows_of_ok succeeds) typedBefore
      cases typed'.symm.trans same
      exact Or.inl ⟨known, typedBefore⟩
    · obtain rfl : known = ⟨s.registry.typeCount⟩ := congrArg Handle.mk last
      exact Or.inr (Except.ok.inj (typed'.symm.trans typed))
  · rintro (⟨known, typedBefore⟩ | rfl)
    · exact ⟨known, sound.typeOf_mono sound' (grows_of_ok succeeds) typedBefore⟩
    · exact ⟨_, typed⟩

/-- A request for a known type adds nothing. -/
theorem left_of_known (sound : s.registry.Sound) (succeeds : call.perform s = .ok id left)
    (typed : left.registry.typeOf id = .ok type) (known : s.registry.Knows type) :
    left = s := by
  obtain ⟨earlier, typedBefore⟩ := known
  obtain ⟨names, shape, asks, _⟩ := requests_of_ok succeeds
  obtain ⟨described, describes, typed'⟩ := describes_of_ok sound succeeds
  cases typed.symm.trans typed'
  cases (perform_of_known sound asks describes typedBefore).symm.trans succeeds
  rfl

end Call

namespace Session

open Registry

variable {s left : Session} {id : Handle} {type : JavaType} {name : String} {names : List String}

/-- A name adds what it stands for, unless that is known. -/
theorem gains_resolve (sound : s.registry.Sound) (succeeds : resolve name s = .ok id left) :
    (s.registry.Knows (.named name) ∧ left = s) ∨
      (¬ s.registry.Knows (.named name) ∧ s.registry.Gains left.registry [.named name]) := by
  have fits := (resolve_ok_iff sound).mpr ⟨id, left, succeeds⟩
  obtain ⟨id', left', run, _, _, typed⟩ := resolve_obtains sound fits
  cases run.symm.trans succeeds
  rcases Name.isTypeName_cases fits with ⟨kind, rfl⟩ | accepted
  · cases (resolve_keyword kind s).symm.trans succeeds
    exact Or.inl ⟨⟨_, typed⟩, rfl⟩
  · rw [resolve_of_isClassName accepted] at succeeds
    have answered : (Call.reference name).perform s = .ok id left := adaptExcept_eq_ok succeeds
    by_cases known : s.registry.Knows (.named name)
    · exact Or.inl ⟨known, Call.left_of_known sound answered typed known⟩
    · exact Or.inr ⟨known, (Call.gains_of_unknown sound answered typed known).1⟩

/-- **Names add what they stand for**, as far as it was unknown, and each once. The induction is on
the names: to those behind a name that was added it is known. -/
theorem gains_mapM_resolve {ids : List Handle} (sound : s.registry.Sound)
    (succeeds : names.mapM resolve s = .ok ids left) :
    ∃ fresh : List String, fresh.Nodup ∧
      (∀ name, name ∈ fresh ↔ name ∈ names ∧ ¬ s.registry.Knows (.named name)) ∧
      s.registry.Gains left.registry (fresh.map .named) := by
  induction names generalizing s ids with
  | nil =>
    cases succeeds
    exact ⟨[], .nil, by simp, .refl _⟩
  | cons name names ih =>
    have fit : ∀ given ∈ name :: names, Name.isTypeName given = true := by
      rw [← List.takeWhile_eq_self_iff]
      exact takeWhile_of_mapM_resolve sound succeeds
    rw [List.mapM_cons] at succeeds
    obtain ⟨id, middle, run, others⟩ := bind_eq_ok succeeds
    obtain ⟨ids, last, rest, answer⟩ := bind_eq_ok others
    cases answer
    obtain ⟨calls, rfl⟩ := (madeOfCalls_resolve name).left_of_ok run
    obtain ⟨fresh, nodup, members, gains⟩ := ih (sound_after sound calls) rest
    rcases gains_resolve sound run with ⟨known, kept⟩ | ⟨unknown, gained⟩
    · rw [kept] at members gains
      refine ⟨fresh, nodup, fun given => ?_, gains⟩
      rw [members, List.mem_cons]
      refine ⟨fun ⟨inside, other⟩ => ⟨Or.inr inside, other⟩, ?_⟩
      rintro ⟨rfl | inside, other⟩
      · exact absurd known other
      · exact ⟨inside, other⟩
    · have members' : ∀ given, given ∈ fresh ↔
          given ∈ names ∧ ¬ s.registry.Knows (.named given) ∧ given ≠ name := by
        intro given
        rw [members, gained.knows, List.mem_singleton, not_or]
        refine and_congr_right fun inside => and_congr_right fun _ => ?_
        rw [ne_eq, JavaType.named_inj (fit given (List.mem_cons_of_mem _ inside))
          (fit name List.mem_cons_self)]
      refine ⟨name :: fresh, List.nodup_cons.mpr ⟨?_, nodup⟩, fun given => ?_, gained.trans gains⟩
      · rw [members']
        rintro ⟨_, _, different⟩
        exact different rfl
      · rw [List.mem_cons, List.mem_cons, members']
        constructor
        · rintro (rfl | ⟨inside, other, _⟩)
          · exact ⟨Or.inl rfl, unknown⟩
          · exact ⟨Or.inr inside, other⟩
        · rintro ⟨rfl | inside, other⟩
          · exact Or.inl rfl
          · by_cases same : given = name
            · exact Or.inl same
            · exact Or.inr ⟨inside, other, same⟩

/-- **Dimensions add an array each**, if no type has more dimensions than the one that they are
added to. The induction is on the dimensions: the array that was added has the most. -/
theorem gains_arrays {dimensions : Nat} {last : Handle} (sound : s.registry.Sound)
    (typed : s.registry.typeOf id = .ok type)
    (flat : ∀ known, s.registry.Knows known → known.dimensions ≤ type.dimensions)
    (succeeds : arrays dimensions id s = .ok last left) :
    s.registry.Gains left.registry (List.iterate JavaType.array (.array type) dimensions) ∧
      (0 < dimensions → last.index + 1 = left.registry.typeCount) := by
  induction dimensions generalizing s id type with
  | zero =>
    cases succeeds
    exact ⟨.refl _, nofun⟩
  | succ dimensions ih =>
    obtain ⟨row, middle, first, rest⟩ := bind_eq_ok succeeds
    have answered : (Call.array id).perform s = .ok row middle := first
    obtain ⟨_, describes, rowTyped⟩ := Call.describes_of_ok sound answered
    cases describes with
    | array elements =>
      cases typed.symm.trans elements
      have unknown : ¬ s.registry.Knows (.array type) := fun known =>
        absurd (flat _ known) (Nat.not_succ_le_self _)
      obtain ⟨gained, newest⟩ := Call.gains_of_unknown sound answered rowTyped unknown
      have flat' : ∀ known, middle.registry.Knows known →
          known.dimensions ≤ (JavaType.array type).dimensions := by
        intro known here
        rw [gained.knows, List.mem_singleton] at here
        rcases here with before | rfl
        · exact Nat.le_succ_of_le (flat known before)
        · exact Nat.le_refl _
      obtain ⟨gains, latest⟩ := ih (Call.sound_of_ok sound answered) rowTyped flat' rest
      refine ⟨gained.trans gains, fun _ => ?_⟩
      cases dimensions with
      | zero =>
        cases rest
        exact newest
      | succ dimensions => exact latest (Nat.succ_pos _)

end Session

/-! ### Descriptions -/

namespace TypeExpr

open Session

variable {s left middle : Session} {e : TypeExpr} {id base : Handle} {ids : List Handle}

/-- **A description whose names are resolved** goes on with what they were resolved to. -/
theorem resolve_eq
    (named : (e.name :: e.arguments).mapM Session.resolve s = .ok (base :: ids) middle) :
    e.resolve s = (if e.arguments = [] then blaming e.name (arrays e.dimensions base)
      else blaming e.name (narrow base ids) >>= fun element =>
        blaming e.name (arrays e.dimensions element)) middle := by
  rw [List.mapM_cons] at named
  obtain ⟨id, first, run, others⟩ := bind_eq_ok named
  obtain ⟨rest, last, run', answer⟩ := bind_eq_ok others
  cases answer
  rw [resolve, bind_of_ok run]
  by_cases plain : e.arguments = []
  · rw [plain] at run'
    cases run'
    rw [if_pos plain, if_pos (by simp [plain])]
    rfl
  · rw [if_neg plain, if_neg (by simp [plain])]
    exact bind_of_ok run'

/-- The names of a description that succeeds are resolved. -/
theorem names_of_ok (succeeds : e.resolve s = .ok id left) :
    ∃ base ids middle,
      (e.name :: e.arguments).mapM Session.resolve s = .ok (base :: ids) middle := by
  rw [resolve] at succeeds
  obtain ⟨base, first, run, others⟩ := bind_eq_ok succeeds
  rw [List.mapM_cons]
  by_cases plain : e.arguments = []
  · rw [plain]
    exact ⟨base, [], first, (bind_of_ok run).trans rfl⟩
  · rw [if_neg (by simp [plain])] at others
    obtain ⟨ids, middle, resolved, _⟩ := bind_eq_ok others
    exact ⟨base, ids, middle, (bind_of_ok run).trans ((bind_of_ok resolved).trans rfl)⟩

/-- The type arguments of a description are applied in a new session. -/
def Applies (e : TypeExpr) : Prop :=
  e.arguments ≠ [] ∧ ∃ base ids middle element left,
    (e.name :: e.arguments).mapM Session.resolve Session.initial = .ok (base :: ids) middle ∧
      narrow base ids middle = .ok element left

/-- The names of classes that a new session does not know. -/
def newClasses (names : List String) : Finset String :=
  (names.filter fun name =>
    (Primitive.ofKeyword? name).isNone && (Primitive.ofWrapperName? name).isNone).toFinset

theorem typed_of_names {names : List String}
    (named : names.mapM Session.resolve Session.initial = .ok ids middle) :
    ∀ id ∈ ids, ∃ type, middle.registry.typeOf id = .ok type := by
  intro id member
  rcases mapM_resolve_cases Registry.sound_initial names with
    ⟨_, _, _, refused⟩ | ⟨_, _, _, run, _, _, each⟩
  · cases named.symm.trans refused
  · cases named.symm.trans run
    obtain ⟨name, _, typed⟩ := exists_of_mem_left each member
    exact ⟨_, typed⟩

/-- **What names add to a new session.** -/
theorem gains_names {names : List String}
    (named : names.mapM Session.resolve Session.initial = .ok ids middle) :
    middle.registry.Sound ∧ middle.registry.typeCount = 18 + (newClasses names).card ∧
      ∀ type, middle.registry.Knows type → ∃ name, type = .named name := by
  obtain ⟨calls, rfl⟩ := (madeOfCalls_mapM Session.madeOfCalls_resolve names).left_of_ok named
  have sound := sound_after_initial calls
  obtain ⟨fresh, nodup, members, gains⟩ := gains_mapM_resolve Registry.sound_initial named
  refine ⟨sound, ?_, fun type known => ?_⟩
  · have same : fresh.toFinset = newClasses names := by
      have fit := List.takeWhile_eq_self_iff.mp
        (takeWhile_of_mapM_resolve Registry.sound_initial named)
      ext name
      rw [newClasses, List.mem_toFinset, List.mem_toFinset, members, List.mem_filter]
      refine and_congr_right fun inside => ?_
      rw [Registry.knows_initial_named_iff (fit name inside), Bool.not_eq_false]
    rw [gains.count, Registry.typeCount_initial, List.length_map,
      ← List.toFinset_card_of_nodup nodup, same]
  · rw [gains.knows, Registry.knows_initial_iff, List.mem_map] at known
    rcases known with ⟨kind, rfl | rfl⟩ | ⟨name, _, rfl⟩
    · exact ⟨_, (JavaType.named_keyword kind).symm⟩
    · exact ⟨_, (JavaType.named_wrapperName kind).symm⟩
    · exact ⟨name, rfl⟩

example : newClasses ["a.B", "java.lang.Integer", "a.B", "int", "B"] = {"a.B", "B"} := by
  decide

/-- **Applying type arguments adds the type**, when only what names stand for is known: with
arguments it is none of these. It has no fewer dimensions than any type that is known then. -/
theorem gains_narrow {element : Handle} (sound : s.registry.Sound)
    (only : ∀ type, s.registry.Knows type → ∃ name, type = .named name)
    (succeeds : narrow base ids s = .ok element left) :
    ∃ type, left.registry.typeOf element = .ok type ∧ type ≠ .primitive .void ∧
      s.registry.Gains left.registry [type] ∧ element.index + 1 = left.registry.typeCount ∧
      ∀ known, left.registry.Knows known → known.dimensions ≤ type.dimensions := by
  have answered : (Call.narrow base ids).perform s = .ok element left := succeeds
  obtain ⟨type, describes, typed⟩ := Call.describes_of_ok sound answered
  have other : ∀ name, type ≠ .named name := by
    intro name same
    cases describes
    unfold JavaType.named at same
    split at same <;> cases same
  obtain ⟨gained, newest⟩ := Call.gains_of_unknown sound answered typed fun known => by
    obtain ⟨name, same⟩ := only type known
    exact other name same
  refine ⟨type, typed, other "void", gained, newest, fun known here => ?_⟩
  rw [gained.knows, List.mem_singleton] at here
  rcases here with before | rfl
  · obtain ⟨name, rfl⟩ := only known before
    rw [JavaType.dimensions_named]
    exact Nat.zero_le _
  · exact Nat.le_refl _

/-- Type arguments that are applied leave nothing to go wrong: the result can have dimensions. -/
theorem resolve_of_applies (applies : e.Applies) :
    ∃ id left, e.resolve Session.initial = .ok id left := by
  obtain ⟨several, base, ids, middle, element, applied, named, narrowed⟩ := applies
  obtain ⟨sound, _, only⟩ := gains_names named
  obtain ⟨type, typed, sized, _⟩ := gains_narrow sound only narrowed
  have sound' := Call.sound_of_ok sound
    (show (Call.narrow base ids).perform middle = _ from narrowed)
  have obtains : Obtains (arrays e.dimensions element) applied _ :=
    arrays_obtains sound' typed (Or.inr sized)
  obtain ⟨id, left, run, _⟩ := obtains
  refine ⟨id, left, ?_⟩
  rw [resolve_eq named, if_neg several]
  exact (bind_of_ok (adaptExcept_of_ok narrowed)).trans (adaptExcept_of_ok run)

/-- **The number of types behind a description that succeeds.** -/
theorem typeCount_of_ok (succeeds : e.resolve Session.initial = .ok id left) :
    (e.arguments ≠ [] → e.Applies) ∧
      left.registry.typeCount = 18 + (newClasses (e.name :: e.arguments)).card +
        (if e.arguments = [] then 0 else 1) + e.dimensions ∧
      (e.arguments ≠ [] ∨ 0 < e.dimensions → id.index + 1 = left.registry.typeCount) := by
  obtain ⟨base, ids, middle, named⟩ := names_of_ok succeeds
  obtain ⟨sound, count, only⟩ := gains_names named
  rw [resolve_eq named] at succeeds
  by_cases plain : e.arguments = []
  · rw [if_pos plain] at succeeds
    have run := adaptExcept_eq_ok succeeds
    obtain ⟨type, typed⟩ := typed_of_names named base List.mem_cons_self
    have flat : ∀ known, middle.registry.Knows known → known.dimensions ≤ type.dimensions := by
      intro known here
      obtain ⟨name, rfl⟩ := only known here
      rw [JavaType.dimensions_named]
      exact Nat.zero_le _
    obtain ⟨gains, last⟩ := gains_arrays sound typed flat run
    refine ⟨fun several => absurd plain several, ?_, ?_⟩
    · rw [gains.count, count, List.length_iterate, if_pos plain, Nat.add_zero]
    · rintro (several | some)
      · exact absurd plain several
      · exact last some
  · rw [if_neg plain] at succeeds
    obtain ⟨element, applied, narrowed, rest⟩ := bind_eq_ok succeeds
    have narrowed := adaptExcept_eq_ok narrowed
    have run := adaptExcept_eq_ok rest
    obtain ⟨type, typed, _, gained, newest, flat⟩ := gains_narrow sound only narrowed
    have sound' := Call.sound_of_ok sound
      (show (Call.narrow base ids).perform middle = _ from narrowed)
    obtain ⟨gains, last⟩ := gains_arrays sound' typed flat run
    refine ⟨fun several => ⟨several, _, _, _, _, _, named, narrowed⟩, ?_, fun _ => ?_⟩
    · rw [gains.count, gained.count, count, List.length_iterate, if_neg plain]
      rfl
    · cases dimensions : e.dimensions with
      | zero =>
        rw [dimensions] at run
        cases run
        exact newest
      | succ rest => exact last (dimensions ▸ Nat.succ_pos rest)

/-- **How many types a description adds to a new session.** There are the 18 that every session
begins with; one for each new class among the names that were resolved, which are those before the
first that stands for no type; one if the type arguments were applied; and, if the description
succeeds, one for each dimension. Then the answer is the last type, unless it is what a name stands
for. -/
theorem typeCount_resolve (e : TypeExpr) :
    let resolved := (e.name :: e.arguments).takeWhile Name.isTypeName
    (∃ ids middle, resolved.mapM Session.resolve Session.initial = .ok ids middle ∧
      ∀ name rest, e.name :: e.arguments = resolved ++ name :: rest →
        ∃ error left, Session.resolve name middle = .error error left) ∧
    ∃ applied : Bool, (applied = true ↔ e.Applies) ∧
      match e.resolve Session.initial with
      | .ok id left =>
        resolved = e.name :: e.arguments ∧
        left.registry.typeCount =
          18 + (newClasses resolved).card + applied.toNat + e.dimensions ∧
        (e.arguments ≠ [] ∨ 0 < e.dimensions → id.index + 1 = left.registry.typeCount)
      | .error _ left =>
        left.registry.typeCount = 18 + (newClasses resolved).card + applied.toNat := by
  intro resolved
  have sound := Registry.sound_initial
  have refused : ∀ name rest, e.name :: e.arguments = resolved ++ name :: rest →
      ∀ s, ∃ error left, Session.resolve name s = .error error left := by
    intro name rest split s
    have behind : (e.name :: e.arguments).dropWhile Name.isTypeName = name :: rest := by
      rw [← List.append_right_inj resolved, ← split]
      exact List.takeWhile_append_dropWhile
    have unfit : Name.isTypeName name = false := by
      have head := List.head_dropWhile_not Name.isTypeName (behind ▸ List.cons_ne_nil name rest)
      simpa only [behind, List.head_cons] using head
    obtain ⟨left, run⟩ := Session.resolve_refused unfit s
    exact ⟨_, left, run⟩
  cases run : e.resolve Session.initial with
  | ok id left =>
    obtain ⟨base, ids, middle, named⟩ := names_of_ok run
    have whole : resolved = e.name :: e.arguments := takeWhile_of_mapM_resolve sound named
    obtain ⟨applies, count, last⟩ := typeCount_of_ok run
    rw [whole]
    refine ⟨⟨_, _, named, fun name rest split => refused name rest (whole ▸ split) middle⟩,
      !e.arguments.isEmpty, ⟨fun several => applies (by simpa using several), ?_⟩, rfl, ?_, last⟩
    · rintro ⟨several, _⟩
      simpa using several
    · rw [count]
      cases e.arguments <;> rfl
  | error error left =>
    obtain ⟨ids, middle, named, kept⟩ := resolve_error sound run
    obtain ⟨_, count, _⟩ := gains_names named
    refine ⟨⟨ids, middle, named, fun name rest split => refused name rest split middle⟩,
      false, ⟨nofun, fun applies => ?_⟩, ?_⟩
    · obtain ⟨id, left', succeeds⟩ := resolve_of_applies applies
      cases run.symm.trans succeeds
    · show left.registry.typeCount = _
      rw [kept]
      exact count

end TypeExpr

end JavaTypes
