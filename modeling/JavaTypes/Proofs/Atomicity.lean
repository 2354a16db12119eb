/-
**What a failure leaves behind.**

A request first makes sure that nothing stands against it and only then stores anything. So one that
fails has stored nothing. Resolving a description makes several requests: if one of them fails, then
what was stored for the names before it stays, and nothing else. These are top-level classes.

* `Call.kept_of_error`: a request that fails leaves the registry and the imports as they were.
* `Session.resolve_ok_iff`, `Session.resolve_error`: when a name is resolved, and what is left if it
  is not.
* `Session.mapM_resolve_error`: of a list of names, those before the first unfit one were resolved.
* `Registry.AddsTopLevel`: all that was stored are top-level classes.
* `TypeExpr.resolve_error`: what is left of a description that fails.
* `Session.failure_atomic`: what any failure leaves behind.
-/

import JavaTypes.Proofs.Composition
import JavaTypes.Proofs.Descriptions
import JavaTypes.Proofs.ImportSets

namespace JavaTypes

/-! ### Requests -/

/-- **A request that fails stores nothing.** -/
theorem Call.kept_of_error {call : Call} {s left : Session} {fault : Fault}
    (fails : call.perform s = .error fault left) :
    left.registry = s.registry ∧ left.imports = s.imports := by
  have imports := Session.imports_after s call
  rw [Call.after, fails] at imports
  refine ⟨?_, imports⟩
  rcases perform_cases call s with ⟨names, shape, asks⟩ | ⟨fault', left', run, kept⟩
  · rw [asks.perform] at fails
    cases fails
  · rw [fails] at run
    cases run
    exact kept

/-! ### Top-level classes -/

/-- All shapes that `new` has and `old` does not have are those of top-level classes. -/
def Registry.AddsTopLevel (old new : Registry) : Prop :=
  ∀ id shape, new.shape? id = some shape →
    old.shape? id = some shape ∨ ∃ package name, shape = .rawClass package none name

theorem Registry.AddsTopLevel.refl (r : Registry) : r.AddsTopLevel r :=
  fun _ _ known => Or.inl known

theorem Registry.AddsTopLevel.trans {old middle new : Registry} (first : old.AddsTopLevel middle)
    (second : middle.AddsTopLevel new) : old.AddsTopLevel new := by
  intro id shape known
  rcases second id shape known with before | topLevel
  · exact first id shape before
  · exact Or.inr topLevel

namespace Session

variable {s left : Session} {id : Handle} {name : String} {names : List String}
  {error : ResolveError}

/-- Interning a shape stores no more than that shape. -/
theorem shape?_intern_cases {shape found : Shape}
    (known : (s.intern shape).2.registry.shape? id = some found) :
    s.registry.shape? id = some found ∨ found = shape := by
  rcases s.intern_cases shape with ⟨position, _, run⟩ | ⟨absent, run⟩
  · rw [run] at known
    exact Or.inl known
  · rw [run] at known
    exact (Registry.shape?_insert_cases absent known).imp_right And.right

/-- A request for a top-level class stores no more than that class. -/
theorem addsTopLevel_reference (succeeds : reference name s = .ok id left) :
    s.registry.AddsTopLevel left.registry := by
  obtain ⟨names, shape, asks, answer⟩ :=
    Call.requests_of_ok (show (Call.reference name).perform s = _ from succeeds)
  have stored : left = ((s.withNames names).intern shape).2 := congrArg Prod.snd answer
  intro other found known
  rw [stored] at known
  rcases shape?_intern_cases known with old | rfl
  · exact Or.inl old
  · cases asks
    exact Or.inr ⟨_, _, rfl⟩

/-! ### Names -/

/-- **The names that are resolved** are those that stand for a type. -/
theorem resolve_ok_iff (sound : s.registry.Sound) :
    Name.isTypeName name = true ↔ ∃ id left, resolve name s = .ok id left := by
  constructor
  · intro fits
    obtain ⟨id, left, run, _⟩ := resolve_obtains sound fits
    exact ⟨id, left, run⟩
  · rintro ⟨id, left, run⟩
    by_contra unfit
    obtain ⟨left', refused⟩ := resolve_refused (Bool.eq_false_iff.mpr unfit) s
    rw [run] at refused
    cases refused

theorem addsTopLevel_resolve (succeeds : resolve name s = .ok id left) :
    s.registry.AddsTopLevel left.registry := by
  by_cases keyword : (Primitive.ofKeyword? name).isSome = true
  · obtain ⟨kind, rfl⟩ := Name.exists_keyword keyword
    rw [resolve_keyword] at succeeds
    cases succeeds
    exact .refl _
  · rw [resolve, if_neg keyword] at succeeds
    exact addsTopLevel_reference (adaptExcept_eq_ok succeeds)

/-- A name that is not resolved leaves the registry as it was. -/
theorem resolve_error (fails : resolve name s = .error error left) :
    left.registry = s.registry := by
  by_cases keyword : (Primitive.ofKeyword? name).isSome = true
  · obtain ⟨kind, rfl⟩ := Name.exists_keyword keyword
    rw [resolve_keyword] at fails
    cases fails
  · rw [resolve, if_neg keyword] at fails
    obtain ⟨fault, refused, _⟩ := adaptExcept_eq_error fails
    exact (Call.kept_of_error (show (Call.reference name).perform s = _ from refused)).1

theorem addsTopLevel_mapM_resolve {ids : List Handle}
    (succeeds : names.mapM resolve s = .ok ids left) :
    s.registry.AddsTopLevel left.registry := by
  induction names generalizing s ids with
  | nil =>
    cases succeeds
    exact .refl _
  | cons name names ih =>
    rw [List.mapM_cons] at succeeds
    obtain ⟨id, middle, run, others⟩ := bind_eq_ok succeeds
    obtain ⟨ids, last, rest, answer⟩ := bind_eq_ok others
    cases answer
    exact (addsTopLevel_resolve run).trans (ih rest)

/-- **The names before the first unfit one were resolved**, and nothing else was stored. The
induction is on the names: the state that the first one left is that in which the others begin. -/
theorem mapM_resolve_error (sound : s.registry.Sound)
    (fails : names.mapM resolve s = .error error left) :
    ∃ ids middle, (names.takeWhile Name.isTypeName).mapM resolve s = .ok ids middle ∧
      left.registry = middle.registry := by
  induction names generalizing s with
  | nil => cases fails
  | cons name names ih =>
    rw [List.mapM_cons] at fails
    by_cases fits : Name.isTypeName name = true
    · obtain ⟨id, middle, run, sound', _⟩ := resolve_obtains sound fits
      rw [bind_of_ok run] at fails
      rcases bind_eq_error fails with others | ⟨_, _, _, impossible⟩
      · obtain ⟨ids, last, resolved, kept⟩ := ih sound' others
        refine ⟨id :: ids, last, ?_, kept⟩
        rw [List.takeWhile_cons_of_pos fits, List.mapM_cons, bind_of_ok run, bind_of_ok resolved]
        rfl
      · cases impossible
    · rw [List.takeWhile_cons_of_neg fits]
      rcases bind_eq_error fails with refused | ⟨id, middle, run, _⟩
      · exact ⟨[], s, rfl, resolve_error refused⟩
      · exact absurd ((resolve_ok_iff sound).mpr ⟨id, middle, run⟩) fits

/-- Names that are all resolved all stand for types. -/
theorem takeWhile_of_mapM_resolve {ids : List Handle} (sound : s.registry.Sound)
    (succeeds : names.mapM resolve s = .ok ids left) :
    names.takeWhile Name.isTypeName = names := by
  rcases mapM_resolve_cases sound names with ⟨name, _, left', refused⟩ | ⟨none, _⟩
  · rw [succeeds] at refused
    cases refused
  · rw [List.takeWhile_eq_self_iff]
    simpa using none

/-! ### Dimensions -/

/-- Only dimensions of `void` fail, and they leave the session as it was. -/
theorem arrays_error {dimensions : Nat} {type : JavaType} {fault : Fault}
    (sound : s.registry.Sound) (typed : s.registry.typeOf id = .ok type)
    (fails : arrays dimensions id s = .error fault left) :
    type = .primitive .void ∧ left = s := by
  by_cases sized : dimensions = 0 ∨ type ≠ .primitive .void
  · obtain ⟨_, _, run, _⟩ := arrays_obtains sound typed sized
    rw [run] at fails
    cases fails
  · obtain ⟨some, void⟩ := not_or.mp sized
    rw [not_not] at void
    subst void
    obtain ⟨rest, rfl⟩ := Nat.exists_eq_add_one_of_ne_zero some
    obtain rfl : id = .void := sound.typeOf_injective typed (typeOf_ofPrimitive sound .void)
    rw [arrays, bind_of_error (array_void sound)] at fails
    cases fails
    exact ⟨rfl, rfl⟩

end Session

/-! ### Descriptions -/

namespace TypeExpr

open Session

variable {s left : Session} {e : TypeExpr} {error : ResolveError}

/-- Applying type arguments and adding dimensions stores nothing if it fails. A class that has its
type arguments is not `void`, so its dimensions do not fail. -/
theorem applied_error {base : Handle} {ids : List Handle} (sound : s.registry.Sound)
    (fails : (blaming e.name (narrow base ids) >>= fun element =>
      blaming e.name (arrays e.dimensions element)) s = .error error left) :
    left.registry = s.registry := by
  rcases bind_eq_error fails with refused | ⟨element, middle, applied, unsized⟩
  · obtain ⟨fault, run, _⟩ := adaptExcept_eq_error refused
    exact (Call.kept_of_error (show (Call.narrow base ids).perform s = _ from run)).1
  · exfalso
    have succeeds : (Call.narrow base ids).perform s = .ok element middle :=
      adaptExcept_eq_ok applied
    obtain ⟨type, describes, typed⟩ := Call.describes_of_ok sound succeeds
    obtain ⟨fault, run, _⟩ := adaptExcept_eq_error unsized
    obtain ⟨void, _⟩ := arrays_error (Call.sound_of_ok sound succeeds) typed run
    rw [void] at describes
    cases describes

/-- **What is left of a description that fails**: its names were resolved up to the first that
stands for no type, and nothing else was stored. -/
theorem resolve_error (sound : s.registry.Sound) (fails : e.resolve s = .error error left) :
    ∃ ids middle, ((e.name :: e.arguments).takeWhile Name.isTypeName).mapM Session.resolve s =
      .ok ids middle ∧ left.registry = middle.registry := by
  by_cases fits : Name.isTypeName e.name = true
  · obtain ⟨base, named, run, sound', _, typed⟩ := resolve_obtains sound fits
    -- what is resolved of the arguments is resolved in what the name left
    suffices others : ∃ ids middle, (e.arguments.takeWhile Name.isTypeName).mapM Session.resolve
        named = .ok ids middle ∧ left.registry = middle.registry by
      obtain ⟨ids, middle, resolved, kept⟩ := others
      refine ⟨base :: ids, middle, ?_, kept⟩
      rw [List.takeWhile_cons_of_pos fits, List.mapM_cons, bind_of_ok run, bind_of_ok resolved]
      rfl
    by_cases plain : e.arguments = []
    · have rest : e.resolve s = blaming e.name (arrays e.dimensions base) named := by
        rw [resolve, bind_of_ok run, if_pos (by simp [plain])]
        rfl
      rw [rest] at fails
      obtain ⟨fault, unsized, _⟩ := adaptExcept_eq_error fails
      obtain ⟨_, rfl⟩ := arrays_error sound' typed unsized
      rw [plain]
      exact ⟨[], left, rfl, rfl⟩
    · rw [resolve, bind_of_ok run, if_neg (by simp [plain])] at fails
      rcases bind_eq_error fails with refused | ⟨ids, middle, resolved, unfit⟩
      · exact mapM_resolve_error sound' refused
      · obtain ⟨calls, rfl⟩ :=
          (madeOfCalls_mapM Session.madeOfCalls_resolve e.arguments).left_of_ok resolved
        refine ⟨ids, _, ?_, applied_error (sound_after sound' calls) unfit⟩
        rw [takeWhile_of_mapM_resolve sound' resolved]
        exact resolved
  · rw [List.takeWhile_cons_of_neg fits]
    refine ⟨[], s, rfl, ?_⟩
    rcases bind_eq_error fails with refused | ⟨id, middle, run, _⟩
    · exact Session.resolve_error refused
    · exact absurd ((resolve_ok_iff sound).mpr ⟨id, middle, run⟩) fits

/-- Resolving a description leaves the imports alone and stores top-level classes only, if it
fails. -/
theorem kept_of_error (sound : s.registry.Sound) (fails : e.resolve s = .error error left) :
    left.imports = s.imports ∧ s.registry.AddsTopLevel left.registry := by
  constructor
  · obtain ⟨calls, rfl⟩ := e.madeOfCalls_resolve.left_of_error fails
    exact imports_after_calls s calls
  · obtain ⟨ids, middle, resolved, kept⟩ := resolve_error sound fails
    rw [kept]
    exact addsTopLevel_mapM_resolve resolved

end TypeExpr

/-! ### Sessions -/

namespace Session

/-- **What a failure leaves behind.** Take any session that demands lead to from a new one. A
request that fails, whatever strings and handles it is given, leaves the registry and the imports
as they were. A name is resolved exactly if it stands for a type. A description that fails leaves
the registry that resolving its names leaves, the type arguments from left to right, up to the first
one that stands for no type; all that it stored are top-level classes. -/
theorem failure_atomic (demands : List Demand) :
    let s := initial.serve demands
    (∀ (call : Call) (fault : Fault) (left : Session), call.perform s = .error fault left →
      left.registry = s.registry ∧ left.imports = s.imports) ∧
    (∀ name, Name.isTypeName name = true ↔ ∃ id left, resolve name s = .ok id left) ∧
    ∀ (e : TypeExpr) (error : ResolveError) (left : Session), e.resolve s = .error error left →
      (∃ ids middle, ((e.name :: e.arguments).takeWhile Name.isTypeName).mapM resolve s =
        .ok ids middle ∧ left.registry = middle.registry) ∧
      left.imports = s.imports ∧
      ∀ id shape, left.registry.shape? id = some shape →
        s.registry.shape? id = some shape ∨ ∃ package name, shape = .rawClass package none name := by
  intro s
  have sound : s.registry.Sound := (sound_serve Registry.sound_initial demands).1
  refine ⟨fun call fault left fails => Call.kept_of_error fails, fun name => resolve_ok_iff sound,
    fun e error left fails => ⟨TypeExpr.resolve_error sound fails, ?_⟩⟩
  exact TypeExpr.kept_of_error sound fails

/-- A type argument that was never issued, behind one that was boxed; and a description whose second
type argument is no name. -/
theorem failure_atomic_arguments :
    let s := initial.serve [.requested (.reference "java.util.Map")]
    let e : TypeExpr := ⟨"a.B", ["c.D", "1x", "e.F"], 2⟩
    (∃ left, narrow ⟨18⟩ [.ofPrimitive .int, ⟨99⟩] s = .error (.unissued ⟨99⟩) left ∧
      left.registry = s.registry) ∧
    ∃ left ids middle, e.resolve s = .error ⟨"1x", .refused (.invalidClassName "1x")⟩ left ∧
      ["a.B", "c.D"].mapM resolve s = .ok ids middle ∧ left.registry = middle.registry := by
  intro s e
  obtain ⟨requests, _, descriptions⟩ := failure_atomic [.requested (.reference "java.util.Map")]
  have raw : s.registry.shape ⟨18⟩ = .ok (.rawClass ⟨10⟩ none ⟨11⟩) := by subst s; cbv
  have unfit : [.ofPrimitive .int, ⟨99⟩].mapM (boxedArgument s.registry) =
      .error (.unissued ⟨99⟩) := by subst s; cbv
  have panics : narrow ⟨18⟩ [.ofPrimitive .int, ⟨99⟩] s = .error (.unissued ⟨99⟩) s :=
    (bind_of_ok (query_of_ok raw)).trans (bind_of_error (query_of_error unfit))
  have faulty : e.fault? = some ⟨"1x", .refused (.invalidClassName "1x")⟩ := by decide +kernel
  have fit : (e.name :: e.arguments).takeWhile Name.isTypeName = ["a.B", "c.D"] := by
    decide +kernel
  have sound : s.registry.Sound := (sound_serve Registry.sound_initial _).1
  refine ⟨⟨s, panics, (requests (.narrow ⟨18⟩ [.ofPrimitive .int, ⟨99⟩]) _ _ panics).1⟩, ?_⟩
  rcases TypeExpr.resolve_ends sound e with ⟨error, left, same, run⟩ | ⟨none, _⟩
  · cases faulty.symm.trans same
    obtain ⟨⟨ids, middle, resolved, kept⟩, _⟩ := descriptions e _ _ run
    rw [fit] at resolved
    exact ⟨left, ids, middle, run, resolved, kept⟩
  · cases faulty.symm.trans none

end Session

end JavaTypes
