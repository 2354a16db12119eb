/-
**Nothing gets lost among issued handles.**

A query follows handles and numbers of names that shapes hold, and it would fail on one that was
never given out; along its way nothing but the handles themselves says that it ends. In the sessions
that demands lead to neither goes wrong: what is asked about issued handles is answered, a request
that is given issued handles is met or refused, and the steps that a query takes are bounded by the
handle that it begins with.

* `Registry.Climbs`: the steps from a class to the one around it, counted.
* `Registry.outermostWithin_eq_ok_iff`: the way up from a class is a climb that ends in time.
* `Call.Settles`, `Call.settles`: a request is met or refused if its handles are issued.
* `Session.addImports_issued`: adding issued handles to imports adds issued handles.
* `Session.issued_answered`: what is asked of a session about issued handles is answered.
-/

import JavaTypes.Proofs.Answers
import JavaTypes.Proofs.Composition
import JavaTypes.Proofs.ImportSets
import JavaTypes.Proofs.Stability

namespace JavaTypes

namespace Registry

variable {r : Registry} {id top : Handle}

/-! ### Climbing -/

/-- So many steps, each from a class to the class around it, lead from the first handle to the
second one. -/
inductive Climbs (r : Registry) : Nat → Handle → Handle → Prop
  | here (id : Handle) : Climbs r 0 id id
  | up {steps : Nat} {id around top : Handle} (outer : r.outer id = .ok (some around))
    (rest : Climbs r steps around top) : Climbs r (steps + 1) id top

/-- **The way up is a climb** of less steps than it is allowed, to where there is nothing around. -/
theorem outermostWithin_eq_ok_iff {depth : Nat} :
    r.outermostWithin depth id = .ok top ↔
      ∃ steps < depth, r.Climbs steps id top ∧ r.outer top = .ok none := by
  induction depth generalizing id with
  | zero => exact ⟨nofun, fun ⟨_, impossible, _⟩ => absurd impossible (Nat.not_lt_zero _)⟩
  | succ depth ih =>
    rw [outermostWithin, bind_eq_ok_iff]
    constructor
    · rintro ⟨around, outer, found⟩
      cases around with
      | none =>
        cases found
        exact ⟨0, Nat.succ_pos depth, .here _, outer⟩
      | some around =>
        obtain ⟨steps, below, climbs, ends⟩ := ih.mp found
        exact ⟨steps + 1, Nat.succ_lt_succ below, .up outer climbs, ends⟩
    · rintro ⟨steps, below, climbs, ends⟩
      cases climbs with
      | here => exact ⟨none, ends, rfl⟩
      | up outer rest => exact ⟨_, outer, ih.mpr ⟨_, Nat.lt_of_succ_lt_succ below, rest, ends⟩⟩

/-- **From a class it is less than `id.index + 1` steps** to its outermost class. -/
theorem Sound.exists_climb (sound : r.Sound) {name : ClassName}
    (typed : r.typeOf id = .ok (.rawClass name)) :
    ∃ steps top, steps < id.index + 1 ∧ r.Climbs steps id top ∧ r.outer top = .ok none ∧
      r.outermost id = .ok top := by
  obtain ⟨top, found, _⟩ := sound.outermostWithin_ok typed (Nat.lt_succ_self id.index)
  obtain ⟨steps, below, climbs, ends⟩ := outermostWithin_eq_ok_iff.mp found
  exact ⟨steps, top, below, climbs, ends, found⟩

/-- Outermost classes have issued handles. -/
theorem Sound.issued_of_ofClasses (sound : r.Sound) {ids : List Handle} {classes : List ClassName}
    (each : r.OfClasses ids classes) : ∀ id ∈ ids, r.Issued id := by
  intro id member
  obtain ⟨name, _, typed⟩ := exists_of_mem_left each member
  exact sound.issued_of_typeOf typed

end Registry

/-! ### Requests -/

namespace Call

open Session

variable {s : Session} {call : Call}

/-- The handles that a request is given. -/
def handles : Call → List Handle
  | reference _ => []
  | nested outer _ => [outer]
  | narrow basis arguments => basis :: arguments
  | array element => [element]

/-- The request is met with an issued handle, or it is refused. -/
def Settles (call : Call) (s : Session) : Prop :=
  (∃ id left, call.perform s = .ok id left ∧ left.registry.Issued id) ∨
    ∃ why left, call.perform s = .error (.refused why) left

/-- A request that nothing stands against is met. -/
theorem Requests.settles {names : NamePool} {shape : Shape} (sound : s.registry.Sound)
    (asks : call.Requests s.registry names shape) : call.Settles s := by
  obtain ⟨type, _, typed⟩ := describes_of_ok sound asks.perform
  exact Or.inl ⟨_, _, asks.perform, (sound_of_ok sound asks.perform).issued_of_typeOf typed⟩

theorem settles_reference (sound : s.registry.Sound) (name : String) :
    (reference name).Settles s := by
  by_cases accepted : Name.isClassName name = true
  · exact Requests.settles sound (.reference accepted)
  · obtain ⟨left, run⟩ := reference_refused (s := s) (Bool.eq_false_iff.mpr accepted)
    exact Or.inr ⟨_, left, run⟩

theorem settles_nested (sound : s.registry.Sound) {outer : Handle} (name : String)
    (issued : s.registry.Issued outer) : (nested outer name).Settles s := by
  obtain ⟨type, typed⟩ := sound.typeOf_total issued
  obtain ⟨shape, known⟩ := Registry.issued_iff.mp issued
  have run : (nested outer name).perform s = _ := perform_of_shape outer rfl known
  cases shape with
  | rawClass package around own =>
    by_cases accepted : Name.isNestedName name = true
    · exact Requests.settles sound (.nested known accepted)
    · simp only at run
      rw [if_neg accepted] at run
      exact Or.inr ⟨_, _, run⟩
  | primitive kind | parameterized basis arguments | array element =>
    exact Or.inr ⟨_, s, run.trans (bind_of_ok (query_of_ok (Registry.fullName_of_typeOf typed)))⟩

theorem settles_narrow (sound : s.registry.Sound) {basis : Handle} {arguments : List Handle}
    (issued : s.registry.Issued basis)
    (issued' : ∀ argument ∈ arguments, s.registry.Issued argument) :
    (narrow basis arguments).Settles s := by
  obtain ⟨type, typed⟩ := sound.typeOf_total issued
  obtain ⟨shape, known⟩ := Registry.issued_iff.mp issued
  have run : (narrow basis arguments).perform s = _ := perform_of_shape basis rfl known
  cases shape with
  | rawClass package around own =>
    by_cases empty : arguments = []
    · subst empty
      exact Or.inr ⟨.noTypeArguments, s, run⟩
    · by_cases void : Handle.void ∈ arguments
      · simp only at run
        rw [if_neg (by simpa using empty),
          bind_of_error (query_of_error (mapM_boxedArgument_void issued' void))] at run
        exact Or.inr ⟨_, s, run⟩
      · obtain ⟨boxed, fits⟩ := exists_forall₂ fun argument member =>
          boxedArgument_ok (issued' argument member) fun same => void (same ▸ member)
        exact Requests.settles sound (.narrow known empty (mapM_eq_ok_iff.mpr fits))
  | primitive kind | parameterized inner applied | array element =>
    exact Or.inr ⟨_, s, run.trans (bind_of_ok (query_of_ok (Registry.fullName_of_typeOf typed)))⟩

theorem settles_array (sound : s.registry.Sound) {element : Handle}
    (issued : s.registry.Issued element) : (array element).Settles s := by
  by_cases void : element = .void
  · subst void
    exact Or.inr ⟨_, s, array_void sound⟩
  · obtain ⟨shape, known⟩ := Registry.issued_iff.mp issued
    exact Requests.settles sound (.array known void)

/-- **A request that is given issued handles is met or refused.** -/
theorem settles (sound : s.registry.Sound) (issued : ∀ id ∈ call.handles, s.registry.Issued id) :
    call.Settles s := by
  cases call with
  | reference name => exact settles_reference sound name
  | nested outer name => exact settles_nested sound name (issued outer List.mem_cons_self)
  | narrow basis arguments =>
    exact settles_narrow sound (issued basis List.mem_cons_self) fun argument member =>
      issued argument (List.mem_cons_of_mem _ member)
  | array element => exact settles_array sound (issued element List.mem_cons_self)

end Call

/-! ### Imports -/

namespace Session

variable {s left : Session} {id : Handle} {ids tops : List Handle}

/-- Recording issued handles in imports of issued handles keeps them so. -/
theorem Records.issued (recorded : s.Records tops left)
    (inside : ∀ id ∈ s.imports.toList, s.registry.Issued id)
    (issued : ∀ top ∈ tops, s.registry.Issued top) :
    ∀ id ∈ left.imports.toList, s.registry.Issued id := by
  intro id member
  rw [Imports.toList, recorded.classes, OrderedSet.toList_foldl_insert, List.mem_append,
    List.mem_eraseDups] at member
  rcases member with old | new
  · exact inside id old
  · exact issued id (List.mem_of_mem_filter new)

/-- **Adding an issued handle to imports** of issued handles adds issued handles. -/
theorem addImport_issued (sound : s.registry.Sound)
    (inside : ∀ id ∈ s.imports.toList, s.registry.Issued id) (issued : s.registry.Issued id) :
    ∃ left, addImport id s = .ok () left ∧ left.registry = s.registry ∧
      ∀ id ∈ left.imports.toList, s.registry.Issued id := by
  obtain ⟨type, typed⟩ := sound.typeOf_total issued
  obtain ⟨tops, mentioned, classes⟩ := sound.mentionedClasses_ok typed
  have issued' := sound.issued_of_ofClasses classes
  obtain ⟨left, run, recorded⟩ := forM_recordImport_ok (s := s) fun top member => by
    obtain ⟨type, typed⟩ := sound.typeOf_total (issued' top member)
    exact ⟨_, Registry.fullName_of_typeOf typed⟩
  refine ⟨left, ?_, recorded.registry, recorded.issued inside issued'⟩
  rw [addImport, bind_of_ok (query_of_ok mentioned)]
  exact run

/-- So does adding several of them. -/
theorem addImports_issued (sound : s.registry.Sound)
    (inside : ∀ id ∈ s.imports.toList, s.registry.Issued id)
    (issued : ∀ id ∈ ids, s.registry.Issued id) :
    ∃ left, addImports ids s = .ok () left ∧ left.registry = s.registry ∧
      ∀ id ∈ left.imports.toList, s.registry.Issued id := by
  induction ids generalizing s with
  | nil => exact ⟨s, rfl, rfl, inside⟩
  | cons id ids ih =>
    obtain ⟨middle, run, kept, inside'⟩ :=
      addImport_issued sound inside (issued id List.mem_cons_self)
    rw [← kept] at sound inside' issued
    obtain ⟨left, rest, kept', inside''⟩ := ih sound inside' fun other member =>
      issued other (List.mem_cons_of_mem _ member)
    rw [kept] at kept' inside''
    exact ⟨left, (bind_of_ok run).trans rest, kept', inside''⟩

/-- **Imports of issued handles have a listing and a text.** -/
theorem exists_rendered {r : Registry} {imports : Imports} (sound : r.Sound)
    (inside : ∀ id ∈ imports.toList, r.Issued id) (options : ListingOptions) :
    ∃ order text, imports.listed r options = .ok order ∧ imports.render r options = .ok text := by
  obtain ⟨order, listed, issued⟩ := sound.exists_listed inside options
  obtain ⟨types, each⟩ := exists_forall₂ fun id member => sound.typeOf_total (issued id member)
  refine ⟨order, Imports.block options.palette (types.map JavaType.fullName), listed, ?_⟩
  rw [Imports.render, listed]
  show (order.mapM r.fullName >>= _) = _
  rw [Registry.mapM_fullName each]
  rfl

/-! ### Sessions -/

/-- **What is asked about issued handles is answered.** Take any session that demands lead to from
a new one. Every issued handle has a type, and the registry tells everything about it: single
queries, the report and the view answer from the tree of the type, and the handles in the answers
are again those of types. Unfolding the type, and looking for the classes that it mentions, needs no
more steps in depth than the index of the handle says. Issued handles can be compared and sorted. A
request that is given issued handles only is met with an issued handle, or refused. Issued handles
can be added to any imports of issued handles, one or several, and then these can be listed and
rendered. From a class fewer than `id.index + 1` steps lead to its outermost class, which has no
class around it. -/
theorem issued_answered (demands : List Demand) :
    let s := initial.serve demands
    let r := s.registry
    (∀ id, r.Issued id → ∃ type, r.Tells id type ∧
      ∀ depth, id.index < depth → r.typeWithin depth id = .ok type ∧
        ∃ tops, r.mentionedWithin depth id = .ok tops ∧ r.OfClasses tops type.outermostClasses) ∧
    (∀ id type, r.typeOf id = .ok type → r.Issued id) ∧
    (∀ a b, r.Issued a → r.Issued b → ∃ order, r.compare a b = .ok order ∧
      View.compare ⟨r, a⟩ ⟨r, b⟩ = .ok order) ∧
    (∀ ids : List Handle, (∀ id ∈ ids, r.Issued id) →
      ∃ order, r.sort ids = .ok order ∧ order.Perm ids) ∧
    (∀ call : Call, (∀ id ∈ call.handles, r.Issued id) →
      (∃ id left, call.perform s = .ok id left ∧ left.registry.Issued id) ∨
        ∃ why left, call.perform s = .error (.refused why) left) ∧
    (∀ imports : Imports, (∀ id ∈ imports.toList, r.Issued id) →
      (∀ id, r.Issued id → ∃ left, addImport id { s with imports } = .ok () left ∧
        left.registry = r ∧ ∀ top ∈ left.imports.toList, r.Issued top) ∧
      (∀ ids : List Handle, (∀ id ∈ ids, r.Issued id) →
        ∃ left, addImports ids { s with imports } = .ok () left ∧
          left.registry = r ∧ ∀ top ∈ left.imports.toList, r.Issued top) ∧
      ∀ options, ∃ order text, imports.listed r options = .ok order ∧
        imports.render r options = .ok text) ∧
    ∀ id name, r.typeOf id = .ok (.rawClass name) → ∃ steps top, steps < id.index + 1 ∧
      r.Climbs steps id top ∧ r.outer top = .ok none ∧ r.outermost id = .ok top := by
  intro s r
  have sound : r.Sound := (sound_serve Registry.sound_initial demands).1
  refine ⟨fun id issued => ?_, fun id type typed => sound.issued_of_typeOf typed,
    fun a b issued issued' => ?_, fun ids issued => ?_, fun call issued => ?_,
    fun imports inside => ⟨fun id issued => ?_, fun ids issued => ?_, fun options => ?_⟩,
    fun id name typed => sound.exists_climb typed⟩
  · obtain ⟨type, typed⟩ := sound.typeOf_total issued
    refine ⟨type, sound.tells typed, fun depth enough => ⟨?_, ?_⟩⟩
    · rw [sound.typeWithin_eq enough (Nat.lt_succ_self _)]
      exact typed
    · exact sound.mentionedWithin_ok typed enough
  · obtain ⟨type, typed⟩ := sound.typeOf_total issued
    obtain ⟨other, typed'⟩ := sound.typeOf_total issued'
    exact ⟨_, sound.compare_eq typed typed', sound.compare_eq typed typed'⟩
  · obtain ⟨order, sorted, permuted, _⟩ := sound.exists_sorted issued
    exact ⟨order, sorted, permuted⟩
  · exact Call.settles sound issued
  · exact addImport_issued (s := { s with imports }) sound inside issued
  · exact addImports_issued (s := { s with imports }) sound inside issued
  · exact exists_rendered sound inside options

/-- A class nested twice, in an array as a type argument. -/
theorem issued_answered_nested :
    let s := initial.serve [.requested (.reference "a.B"), .requested (.nested ⟨18⟩ "C"),
      .requested (.nested ⟨19⟩ "D"), .requested (.array ⟨20⟩),
      .requested (.narrow ⟨19⟩ [⟨21⟩, ⟨5⟩])]
    s.registry.Issued ⟨22⟩ ∧
      s.registry.Tells ⟨22⟩ (.parameterized (.nested (.topLevel "a" "B") "C")
        [.array (.rawClass (.nested (.nested (.topLevel "a" "B") "C") "D")),
          .rawClass (.topLevel "java.lang" "Integer")]) ∧
      (∃ steps top, steps < 21 ∧ s.registry.Climbs steps ⟨20⟩ top ∧
        s.registry.outer top = .ok none) ∧
      ∃ left, addImports [⟨22⟩, ⟨20⟩] { s with imports := ∅ } = .ok () left ∧
        ∀ top ∈ left.imports.toList, s.registry.Issued top := by
  intro s
  have types : [⟨20⟩, ⟨22⟩].map s.registry.typeOf = [
      .ok (.rawClass (.nested (.nested (.topLevel "a" "B") "C") "D")),
      .ok (.parameterized (.nested (.topLevel "a" "B") "C")
        [.array (.rawClass (.nested (.nested (.topLevel "a" "B") "C") "D")),
          .rawClass (.topLevel "java.lang" "Integer")])] := by subst s; cbv
  simp only [List.map_cons, List.map_nil, List.cons.injEq, and_true] at types
  obtain ⟨inner, applied⟩ := types
  obtain ⟨tells, issues, _, _, _, adds, climbs⟩ := issued_answered
    [.requested (.reference "a.B"), .requested (.nested ⟨18⟩ "C"),
      .requested (.nested ⟨19⟩ "D"), .requested (.array ⟨20⟩),
      .requested (.narrow ⟨19⟩ [⟨21⟩, ⟨5⟩])]
  have issued := issues ⟨22⟩ _ applied
  have issued' : ∀ id ∈ [(⟨22⟩ : Handle), ⟨20⟩], s.registry.Issued id := by
    simpa using ⟨issued, issues ⟨20⟩ _ inner⟩
  obtain ⟨type, told, unfolds⟩ := tells ⟨22⟩ issued
  obtain ⟨typed, _⟩ := unfolds 23 (Nat.lt_succ_self 22)
  cases applied.symm.trans typed
  obtain ⟨steps, top, below, climb, ends, _⟩ := climbs ⟨20⟩ _ inner
  have none : ∀ id ∈ (∅ : Imports).toList, s.registry.Issued id := by
    intro id member
    cases member
  obtain ⟨left, added, _, inside⟩ := (adds ∅ none).2.1 _ issued'
  exact ⟨issued, told, ⟨steps, top, below, climb, ends⟩, left, added, inside⟩

end Session

end JavaTypes
