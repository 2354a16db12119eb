/-
**What adding types to the imports does.**

A session collects imports while types are asked for. Adding a type to the imports appends the
outermost classes that occur in it, unless they are there; asking for types leaves the imports
alone. So the imports are top-level classes at every moment, each once.

* `Session.Action`, `Session.Leads`: what is done with a session, and the sessions that come of it.
* `Session.Sound`, `Session.Leads.sound`: the invariant of sessions.
* `Session.addImport_ok`, `Session.addImports_ok`: what adding a type, and adding several, does.
* `Session.imports_follow_types`: the imports at every moment, told by the types that were added.
-/

import JavaTypes.Proofs.Identity
import JavaTypes.Proofs.Mentions
import Mathlib

namespace JavaTypes

namespace OrderedSet

/-- What a set contains after a list of values was inserted. -/
theorem WellFormed.mem_foldl_insert {α : Type} [BEq α] [Hashable α] [LawfulBEq α]
    [LawfulHashable α] {set : OrderedSet α} (formed : set.WellFormed) (as : List α) {b : α} :
    b ∈ (as.foldl OrderedSet.insert set).toList ↔ b ∈ set.toList ∨ b ∈ as := by
  rw [toList_foldl_insert, List.mem_append, List.mem_eraseDups, List.mem_filter]
  refine ⟨Or.imp_right And.left, fun either => ?_⟩
  by_cases old : b ∈ set.toList
  · exact Or.inl old
  · refine Or.inr ⟨either.resolve_left old, ?_⟩
    rw [← formed.contains_iff, Bool.not_eq_true] at old
    rw [old]
    rfl

theorem grows_foldl_insert {α : Type} [BEq α] [Hashable α] (as : List α) (set : OrderedSet α) :
    set.Grows (as.foldl OrderedSet.insert set) := by
  induction as generalizing set with
  | nil => exact .refl set
  | cons a as ih => exact (grows_insert set a).trans (ih _)

end OrderedSet

namespace Session

variable {s left : Session} {id : Handle} {ids tops : List Handle}

/-! ### Recording classes -/

theorem recordImport_of_contains (present : s.imports.contains id = true) :
    recordImport id s = .ok () s := by
  rw [recordImport, bind_of_ok (rfl : (get : SessionM Session) s = .ok s s), if_pos present]
  rfl

theorem recordImport_of_new {name : String} (absent : ¬ s.imports.contains id = true)
    (named : s.registry.fullName id = .ok name) :
    recordImport id s = .ok () { s with
      imports := s.imports.insert id
      events := s.events.push (.importRecorded name) } := by
  rw [recordImport, bind_of_ok (rfl : (get : SessionM Session) s = .ok s s), if_neg absent]
  exact (bind_of_ok rfl).trans (bind_of_ok (query_of_ok named))

/-- Recording a class inserts it. If it was there nothing happens. -/
theorem recordImport_ok {name : String} (named : s.registry.fullName id = .ok name) :
    ∃ left, recordImport id s = .ok () left ∧ left.registry = s.registry ∧
      left.imports = s.imports.insert id := by
  by_cases present : s.imports.contains id = true
  · have same : s.imports.insert id = s.imports :=
      congrArg Imports.mk (OrderedSet.insert_of_contains present)
    exact ⟨s, recordImport_of_contains present, rfl, same.symm⟩
  · exact ⟨_, recordImport_of_new present named, rfl, rfl⟩

/-- The classes were recorded: they were inserted one after the other, and the registry is as
before. -/
structure Records (s : Session) (tops : List Handle) (left : Session) : Prop where
  registry : left.registry = s.registry
  classes : left.imports.classes = tops.foldl OrderedSet.insert s.imports.classes

theorem Records.trans {middle : Session} {more : List Handle} (first : s.Records tops middle)
    (second : middle.Records more left) : s.Records (tops ++ more) left :=
  ⟨second.registry.trans first.registry, by
    rw [second.classes, first.classes, List.foldl_append]⟩

theorem Records.toList (recorded : s.Records tops left) (formed : s.imports.classes.WellFormed) :
    left.imports.toList = s.imports.toList ++ (tops.filter (· ∉ s.imports.toList)).eraseDups := by
  have fresh : tops.filter (fun top => !s.imports.classes.contains top) =
      tops.filter (· ∉ s.imports.toList) := by
    refine List.filter_congr fun top _ => ?_
    rw [Bool.eq_iff_iff, Bool.not_eq_true', ← Bool.not_eq_true, formed.contains_iff,
      decide_eq_true_iff]
    rfl
  rw [← fresh]
  exact (congrArg OrderedSet.toList recorded.classes).trans (OrderedSet.toList_foldl_insert _ _)

theorem Records.mem_iff (recorded : s.Records tops left) (formed : s.imports.classes.WellFormed) :
    id ∈ left.imports.toList ↔ id ∈ s.imports.toList ∨ id ∈ tops := by
  rw [Imports.toList, recorded.classes]
  exact formed.mem_foldl_insert tops

/-- Recording classes that have names records them. -/
theorem forM_recordImport_ok (named : ∀ top ∈ tops, ∃ name, s.registry.fullName top = .ok name) :
    ∃ left, tops.forM recordImport s = .ok () left ∧ s.Records tops left := by
  induction tops generalizing s with
  | nil => exact ⟨s, rfl, rfl, rfl⟩
  | cons top tops ih =>
    obtain ⟨name, first⟩ := named top List.mem_cons_self
    obtain ⟨middle, run, kept, inserted⟩ := recordImport_ok first
    obtain ⟨left, rest, recorded⟩ := ih fun other member => by
      rw [kept]
      exact named other (List.mem_cons_of_mem _ member)
    have step : s.Records [top] middle := ⟨kept, by rw [inserted]; rfl⟩
    exact ⟨left, (bind_of_ok run).trans rest, step.trans recorded⟩

/-- Recording classes that are there changes nothing. -/
theorem forM_recordImport_of_contains (present : ∀ top ∈ tops, s.imports.contains top = true) :
    tops.forM recordImport s = .ok () s := by
  induction tops with
  | nil => rfl
  | cons top tops ih =>
    refine (bind_of_ok (recordImport_of_contains (present top List.mem_cons_self))).trans ?_
    exact ih fun other member => present other (List.mem_cons_of_mem _ member)

/-! ### The invariant of sessions -/

/-- **What holds of a session at every moment**: its registry is sound, and its imports are
top-level classes. -/
structure Sound (s : Session) : Prop where
  registry : s.registry.Sound
  formed : s.imports.classes.WellFormed
  topLevel : ∀ id ∈ s.imports.toList, ∃ package simple,
    s.registry.typeOf id = .ok (.rawClass (.topLevel package simple))

/-- The session `new` has everything that `old` has, in the same order. -/
structure Grows (old new : Session) : Prop where
  registry : old.registry.Grows new.registry
  imports : old.imports.classes.Grows new.imports.classes

theorem Grows.refl (s : Session) : s.Grows s := ⟨.refl _, .refl _⟩

theorem Grows.trans {middle : Session} (first : s.Grows middle) (second : middle.Grows left) :
    s.Grows left :=
  ⟨first.registry.trans second.registry, first.imports.trans second.imports⟩

theorem Records.grows (recorded : s.Records tops left) : s.Grows left := by
  refine ⟨?_, ?_⟩
  · rw [recorded.registry]
    exact .refl _
  · rw [recorded.classes]
    exact OrderedSet.grows_foldl_insert _ _

/-- Outermost classes may be recorded. -/
theorem Records.sound (recorded : s.Records tops left) (sound : s.Sound)
    (topLevel : ∀ top ∈ tops, ∃ package simple,
      s.registry.typeOf top = .ok (.rawClass (.topLevel package simple))) : left.Sound := by
  refine ⟨?_, ?_, fun id member => ?_⟩
  · rw [recorded.registry]
    exact sound.registry
  · rw [recorded.classes]
    exact OrderedSet.wellFormed_foldl_insert _ sound.formed
  · rw [recorded.registry]
    rcases (recorded.mem_iff sound.formed).mp member with old | new
    · exact sound.topLevel id old
    · exact topLevel id new

/-- A session with the imports of a sound one is sound if its registry has grown from there. -/
theorem Sound.of_registry (sound : s.Sound) (registry : left.registry.Sound)
    (growth : s.registry.Grows left.registry) (kept : left.imports = s.imports) : left.Sound := by
  refine ⟨registry, by rw [kept]; exact sound.formed, fun id member => ?_⟩
  rw [kept] at member
  obtain ⟨package, simple, typed⟩ := sound.topLevel id member
  exact ⟨package, simple, sound.registry.typeOf_mono registry growth typed⟩

/-! ### Adding types -/

/-- The outermost classes in a type are top-level classes. -/
theorem topLevel_of_ofClasses {r : Registry} {type : JavaType}
    (classes : r.OfClasses tops type.outermostClasses) : ∀ top ∈ tops, ∃ package simple,
      r.typeOf top = .ok (.rawClass (.topLevel package simple)) := by
  intro top member
  obtain ⟨outermost, inside, typed⟩ := exists_of_mem_left classes member
  obtain ⟨name, _, rfl⟩ := List.mem_map.mp inside
  obtain ⟨package, simple, same⟩ := name.outermost_eq_topLevel
  exact ⟨package, simple, same ▸ typed⟩

/-- **Adding a type records the outermost classes in it.** -/
theorem addImport_ok {type : JavaType} (sound : s.Sound) (typed : s.registry.typeOf id = .ok type) :
    ∃ tops left, s.registry.mentionedClasses id = .ok tops ∧
      s.registry.OfClasses tops type.outermostClasses ∧ addImport id s = .ok () left ∧
      s.Records tops left ∧ left.Sound := by
  obtain ⟨tops, mentioned, classes⟩ := sound.registry.mentionedClasses_ok typed
  have topLevel := topLevel_of_ofClasses classes
  obtain ⟨left, run, recorded⟩ := forM_recordImport_ok (s := s) fun top member => by
    obtain ⟨package, simple, typed⟩ := topLevel top member
    exact ⟨_, Registry.fullName_of_typeOf typed⟩
  refine ⟨tops, left, mentioned, classes, ?_, recorded, recorded.sound sound topLevel⟩
  rw [addImport, bind_of_ok (query_of_ok mentioned)]
  exact run

/-- Adding several types records the outermost classes in each of them, type by type. -/
theorem addImports_ok (sound : s.Sound) (issued : ∀ id ∈ ids, s.registry.Issued id) :
    ∃ lists left, ids.mapM s.registry.mentionedClasses = .ok lists ∧
      addImports ids s = .ok () left ∧ s.Records lists.flatten left ∧ left.Sound := by
  induction ids generalizing s with
  | nil => exact ⟨[], s, rfl, rfl, ⟨rfl, rfl⟩, sound⟩
  | cons id ids ih =>
    obtain ⟨type, typed⟩ := sound.registry.typeOf_total (issued id List.mem_cons_self)
    obtain ⟨tops, middle, mentioned, _, run, recorded, sound'⟩ := addImport_ok sound typed
    obtain ⟨lists, left, others, rest, recorded', final⟩ := ih sound' fun other member => by
      rw [recorded.registry]
      exact issued other (List.mem_cons_of_mem _ member)
    refine ⟨tops :: lists, left, ?_, (bind_of_ok run).trans rest, ?_, final⟩
    · rw [recorded.registry] at others
      rw [List.mapM_cons, mentioned]
      show (ids.mapM s.registry.mentionedClasses >>= _) = _
      rw [others]
      rfl
    · exact recorded.trans recorded'

/-! ### Asking for types -/

/-- The session that an operation leaves behind, whether it succeeds or fails. -/
def leftBy {α : Type} (operation : SessionM α) (s : Session) : Session :=
  match operation s with
  | .ok _ left => left
  | .error _ left => left

/-- The operation leaves the imports alone, whether it succeeds or fails. -/
def KeepsImports {α : Type} (operation : SessionM α) : Prop :=
  ∀ s, (leftBy operation s).imports = s.imports

section Keeping

variable {α β : Type}

theorem keepsImports_bind {first : SessionM α} {next : α → SessionM β}
    (keeps : KeepsImports first) (keeps' : ∀ a, KeepsImports (next a)) :
    KeepsImports (first >>= next) := by
  intro s
  have step := keeps s
  unfold leftBy at step ⊢
  cases run : first s with
  | ok a middle =>
    rw [run] at step
    rw [bind_of_ok run]
    exact (keeps' a middle).trans step
  | error fault middle =>
    rw [run] at step
    rw [bind_of_error run]
    exact step

theorem keepsImports_query (ask : Registry → Except Fault α) : KeepsImports (query ask) := by
  intro s
  unfold leftBy query
  cases ask s.registry <;> rfl

theorem keepsImports_refuse (why : Refusal) : KeepsImports (refuse why : SessionM α) :=
  fun _ => rfl

theorem keepsImports_emit (event : Event) : KeepsImports (emit event) := fun _ => rfl

theorem keepsImports_internName (name : String) : KeepsImports (internName name) := fun _ => rfl

theorem imports_intern (s : Session) (shape : Shape) : (s.intern shape).2.imports = s.imports := by
  rcases s.intern_cases shape with ⟨_, _, run⟩ | ⟨_, run⟩ <;> rw [run]

theorem keepsImports_internShape (shape : Shape) : KeepsImports (internShape shape) :=
  fun s => imports_intern s shape

end Keeping

theorem keepsImports_perform (call : Call) : KeepsImports call.perform := by
  cases call with
  | reference name =>
    show KeepsImports (reference name)
    unfold reference
    split
    · exact keepsImports_bind (keepsImports_internName _) fun _ =>
        keepsImports_bind (keepsImports_internName _) fun _ => keepsImports_internShape _
    · exact keepsImports_bind (keepsImports_emit _) fun _ => keepsImports_refuse _
  | nested outer name =>
    refine keepsImports_bind (keepsImports_query _) fun shape => ?_
    split
    · split
      · exact keepsImports_bind (keepsImports_internName _) fun _ => keepsImports_internShape _
      · exact keepsImports_bind (keepsImports_emit _) fun _ => keepsImports_refuse _
    · exact keepsImports_bind (keepsImports_query _) fun _ => keepsImports_refuse _
  | narrow basis arguments =>
    refine keepsImports_bind (keepsImports_query _) fun shape => ?_
    split
    · split
      · exact keepsImports_refuse _
      · exact keepsImports_bind (keepsImports_query _) fun _ => keepsImports_internShape _
    · exact keepsImports_bind (keepsImports_query _) fun _ => keepsImports_refuse _
  | array element =>
    refine keepsImports_bind (keepsImports_query _) fun _ => ?_
    split
    · exact keepsImports_refuse _
    · exact keepsImports_internShape _

/-- **Requests leave the imports alone.** -/
theorem imports_after (s : Session) (call : Call) : (call.after s).imports = s.imports := by
  have kept := keepsImports_perform call s
  unfold leftBy at kept
  unfold Call.after
  cases run : call.perform s <;> rw [run] at kept <;> exact kept

theorem imports_of_ok {call : Call} (succeeds : call.perform s = .ok id left) :
    left.imports = s.imports := by
  have kept := imports_after s call
  rwa [Call.after, succeeds] at kept

theorem imports_after_calls (s : Session) (calls : List Call) :
    (s.after calls).imports = s.imports := by
  induction calls generalizing s with
  | nil => rfl
  | cons call calls ih => exact (ih (call.after s)).trans (imports_after s call)

/-! ### Runs -/

/-- What is done with a session: a type is asked for, or one or several types are added to the
imports. -/
inductive Action where
  | request (call : Call)
  | add (id : Handle)
  | extend (ids : List Handle)

/-- Types that are added to the imports have issued handles. Requests are given any handles. -/
def Action.Proper (s : Session) : Action → Prop
  | request _ => True
  | add id => s.registry.Issued id
  | extend ids => ∀ id ∈ ids, s.registry.Issued id

/-- The session after an action. -/
def Action.after (s : Session) : Action → Session
  | request call => call.after s
  | add id => leftBy (addImport id) s
  | extend ids => leftBy (addImports ids) s

/-- Proper actions lead from the first session to the second one. -/
inductive Leads (s : Session) : Session → Prop
  | refl : Leads s s
  | step {middle : Session} (first : Leads s middle) (action : Action)
    (proper : action.Proper middle) : Leads s (action.after middle)

/-- Any requests may be made. -/
theorem Leads.requests {middle : Session} (first : s.Leads middle) (calls : List Call) :
    s.Leads (middle.after calls) := by
  induction calls generalizing middle with
  | nil => exact first
  | cons call calls ih => exact ih (first.step (.request call) trivial)

theorem leftBy_of_ok {α : Type} {operation : SessionM α} {a : α}
    (run : operation s = .ok a left) : leftBy operation s = left := by
  unfold leftBy
  rw [run]

/-- Adding types leaves the registry alone. -/
theorem Action.registry_after_extend (sound : s.Sound)
    (proper : ∀ id ∈ ids, s.registry.Issued id) :
    ((Action.extend ids).after s).registry = s.registry := by
  obtain ⟨lists, left, _, run, recorded, _⟩ := addImports_ok sound proper
  rw [Action.after, leftBy_of_ok run]
  exact recorded.registry

/-- **What one action preserves**: the session stays sound and keeps everything. -/
theorem Action.sound_after (sound : s.Sound) {action : Action} (proper : action.Proper s) :
    (action.after s).Sound ∧ s.Grows (action.after s) := by
  cases action with
  | request call =>
    have kept := imports_after s call
    have growth := Call.grows_after s call
    rw [Action.after]
    refine ⟨sound.of_registry (Call.sound_after sound.registry call) growth kept, growth, ?_⟩
    rw [kept]
    exact .refl _
  | add id =>
    obtain ⟨type, typed⟩ := sound.registry.typeOf_total proper
    obtain ⟨tops, left, _, _, run, recorded, sound'⟩ := addImport_ok sound typed
    rw [Action.after, leftBy_of_ok run]
    exact ⟨sound', recorded.grows⟩
  | extend ids =>
    obtain ⟨lists, left, _, run, recorded, sound'⟩ := addImports_ok sound proper
    rw [Action.after, leftBy_of_ok run]
    exact ⟨sound', recorded.grows⟩

/-- **What a run preserves.** -/
theorem Leads.sound (leads : s.Leads left) (sound : s.Sound) : left.Sound ∧ s.Grows left := by
  induction leads with
  | refl => exact ⟨sound, .refl s⟩
  | step first action proper ih =>
    obtain ⟨sound', growth⟩ := Action.sound_after ih.1 proper
    exact ⟨sound', ih.2.trans growth⟩

/-- A new session has no imports. -/
theorem imports_initial : initial.imports = ∅ := by
  have keep : ∀ (shapes : List Shape) (s : Session),
      (shapes.foldl (fun s shape => (s.intern shape).2) s).imports = s.imports := by
    intro shapes
    induction shapes with
    | nil => exact fun s => rfl
    | cons shape shapes ih => exact fun s => (ih _).trans (imports_intern s shape)
  exact keep initialShapes blank

theorem sound_initial : initial.Sound := by
  refine ⟨Registry.sound_initial, ?_, ?_⟩
  · rw [imports_initial]
    exact OrderedSet.wellFormed_empty
  · rw [imports_initial]
    exact nofun

/-! ### The imports at every moment -/

/-- A type that was added stays added: adding it again, however much later, changes nothing. -/
theorem addImport_again {later : Session} {type : JavaType} (sound : s.Sound)
    (typed : s.registry.typeOf id = .ok type)
    (classes : s.registry.OfClasses tops type.outermostClasses)
    (recorded : s.Records tops left) (leads : left.Leads later) :
    addImport id later = .ok () later := by
  have kept := recorded.registry
  obtain ⟨final, growth⟩ := leads.sound (recorded.sound sound (topLevel_of_ofClasses classes))
  have keep : ∀ {id type}, s.registry.typeOf id = .ok type → later.registry.typeOf id = .ok type := by
    rw [← kept]
    exact fun typed => Registry.Sound.typeOf_mono (kept ▸ sound.registry) final.registry
      growth.registry typed
  obtain ⟨tops', mentioned, classes'⟩ := final.registry.mentionedClasses_ok (keep typed)
  -- the later session finds the same handles, as no others have these types
  obtain rfl : tops' = tops := forall₂_injective classes' (classes.imp fun _ _ => keep)
    fun _ _ _ _ => final.registry.typeOf_injective
  rw [addImport, bind_of_ok (query_of_ok mentioned)]
  refine forM_recordImport_of_contains fun top member => ?_
  refine final.formed.contains_iff.mpr (growth.imports.subset ?_)
  exact (recorded.mem_iff sound.formed).mpr (Or.inr member)

/-- The order in which several types are added does not matter for what the imports contain. -/
theorem addImports_perm (sound : s.Sound) (issued : ∀ id ∈ ids, s.registry.Issued id)
    {ids' : List Handle} (permuted : ids.Perm ids') :
    ∃ left left', addImports ids s = .ok () left ∧ addImports ids' s = .ok () left' ∧
      left.imports.toList.Perm left'.imports.toList := by
  obtain ⟨lists, left, mentioned, run, recorded, final⟩ := addImports_ok sound issued
  obtain ⟨lists', left', mentioned', run', recorded', final'⟩ :=
    addImports_ok sound fun id member => issued id (permuted.mem_iff.mpr member)
  obtain ⟨reordered, found, alike⟩ :=
    List.perm_comp_forall₂ permuted.symm (mapM_eq_ok_iff.mp mentioned)
  rw [mapM_eq_ok_iff.mpr found] at mentioned'
  cases mentioned'
  refine ⟨left, left', run, run', (List.perm_ext_iff_of_nodup final.formed.nodup
    final'.formed.nodup).mpr fun id => ?_⟩
  exact (recorded.mem_iff sound.formed).trans
    ((or_congr_right alike.flatten.mem_iff.symm).trans (recorded'.mem_iff sound.formed).symm)

/-- **The imports follow the types that are added.** Take any session that proper actions lead to
from a new one. Adding an issued handle appends the outermost classes of all classes in its type,
those that are new and each at its first occurrence; the registry stays as it is; and from then on
adding the handle again changes nothing. The imports are top-level classes, each once. Several
handles may be added in any order: the imports contain the same classes in the end. -/
theorem imports_follow_types {s : Session} (reached : initial.Leads s) :
    (∀ id, s.registry.Issued id → ∃ type tops left, s.registry.typeOf id = .ok type ∧
      List.Forall₂ (fun top name => s.registry.typeOf top = .ok (.rawClass name)) tops
        (type.classes.map ClassName.outermost) ∧
      addImport id s = .ok () left ∧ left.registry = s.registry ∧
      left.imports.toList =
        s.imports.toList ++ (tops.filter (· ∉ s.imports.toList)).eraseDups ∧
      ∀ later, left.Leads later → addImport id later = .ok () later) ∧
    (∀ id ∈ s.imports.toList, ∃ package simple,
      s.registry.typeOf id = .ok (.rawClass (.topLevel package simple))) ∧
    s.imports.toList.Nodup ∧
    ∀ ids ids' : List Handle, (∀ id ∈ ids, s.registry.Issued id) → ids.Perm ids' →
      ∃ left left', addImports ids s = .ok () left ∧ addImports ids' s = .ok () left' ∧
        left.imports.toList.Perm left'.imports.toList := by
  obtain ⟨sound, _⟩ := reached.sound sound_initial
  refine ⟨fun id issued => ?_, sound.topLevel, sound.formed.nodup,
    fun ids ids' issued => addImports_perm sound issued⟩
  obtain ⟨type, typed⟩ := sound.registry.typeOf_total issued
  obtain ⟨tops, left, _, classes, run, recorded, _⟩ := addImport_ok sound typed
  exact ⟨type, tops, left, typed, classes, run, recorded.registry, recorded.toList sound.formed,
    fun later => addImport_again sound typed classes recorded⟩

/-- A nested class with an array and a boxed primitive as its arguments, in an array. -/
theorem imports_follow_types_nested :
    let s := initial.after [.reference "java.util.Map", .nested ⟨18⟩ "Entry",
      .reference "java.io.File", .array ⟨20⟩, .narrow ⟨19⟩ [⟨5⟩, ⟨21⟩], .array ⟨22⟩]
    initial.Leads s ∧ s.registry.Issued ⟨23⟩ ∧
      ∃ left, addImport ⟨23⟩ s = .ok () left ∧
        left.imports.toList = [⟨18⟩, .ofWrapper .int, ⟨20⟩] ∧ addImport ⟨23⟩ left = .ok () left := by
  intro s
  have types : [⟨23⟩, ⟨18⟩, .ofWrapper .int, ⟨20⟩].map s.registry.typeOf = [
      .ok (.array (.parameterized (.nested (.topLevel "java.util" "Map") "Entry")
        [.rawClass (.topLevel "java.lang" "Integer"),
          .array (.rawClass (.topLevel "java.io" "File"))])),
      .ok (.rawClass (.topLevel "java.util" "Map")),
      .ok (.rawClass (.topLevel "java.lang" "Integer")),
      .ok (.rawClass (.topLevel "java.io" "File"))] := by subst s; cbv
  simp only [List.map_cons, List.map_nil, List.cons.injEq, and_true] at types
  obtain ⟨typed, map, integer, file⟩ := types
  have reached : initial.Leads s := Leads.refl.requests _
  have sound := (reached.sound sound_initial).1
  have issued := sound.registry.issued_of_typeOf typed
  have none : s.imports.toList = [] := by
    rw [show s.imports = initial.imports from imports_after_calls initial _, imports_initial]
    rfl
  obtain ⟨type, tops, left, typed', classes, run, _, added, again⟩ :=
    (imports_follow_types reached).1 ⟨23⟩ issued
  cases typed.symm.trans typed'
  obtain rfl : tops = [⟨18⟩, .ofWrapper .int, ⟨20⟩] :=
    forall₂_injective classes (.cons map (.cons integer (.cons file .nil)))
      fun _ _ _ _ => sound.registry.typeOf_injective
  rw [none] at added
  exact ⟨reached, issued, left, run, added, again left .refl⟩

end Session

end JavaTypes
