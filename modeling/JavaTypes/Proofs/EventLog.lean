/-
**The log tells how a session came about.**

Every handle that is given out and every class that joins the imports is an event, and nothing else
is an event of these sorts. So the log can be played back: its events of the first sort are the
entries of the registry, one after the other, and those of the second sort are the imports.

* `Session.Reports`: what happened while an operation led from one session to another.
* `Call.reports`: a request reports the handle that it gives out, or that it rejected a name.
* `Session.Logged`: the events of a session tell its registry and its imports.
* `Session.Leads.logged`: they do so after any run.
* `CommandLine.log_replays_run`: the log of a command line.
-/

import JavaTypes.Proofs.ImportListing
import JavaTypes.Proofs.LookupAgreement

namespace JavaTypes

/-! ### Sorts of events -/

namespace Event

/-- The handle that was given out, with its shape. -/
def interned? : Event → Option (Handle × Shape)
  | interned id shape => some (id, shape)
  | _ => none

/-- The name of the class that joined the imports. -/
def recorded? : Event → Option String
  | importRecorded fullName => some fullName
  | _ => none

/-- The numbers of a listing: how many names were given and how many classes they need. -/
def listing? : Event → Option (Nat × Nat)
  | listingImports requested collected => some (requested, collected)
  | _ => none

/-- A string was rejected. -/
def IsRejection : Event → Prop
  | classNameRejected _ | nestedNameRejected _ | keywordRejected _ => True
  | interned .. | importRecorded _ | listingImports .. => False

theorem IsRejection.apart {event : Event} (rejection : event.IsRejection) :
    event.interned? = none ∧ event.recorded? = none ∧ event.listing? = none := by
  cases event <;> first | exact ⟨rfl, rfl, rfl⟩ | exact rejection.elim

end Event

/-! ### Entries of a registry -/

namespace Registry

variable {r : Registry} {shape : Shape}

theorem mem_entries_iff {id : Handle} : (id, shape) ∈ r.entries ↔ r.shape? id = some shape := by
  rw [entries, List.mem_mapIdx, shape?, OrderedSet.get?_eq_getElem?]
  constructor
  · rintro ⟨index, inside, same⟩
    cases same
    exact List.getElem?_eq_getElem inside
  · intro known
    obtain ⟨inside, here⟩ := List.getElem?_eq_some_iff.mp known
    exact ⟨id.index, inside, by rw [here]⟩

theorem length_entries (r : Registry) : r.entries.length = r.typeCount := by
  rw [entries, List.length_mapIdx, typeCount, OrderedSet.size_eq_length]

/-- At each place stands the handle of this number with its shape. -/
theorem getElem?_entries (r : Registry) (index : Nat) :
    r.entries[index]? = (r.shape? ⟨index⟩).map fun shape => (⟨index⟩, shape) := by
  rw [entries, List.getElem?_mapIdx, shape?, OrderedSet.get?_eq_getElem?]

/-- A new shape is the last entry. -/
theorem entries_insert (absent : r.types.position? shape = none) :
    entries { r with types := r.types.insert shape } =
      r.entries ++ [(⟨r.typeCount⟩, shape)] := by
  rw [entries, OrderedSet.toList_insert_of_new absent, List.mapIdx_concat,
    ← OrderedSet.size_eq_length]
  rfl

end Registry

/-! ### What requests report -/

namespace Session

/-- **Between the two sessions `happened` happened**: it is what the log has gained, it tells which
entries the registry has gained, and the imports had no part in it. -/
structure Reports (s : Session) (happened : List Event) (left : Session) : Prop where
  events : left.events.toList = s.events.toList ++ happened
  entries : left.registry.entries = s.registry.entries ++ happened.filterMap Event.interned?
  imports : left.imports = s.imports
  unrecorded : happened.filterMap Event.recorded? = []

variable {s left : Session} {shape : Shape}

theorem Reports.refl (s : Session) : s.Reports [] s := by
  constructor <;> simp

/-- An event that gives out no handle and records no class is reported alone. -/
theorem reports_push {event : Event} (apart : event.interned? = none ∧ event.recorded? = none) :
    s.Reports [event] { s with events := s.events.push event } := by
  constructor <;> simp [apart]

/-- Interning reports a new shape, with the handle it gave out. -/
theorem intern_reports (s : Session) (shape : Shape) :
    ∃ happened, s.Reports happened (s.intern shape).2 ∧
      happened.filterMap Event.listing? = [] := by
  rcases s.intern_cases shape with ⟨position, _, run⟩ | ⟨absent, run⟩
  · rw [run]
    exact ⟨[], .refl s, rfl⟩
  · rw [run]
    exact ⟨[.interned ⟨s.registry.typeCount⟩ shape],
      ⟨Array.toList_push, Registry.entries_insert absent, rfl, rfl⟩, rfl⟩

theorem Reports.of_withNames {names : NamePool} {happened : List Event}
    (reports : (s.withNames names).Reports happened left) : s.Reports happened left :=
  ⟨reports.events, reports.entries, reports.imports, reports.unrecorded⟩

theorem query_eq_error {α : Type} {ask : Registry → Except Fault α} {fault : Fault}
    (fails : query ask s = .error fault left) : left = s := by
  cases asked : ask s.registry with
  | ok answer => cases (query_of_ok asked).symm.trans fails
  | error fault' =>
    cases (query_of_error asked).symm.trans fails
    rfl

theorem query_eq_ok {α : Type} {ask : Registry → Except Fault α} {answer : α}
    (succeeds : query ask s = .ok answer left) : left = s := by
  cases asked : ask s.registry with
  | ok answer' =>
    cases (query_of_ok asked).symm.trans succeeds
    rfl
  | error fault => cases (query_of_error asked).symm.trans succeeds

/-- A refusal with the answer of a query leaves the session as it was. -/
theorem left_of_refused {α β : Type} {ask : Registry → Except Fault α} {why : α → Refusal}
    {fault : Fault}
    (fails : (query ask >>= fun answer => (refuse (why answer) : SessionM β)) s =
      .error fault left) : left = s := by
  rcases bind_eq_error fails with unknown | ⟨answer, middle, asked, refused⟩
  · exact query_eq_error unknown
  · cases refused
    exact query_eq_ok asked

end Session

namespace Call

open Session

variable {s left : Session} {fault : Fault}

/-- **What a request that fails leaves**: the session as it was, but perhaps for a rejection. -/
theorem left_of_error {call : Call} (fails : call.perform s = .error fault left) :
    left = s ∨ ∃ event : Event, event.IsRejection ∧
      left = { s with events := s.events.push event } := by
  cases call with
  | reference name =>
    change Session.reference name s = _ at fails
    unfold Session.reference at fails
    split at fails
    · cases fails
    · cases fails
      exact Or.inr ⟨.classNameRejected name, trivial, rfl⟩
  | nested outer name =>
    rcases bind_eq_error fails with unknown | ⟨shape, middle, asked, rest⟩
    · exact Or.inl (query_eq_error unknown)
    · obtain rfl := query_eq_ok asked
      split at rest
      · split at rest
        · cases rest
        · cases rest
          exact Or.inr ⟨.nestedNameRejected name, trivial, rfl⟩
      · exact Or.inl (left_of_refused rest)
  | narrow basis arguments =>
    rcases bind_eq_error fails with unknown | ⟨shape, middle, asked, rest⟩
    · exact Or.inl (query_eq_error unknown)
    · obtain rfl := query_eq_ok asked
      split at rest
      · split at rest
        · cases rest
          exact Or.inl rfl
        · rcases bind_eq_error rest with unfit | ⟨boxed, middle, asked', stored⟩
          · exact Or.inl (query_eq_error unfit)
          · cases stored
      · exact Or.inl (left_of_refused rest)
  | array element =>
    rcases bind_eq_error fails with unknown | ⟨shape, middle, asked, rest⟩
    · exact Or.inl (query_eq_error unknown)
    · obtain rfl := query_eq_ok asked
      split at rest
      · cases rest
        exact Or.inl rfl
      · cases rest

/-- **A request reports what it does.** -/
theorem reports (call : Call) (s : Session) :
    ∃ happened, s.Reports happened (call.after s) ∧ happened.filterMap Event.listing? = [] := by
  unfold after
  cases run : call.perform s with
  | ok id left =>
    obtain ⟨names, shape, _, answer⟩ := requests_of_ok run
    obtain ⟨happened, reported, unlisted⟩ := intern_reports (s.withNames names) shape
    have stored : left = ((s.withNames names).intern shape).2 := congrArg Prod.snd answer
    rw [← stored] at reported
    exact ⟨happened, reported.of_withNames, unlisted⟩
  | error fault left =>
    rcases left_of_error run with rfl | ⟨event, rejection, rfl⟩
    · exact ⟨[], .refl left, rfl⟩
    · have other := rejection.apart
      exact ⟨[event], reports_push ⟨other.1, other.2.1⟩, by simp [other]⟩

end Call

/-! ### What the log tells of a session -/

theorem Registry.Sound.fullName_mono {old new : Registry} (sound : old.Sound) (sound' : new.Sound)
    (grows : old.Grows new) {id : Handle} {name : String} (named : old.fullName id = .ok name) :
    new.fullName id = .ok name := by
  obtain ⟨type, typed, same⟩ := bind_eq_ok_iff.mp named
  rw [fullName_of_typeOf (sound.typeOf_mono sound' grows typed)]
  exact same

namespace Session

/-- **The events tell the registry and the imports.** The handles that were given out are the
entries of the registry, and the classes that were recorded are the imports, both in order. A class
was given its handle before it was recorded. The listings are those that have begun. -/
structure Logged (s : Session) (listings : List (Nat × Nat)) : Prop where
  interned : s.events.toList.filterMap Event.interned? = s.registry.entries
  recorded : List.Forall₂ (fun id name => s.registry.fullName id = .ok name) s.imports.toList
    (s.events.toList.filterMap Event.recorded?)
  preceded : ∀ (i : Nat) (name : String), s.events.toList[i]? = some (Event.importRecorded name) →
    ∃ j < i, ∃ id shape, s.events.toList[j]? = some (Event.interned id shape) ∧
      id ∈ s.imports.toList ∧ s.registry.fullName id = .ok name
  listed : s.events.toList.filterMap Event.listing? = listings

variable {listings : List (Nat × Nat)} {s left : Session} {happened : List Event} {id : Handle}
  {ids tops : List Handle}

/-- Before a class was recorded its handle was given out, whatever happens later. -/
theorem Logged.preceded_before (logged : s.Logged listings) {i : Nat} {name : String}
    (here : s.events.toList[i]? = some (Event.importRecorded name)) (later : List Event) :
    ∃ j < i, ∃ id shape, (s.events.toList ++ later)[j]? = some (Event.interned id shape) ∧
      id ∈ s.imports.toList ∧ s.registry.fullName id = .ok name := by
  obtain ⟨j, before, id, shape, there, member, named⟩ := logged.preceded i name here
  have inside : j < s.events.toList.length := (List.getElem?_eq_some_iff.mp there).1
  exact ⟨j, before, id, shape, (List.getElem?_append_left inside).trans there, member, named⟩

/-- What an operation reports keeps the log, if the imports keep their names. -/
theorem Logged.of_reports (logged : s.Logged listings) (reports : s.Reports happened left)
    (keep : ∀ id ∈ s.imports.toList, ∀ name,
      s.registry.fullName id = .ok name → left.registry.fullName id = .ok name) :
    left.Logged (listings ++ happened.filterMap Event.listing?) := by
  obtain ⟨events, entries, imports, unrecorded⟩ := reports
  refine ⟨?_, ?_, fun i name here => ?_, ?_⟩
  · rw [events, entries, List.filterMap_append, logged.interned]
  · rw [events, imports, List.filterMap_append, unrecorded, List.append_nil]
    exact forall₂_imp_of_mem logged.recorded keep
  · rw [events, List.getElem?_append] at here
    rw [events, imports]
    split at here
    · obtain ⟨j, before, id, shape, there, member, named⟩ := logged.preceded_before here happened
      exact ⟨j, before, id, shape, there, member, keep id member name named⟩
    · cases List.filterMap_eq_nil_iff.mp unrecorded _ (List.mem_of_getElem? here)
  · rw [events, List.filterMap_append, logged.listed]

/-- **A request keeps the log.** -/
theorem Logged.request (logged : s.Logged listings) (sound : s.registry.Sound) (call : Call) :
    (call.after s).Logged listings := by
  obtain ⟨happened, reports, unlisted⟩ := call.reports s
  have logged' := logged.of_reports reports fun id _ name =>
    sound.fullName_mono (Call.sound_after sound call) (Call.grows_after s call)
  rwa [unlisted, List.append_nil] at logged'

/-- **Recording a class keeps the log.** The class is in the registry, so its handle was given out
before. -/
theorem Logged.record (logged : s.Logged listings) (issued : s.registry.Issued id) {name : String}
    (named : s.registry.fullName id = .ok name) (run : recordImport id s = .ok () left) :
    left.Logged listings := by
  by_cases present : s.imports.contains id = true
  · rw [recordImport_of_contains present] at run
    cases run
    exact logged
  · rw [recordImport_of_new present named] at run
    cases run
    have inserted : (s.imports.insert id).toList = s.imports.toList ++ [id] :=
      OrderedSet.toList_insert_of_new (Option.not_isSome_iff_eq_none.mp present)
    obtain ⟨shape, known⟩ := Registry.issued_iff.mp issued
    have given : Event.interned id shape ∈ s.events.toList := by
      have entry := Registry.mem_entries_iff.mpr known
      rw [← logged.interned, List.mem_filterMap] at entry
      obtain ⟨event, member, told⟩ := entry
      cases event <;> cases told
      exact member
    refine ⟨?_, ?_, fun i other here => ?_, ?_⟩
    · simpa [List.filterMap_cons, Event.interned?] using logged.interned
    · simp only [inserted, Array.toList_push, List.filterMap_append]
      exact List.rel_append logged.recorded (.cons named .nil)
    · simp only [Array.toList_push, inserted] at here ⊢
      rw [List.getElem?_append] at here
      split at here
      · obtain ⟨j, before, first, shape, there, member, named⟩ := logged.preceded_before here _
        exact ⟨j, before, first, shape, there, List.mem_append_left _ member, named⟩
      · rename_i last
        obtain ⟨j, inside, there⟩ := List.getElem_of_mem given
        cases List.mem_singleton.mp (List.mem_of_getElem? here)
        refine ⟨j, by omega, id, shape, ?_, by simp, named⟩
        rw [List.getElem?_append_left inside, List.getElem?_eq_getElem inside, there]
    · simpa [List.filterMap_cons, Event.listing?] using logged.listed

/-- Recording several classes keeps the log. The induction is on the classes: the registry stays
what it is from one to the next. -/
theorem Logged.recordEach (logged : s.Logged listings)
    (named : ∀ top ∈ tops, s.registry.Issued top ∧ ∃ name, s.registry.fullName top = .ok name)
    (run : tops.forM recordImport s = .ok () left) : left.Logged listings := by
  induction tops generalizing s with
  | nil =>
    cases run
    exact logged
  | cons top tops ih =>
    obtain ⟨_, middle, first, rest⟩ := bind_eq_ok run
    obtain ⟨issued, name, told⟩ := named top List.mem_cons_self
    obtain ⟨middle', first', kept, _⟩ := recordImport_ok told
    cases first'.symm.trans first
    refine ih (logged.record issued told first) (fun other member => ?_) rest
    rw [kept]
    exact named other (List.mem_cons_of_mem _ member)

/-- **Adding a type keeps the log.** -/
theorem Logged.add (logged : s.Logged listings) (sound : s.Sound) (issued : s.registry.Issued id) :
    ∃ left, addImport id s = .ok () left ∧ left.registry = s.registry ∧ left.Sound ∧
      left.Logged listings := by
  obtain ⟨type, typed⟩ := sound.registry.typeOf_total issued
  obtain ⟨tops, left, mentioned, classes, run, recorded, sound'⟩ := addImport_ok sound typed
  refine ⟨left, run, recorded.registry, sound', ?_⟩
  rw [Session.addImport, bind_of_ok (query_of_ok mentioned)] at run
  refine logged.recordEach (fun top member => ?_) run
  obtain ⟨package, simple, typed⟩ := topLevel_of_ofClasses classes top member
  exact ⟨sound.registry.issued_of_typeOf typed, _, Registry.fullName_of_typeOf typed⟩

theorem Logged.extend (logged : s.Logged listings) (sound : s.Sound)
    (issued : ∀ id ∈ ids, s.registry.Issued id) :
    ∃ left, addImports ids s = .ok () left ∧ left.Logged listings := by
  induction ids generalizing s with
  | nil => exact ⟨s, rfl, logged⟩
  | cons id ids ih =>
    obtain ⟨middle, first, kept, sound', logged'⟩ :=
      logged.add sound (issued id List.mem_cons_self)
    obtain ⟨left, rest, final⟩ := ih logged' sound' fun other member => by
      rw [kept]
      exact issued other (List.mem_cons_of_mem _ member)
    exact ⟨left, (bind_of_ok first).trans rest, final⟩

/-- **What one action preserves.** -/
theorem Logged.action (logged : s.Logged listings) (sound : s.Sound) {action : Action}
    (proper : action.Proper s) : (action.after s).Logged listings := by
  cases action with
  | request call => exact logged.request sound.registry call
  | add id =>
    obtain ⟨left, run, _, _, logged'⟩ := logged.add sound proper
    rw [Action.after, leftBy_of_ok run]
    exact logged'
  | extend ids =>
    obtain ⟨left, run, logged'⟩ := logged.extend sound proper
    rw [Action.after, leftBy_of_ok run]
    exact logged'

/-- **What a run preserves.** -/
theorem Leads.logged (leads : s.Leads left) (sound : s.Sound) (logged : s.Logged listings) :
    left.Logged listings := by
  induction leads with
  | refl => exact logged
  | step first action proper ih => exact ih.action (first.sound sound).1 proper

/-- **The log of a new session** tells the primitives and their wrapper classes. -/
theorem logged_initial : initial.Logged [] := by
  have interned : ∀ (shapes : List Shape) (s : Session), s.imports = ∅ → s.Logged [] →
      (shapes.foldl (fun s shape => (s.intern shape).2) s).Logged [] := by
    intro shapes
    induction shapes with
    | nil => exact fun s _ logged => logged
    | cons shape shapes ih =>
      intro s none logged
      obtain ⟨happened, reports, unlisted⟩ := intern_reports s shape
      have logged' := logged.of_reports reports fun id member => by
        rw [none] at member
        cases member
      rw [unlisted] at logged'
      exact ih _ (reports.imports.trans none) logged'
  exact interned initialShapes blank rfl ⟨rfl, .nil, nofun, rfl⟩

/-- **Every class is recorded once**: top-level classes with the same full name are the same. -/
theorem Sound.nodup_of_named (sound : s.Sound) {names : List String}
    (named : List.Forall₂ (fun id name => s.registry.fullName id = .ok name) s.imports.toList
      names) : names.Nodup := by
  have each := forall₂_imp_of_mem (S := fun id name => s.registry.fullName id = .ok name ∧
    id ∈ s.imports.toList) named fun id member name told => ⟨told, member⟩
  refine pairwise_of_forall₂ each sound.formed.nodup ?_
  rintro id name id' _ ⟨told, member⟩ ⟨told', member'⟩ different rfl
  obtain ⟨package, simple, typed⟩ := sound.topLevel id member
  obtain ⟨package', simple', typed'⟩ := sound.topLevel id' member'
  cases sound.registry.legal_typeOf typed with
  | rawClass legal =>
    cases sound.registry.legal_typeOf typed' with
    | rawClass legal' =>
      rw [Registry.fullName_of_typeOf typed, Except.ok.injEq] at told
      rw [Registry.fullName_of_typeOf typed', Except.ok.injEq] at told'
      have same : ClassName.topLevel package simple = .topLevel package' simple' := by
        rw [← ClassName.named_fullName legal, ← ClassName.named_fullName legal']
        exact congrArg ClassName.named (told.trans told'.symm)
      rw [← same] at typed'
      exact different (sound.registry.typeOf_injective typed typed')

/-! ### Operations that lead on -/

theorem Leads.trans {middle : Session} (first : s.Leads middle) (second : middle.Leads left) :
    s.Leads left := by
  induction second with
  | refl => exact first
  | step _ action proper ih => exact ih.step action proper

section LeadingOn

variable {ε ε' α β : Type}

/-- Proper actions lead to what the operation leaves of a sound session, whether it succeeds or
fails. -/
def LeadsOn (operation : EStateM ε Session α) : Prop :=
  ∀ s : Session, s.Sound → ∃ left, s.Leads left ∧
    ((∃ a, operation s = .ok a left) ∨ ∃ fault, operation s = .error fault left)

theorem LeadsOn.bind {first : EStateM ε Session α} {next : α → EStateM ε Session β}
    (leads : LeadsOn first) (leads' : ∀ a, LeadsOn (next a)) : LeadsOn (first >>= next) := by
  intro s sound
  obtain ⟨middle, reached, ⟨a, run⟩ | ⟨fault, run⟩⟩ := leads s sound
  · obtain ⟨left, further, rest⟩ := leads' a middle (reached.sound sound).1
    rw [bind_of_ok run]
    exact ⟨left, reached.trans further, rest⟩
  · exact ⟨middle, reached, Or.inr ⟨fault, bind_of_error run⟩⟩

theorem LeadsOn.adaptExcept {operation : EStateM ε Session α} (leads : LeadsOn operation)
    (rename : ε → ε') : LeadsOn (operation.adaptExcept rename) := by
  intro s sound
  obtain ⟨left, reached, ⟨a, run⟩ | ⟨fault, run⟩⟩ := leads s sound
  · exact ⟨left, reached, Or.inl ⟨a, adaptExcept_of_ok run⟩⟩
  · exact ⟨left, reached, Or.inr ⟨rename fault, adaptExcept_of_error run⟩⟩

theorem leadsOn_pure (a : α) : LeadsOn (pure a : EStateM ε Session α) :=
  fun s _ => ⟨s, .refl, Or.inl ⟨a, rfl⟩⟩

theorem leadsOn_query (ask : Registry → Except Fault α) : LeadsOn (query ask) := by
  intro s _
  refine ⟨s, .refl, ?_⟩
  cases asked : ask s.registry with
  | ok answer => exact Or.inl ⟨answer, query_of_ok asked⟩
  | error fault => exact Or.inr ⟨fault, query_of_error asked⟩

theorem MadeOfCalls.leadsOn {operation : EStateM ε Session α} (made : MadeOfCalls operation) :
    LeadsOn operation := by
  intro s _
  obtain ⟨calls, run⟩ := made s
  exact ⟨s.after calls, Leads.refl.requests calls, run⟩

theorem leadsOn_forM {step : β → EStateM ε Session Unit} (leads : ∀ b, LeadsOn (step b))
    (bs : List β) : LeadsOn (bs.forM step) := by
  induction bs with
  | nil => exact leadsOn_pure ()
  | cons b bs ih => exact (leads b).bind fun _ => ih

end LeadingOn

end Session

/-! ### The log of a command line -/

namespace CommandLine

open Session

variable {names : List String} {s : Session} {terminal : Bool}

/-- Resolving a name and recording its class are proper actions. -/
theorem leadsOn_importName (name : String) : LeadsOn (importName name) := by
  intro s sound
  by_cases fits : Name.isTypeName name = true
  · obtain ⟨id, middle, resolved, _, _, typed⟩ := resolve_obtains sound.registry fits
    obtain ⟨calls, rfl⟩ := (madeOfCalls_resolve name).left_of_ok resolved
    have reached : s.Leads (s.after calls) := Leads.refl.requests calls
    have sound' := (reached.sound sound).1
    obtain ⟨_, left, _, _, added, _⟩ := addImport_ok sound' typed
    refine ⟨left, ?_, Or.inl ⟨(), importName_of_ok resolved added⟩⟩
    have further := reached.step (.add id) (sound'.registry.issued_of_typeOf typed)
    rwa [Action.after, leftBy_of_ok added] at further
  · obtain ⟨left, refused⟩ := resolve_refused (Bool.eq_false_iff.mpr fits) s
    obtain ⟨calls, rfl⟩ := (madeOfCalls_resolve name).left_of_error refused
    exact ⟨_, Leads.refl.requests calls,
      Or.inr ⟨_, bind_of_error (adaptExcept_of_error refused)⟩⟩

/-- An inspection makes requests. -/
theorem leadsOn_inspect (terminal : Bool) (request : InspectRequest) :
    LeadsOn (request.answer terminal) := by
  refine (request.type.madeOfCalls_resolve.leadsOn.adaptExcept _).bind fun id => ?_
  refine ((leadsOn_query _).adaptExcept _).bind fun report => ?_
  split <;> exact leadsOn_pure _

/-- No more classes are collected than names are given. -/
theorem Collected.length_le (collected : Collected names s) :
    s.imports.toList.length ≤ names.length := by
  obtain ⟨name, _, distinct, members⟩ := collected.exists_named
  rw [← List.length_map name]
  exact (distinct.subperm fun given member => ((members given).mp member).1).length_le

/-- The session in which a request ends. -/
def Request.session (terminal : Bool) (request : Request) : Session :=
  match (request.answer terminal).run Session.initial with
  | .ok _ left => left
  | .error _ left => left

/-- The log of a run has the events of this session, before the error if there is one. -/
theorem Request.stderr_eq (terminal : Bool) (request : Request) :
    ∃ message, (request.run terminal).stderr =
      Event.log request.verbosity (request.session terminal).events.toList ++
        (if (request.run terminal).exitCode = 0 then "" else "error: " ++ message ++ "\n") := by
  unfold Request.run Request.session
  cases (request.answer terminal).run Session.initial with
  | ok text left => exact ⟨"", by simp⟩
  | error message left => exact ⟨message, by simp [String.append_assoc]⟩

theorem Request.session_of_ok (request : Request) {text : String} {left : Session}
    (run : request.answer terminal Session.initial = .ok text left) :
    request.session terminal = left ∧ (request.run terminal).exitCode = 0 := by
  unfold Request.session Request.run EStateM.run
  rw [run]
  exact ⟨rfl, rfl⟩

theorem Request.session_of_error (request : Request) {message : String} {left : Session}
    (run : request.answer terminal Session.initial = .error message left) :
    request.session terminal = left ∧ (request.run terminal).exitCode = 1 := by
  unfold Request.session Request.run EStateM.run
  rw [run]
  exact ⟨rfl, rfl⟩

/-- Proper actions lead to the session in which an inspection ends. -/
theorem leads_inspect (terminal : Bool) (request : InspectRequest) :
    Session.initial.Leads ((Request.inspect request).session terminal) := by
  obtain ⟨left, reached, ⟨text, run⟩ | ⟨message, run⟩⟩ :=
    leadsOn_inspect terminal request Session.initial sound_initial
  · rwa [(Request.session_of_ok (.inspect request) run).1]
  · rwa [(Request.session_of_error (.inspect request) run).1]

/-- **How an import listing ends.** If some name stands for no type, proper actions lead to the
session. Otherwise proper actions collect the classes, of which there are no more than names, and
then the listing begins. -/
theorem imports_session_cases (terminal : Bool) (request : ImportsRequest) :
    (request.names.all Name.isTypeName = false ∧
      Session.initial.Leads ((Request.imports request).session terminal) ∧
      ((Request.imports request).run terminal).exitCode = 1) ∨
    (request.names.all Name.isTypeName = true ∧
      ((Request.imports request).run terminal).exitCode = 0 ∧
      ∃ left : Session, Session.initial.Leads left ∧
        left.imports.toList.length ≤ request.names.length ∧
        (Request.imports request).session terminal = { left with
          events := left.events.push
            (.listingImports request.names.length left.imports.toList.length) }) := by
  obtain ⟨left, reached, ended⟩ :=
    leadsOn_forM leadsOn_importName request.names Session.initial sound_initial
  rcases importNames_cases request.names with
    ⟨name, first, _, failed⟩ | ⟨none, _, succeeded, collected⟩
  · rcases ended with ⟨_, run⟩ | ⟨_, run⟩
    · cases failed.symm.trans run
    · cases failed.symm.trans run
      obtain ⟨session, code⟩ :=
        Request.session_of_error (.imports request) (bind_of_error failed)
      have unfit : request.names.all Name.isTypeName = false := by
        rw [List.all_eq_false]
        exact ⟨name, List.mem_of_find?_eq_some first, by simpa using List.find?_some first⟩
      exact Or.inl ⟨unfit, session ▸ reached, code⟩
  · rcases ended with ⟨_, run⟩ | ⟨_, run⟩
    · cases succeeded.symm.trans run
      have sound := collected.session_sound
      obtain ⟨order, listed, ascending, inside⟩ := sound.listed_ok
        { package := request.package, implicitJavaLang := request.implicitJavaLang }
      obtain ⟨names, _, _, rendered⟩ :=
        sound.render_ok listed ascending fun id member => ((inside id).mp member).1
      have answer : (Request.imports request).answer terminal Session.initial =
          .ok (Imports.block (.ofBool (request.color.colored terminal)) names) { left with
            events := left.events.push
              (.listingImports request.names.length left.imports.size) } := by
        refine (bind_of_ok succeeded).trans ?_
        refine (bind_of_ok (rfl : (get : AnswerM Session) left = .ok left left)).trans ?_
        exact (bind_of_ok rfl).trans (adaptExcept_of_ok (query_of_ok (rendered _)))
      obtain ⟨session, code⟩ := Request.session_of_ok (.imports request) answer
      have size : left.imports.size = left.imports.toList.length := OrderedSet.size_eq_length _
      refine Or.inr ⟨by simpa using none, code, left, reached, collected.length_le, ?_⟩
      rw [session, size]
    · cases succeeded.symm.trans run

/-- **How a request ends.** The log tells the registry and the imports. An import listing whose
names all stand for types is the last event and the only one of its sort; otherwise there is
none. -/
theorem Request.session_logged (terminal : Bool) (request : Request) :
    ∃ listings, (request.session terminal).Logged listings ∧ (request.session terminal).Sound ∧
      ∀ imports, request = .imports imports →
        if imports.names.all Name.isTypeName then
          (request.run terminal).exitCode = 0 ∧
            (request.session terminal).imports.toList.length ≤ imports.names.length ∧
            ∃ front, (request.session terminal).events.toList = front ++
              [.listingImports imports.names.length
                (request.session terminal).imports.toList.length] ∧
              front.filterMap Event.listing? = []
        else
          (request.run terminal).exitCode = 1 ∧ listings = [] := by
  cases request with
  | inspect request =>
    have reached := leads_inspect terminal request
    exact ⟨[], reached.logged sound_initial logged_initial, (reached.sound sound_initial).1, nofun⟩
  | imports request =>
    rcases imports_session_cases terminal request with
      ⟨unfit, reached, code⟩ | ⟨fit, code, left, reached, few, ended⟩
    · refine ⟨[], reached.logged sound_initial logged_initial,
        (reached.sound sound_initial).1, ?_⟩
      rintro _ ⟨⟩
      rw [unfit]
      exact ⟨code, rfl⟩
    · -- the listing begins after the last action, so the log is followed up to that event
      have logged := reached.logged sound_initial logged_initial
      have sound := (reached.sound sound_initial).1
      rw [ended]
      refine ⟨_, logged.of_reports (reports_push ⟨rfl, rfl⟩) fun _ _ _ named => named,
        ⟨sound.registry, sound.formed, sound.topLevel⟩, ?_⟩
      rintro _ ⟨⟩
      rw [fit]
      exact ⟨code, few, _, Array.toList_push, logged.listed⟩

/-- **The log replays the run.** At two steps of verbosity or more, the log holds every event, and
behind them stands the error if there is one.

* The handles that were given out are all those of the registry at the end, in order, with their
  shapes, also if the run fails.
* The classes that were recorded are the imports at the end, in order, each once, and each of them
  was given its handle before.
* If every name of an import listing stands for a type, the listing begins last, with the numbers of
  names and of recorded classes, of which there are no more. Otherwise no listing begins. -/
theorem log_replays_run (terminal : Bool) {arguments : List String} {request : Request}
    (accepted : Request.parse arguments = .ok request) (verbose : 2 ≤ request.verbosity) :
    let s := request.session terminal
    let outcome := run terminal arguments
    let events := s.events.toList
    let interned := events.filterMap Event.interned?
    let recorded := events.filterMap Event.recorded?
    let listings := events.filterMap Event.listing?
    (∃ message, outcome.stderr = String.join (events.map Event.line) ++
      (if outcome.exitCode = 0 then "" else "error: " ++ message ++ "\n")) ∧
    (interned.length = s.registry.typeCount ∧ ∀ index,
      interned[index]? = (s.registry.shape? ⟨index⟩).map fun shape => (⟨index⟩, shape)) ∧
    (List.Forall₂ (fun id name => s.registry.fullName id = .ok name) s.imports.toList recorded ∧
      recorded.Nodup ∧
      ∀ (i : Nat) name, events[i]? = some (Event.importRecorded name) →
        ∃ j < i, ∃ id shape, events[j]? = some (Event.interned id shape) ∧
          id ∈ s.imports.toList ∧ s.registry.fullName id = .ok name) ∧
    ∀ imports, request = .imports imports →
      if imports.names.all Name.isTypeName then
        outcome.exitCode = 0 ∧ recorded.length ≤ imports.names.length ∧
          ∃ front, events = front ++ [.listingImports imports.names.length recorded.length] ∧
            front.filterMap Event.listing? = []
      else
        outcome.exitCode = 1 ∧ listings = [] := by
  have same : run terminal arguments = request.run terminal := by
    unfold run
    rw [accepted]
  obtain ⟨listings, logged, sound, listed⟩ := request.session_logged terminal
  have length := logged.recorded.length_eq
  rw [same]
  refine ⟨?_, ⟨?_, fun index => ?_⟩,
    ⟨logged.recorded, sound.nodup_of_named logged.recorded, logged.preceded⟩, ?_⟩
  · rw [← Event.log_of_verbose verbose]
    exact request.stderr_eq terminal
  · rw [logged.interned, Registry.length_entries]
  · rw [logged.interned, Registry.getElem?_entries]
  · intro imports chosen
    rw [← length, logged.listed]
    exact listed imports chosen

/-- A name given twice and a primitive between the two: the end of the log, behind the lines for the
types of a new session. -/
theorem log_replays_run_repeated :
    ∃ request, Request.parse ["imports", "java.util.Map", "-vv", "int", "java.util.Map"] =
        .ok request ∧ 2 ≤ request.verbosity ∧
      (run false ["imports", "java.util.Map", "-vv", "int", "java.util.Map"]).exitCode = 0 ∧
      ((request.session false).events.toList.filterMap Event.interned?).length =
        (request.session false).registry.typeCount ∧
      (run false ["imports", "java.util.Map", "-vv", "int", "java.util.Map"]).stderr =
        String.join (((request.session false).events.toList.take 18).map Event.line) ++
          ("TRACE interned type id=18 kind=Reference(Class \x7b package: NameId(10), " ++
              "outer: None, name: NameId(11) \x7d)\n" ++
            "TRACE recorded import import=java.util.Map\n" ++
            "DEBUG rendering imports requested=3 collected=1\n") := by
  have accepted : Request.parse ["imports", "java.util.Map", "-vv", "int", "java.util.Map"] =
      .ok (.imports ⟨["java.util.Map", "int", "java.util.Map"], none, true, .auto, 2⟩) := by
    decide
  obtain ⟨⟨message, stderr⟩, ⟨interned, _⟩, _, listed⟩ :=
    log_replays_run false accepted (by decide)
  have fit : ["java.util.Map", "int", "java.util.Map"].all Name.isTypeName = true := by
    decide
  have listing := listed _ rfl
  rw [fit] at listing
  have behind : (Request.session false (.imports ⟨["java.util.Map", "int", "java.util.Map"], none,
      true, .auto, 2⟩)).events.toList.drop 18 = [.interned ⟨18⟩ (.rawClass ⟨10⟩ none ⟨11⟩),
        .importRecorded "java.util.Map", .listingImports 3 1] := by cbv
  have parts : ∀ events : List Event, String.join (events.map Event.line) =
      String.join ((events.take 18).map Event.line) ++
        String.join ((events.drop 18).map Event.line) := fun events => by
    rw [← String.join_append, ← List.map_append, List.take_append_drop]
  refine ⟨_, accepted, by decide, listing.1, interned, ?_⟩
  rw [stderr, listing.1, if_pos rfl, String.append_empty, parts, behind]
  refine congrArg (_ ++ ·) ?_
  decide +kernel

end CommandLine

end JavaTypes
