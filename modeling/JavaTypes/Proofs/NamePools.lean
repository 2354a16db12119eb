/-
**Pools of names over whole runs.**

Pools of names live side by side, and each is used on its own: names are interned, looked for, and
read back by number, and a pool may be copied and both used further. All that a pool can tell is
told by the list of the names that were interned in it, in order and as often as they were: the
number of a name is its place among the distinct ones, counted at their first occurrence. The hash
map inside a pool finds the same by another way.

* `NamePool.Step`, `NamePool.run`: what is done with several stores of names, and what is answered.
* `NamePool.pooled`, `NamePool.listed`: stores that are pools, and stores that are mere lists.
* `NamePool.run_getElem?`: a store after a run is what its own steps made of it.
* `NamePool.Holds`: a pool and a list that tell the same; `NamePool.holds_run` keeps them so.
* `NamePool.names_numbered`: every run on pools, against the same run on lists.
-/

import JavaTypes.Proofs.Growth
import JavaTypes.Registry
import Mathlib.Data.List.Forall2

namespace JavaTypes

namespace NamePool

/-! ### Stores of names -/

/-- The operations on a store of names, whatever the store is made of. -/
structure Operations (σ : Type) where
  /-- The number of a name, new or known, and the store with the name in it. -/
  intern : σ → String → NameId × σ
  /-- The number of a name that is in the store. -/
  find? : σ → String → Option NameId
  /-- The name with a number that the store gave out; asking for another one is a fault. -/
  text? : σ → NameId → Option String

/-- The store with several names in it. -/
def Operations.internAll {σ : Type} (ops : Operations σ) (store : σ) (names : List String) : σ :=
  names.foldl (fun store name => (ops.intern store name).2) store

/-- The operations on a pool. -/
def pooled : Operations NamePool := ⟨intern, find?, text?⟩

/-- The operations on the list of all names that were interned, in order and as often as they
were. The numbers count the distinct ones. -/
def listed : Operations (List String) where
  intern names name := (⟨(names ++ [name]).eraseDups.idxOf name⟩, names ++ [name])
  find? names name := if name ∈ names then some ⟨names.eraseDups.idxOf name⟩ else none
  text? names id := names.eraseDups[id.index]?

/-- What is done with one of several stores, which are known by their places. -/
inductive Step where
  | intern (place : Nat) (name : String)
  | find (place : Nat) (name : String)
  | text (place : Nat) (id : NameId)
  /-- The copy stands behind all stores. -/
  | copy (place : Nat)
  deriving DecidableEq, Repr

/-- What a step answers. -/
inductive Answer where
  | number (id : NameId)
  | found (id : Option NameId)
  | text (name : Option String)
  | place (place : Nat)
  deriving DecidableEq, Repr

namespace Step

/-- Whether the step interns or copies. -/
def changes : Step → Bool
  | intern .. | copy _ => true
  | find .. | text .. => false

/-- The name that the step interns in the store at the place. -/
def internedAt? (place : Nat) : Step → Option String
  | intern place' name => if place' = place then some name else none
  | find .. | text .. | copy _ => none

end Step

/-- The names that steps intern in the store at the place. -/
def internedAt (place : Nat) (steps : List Step) : List String :=
  steps.filterMap (Step.internedAt? place)

section Run

variable {σ : Type} (ops : Operations σ)

/-- The answer of a step, if there is a store at its place, and the stores that it leaves. -/
def Step.perform (stores : List σ) : Step → Option Answer × List σ
  | intern place name =>
    (stores[place]?.map fun store => .number (ops.intern store name).1,
      stores.modify place fun store => (ops.intern store name).2)
  | find place name => (stores[place]?.map fun store => .found (ops.find? store name), stores)
  | text place id => (stores[place]?.map fun store => .text (ops.text? store id), stores)
  | copy place =>
    (stores[place]?.map fun _ => .place stores.length, stores ++ stores[place]?.toList)

/-- The answers of one step after the other, and the stores in the end. -/
def run (stores : List σ) : List Step → List (Option Answer) × List σ
  | [] => ([], stores)
  | step :: steps =>
    let (answer, next) := step.perform ops stores
    let (answers, left) := run next steps
    (answer :: answers, left)

/-- **Looking for names and reading them back leaves no trace**: the stores in the end are those of
the other steps alone. -/
theorem run_filter_changes (stores : List σ) (steps : List Step) :
    (run ops stores (steps.filter Step.changes)).2 = (run ops stores steps).2 := by
  induction steps generalizing stores with
  | nil => rfl
  | cons step steps ih =>
    cases step with
    | intern place name | copy place => exact ih _
    | find place name | text place id => exact ih stores

/-- A step changes a store only by the name that it interns in it. -/
theorem perform_getElem? {stores : List σ} {place : Nat} {store : σ}
    (here : stores[place]? = some store) (step : Step) :
    (step.perform ops stores).2[place]? =
      some (ops.internAll store (step.internedAt? place).toList) := by
  cases step with
  | intern place' name =>
    show (stores.modify place' _)[place]? = _
    rw [List.getElem?_modify, here]
    by_cases same : place' = place
    · rw [Step.internedAt?, if_pos same]
      simp [same, Operations.internAll]
    · rw [Step.internedAt?, if_neg same]
      simp [same, Operations.internAll]
  | find place' name | text place' id => exact here
  | copy place' =>
    obtain ⟨inside, _⟩ := List.getElem?_eq_some_iff.mp here
    show (stores ++ _)[place]? = _
    rw [List.getElem?_append_left inside]
    exact here

/-- **A store after a run is what its own steps made of it**, whatever was done with the others. -/
theorem run_getElem? {stores : List σ} {place : Nat} {store : σ}
    (here : stores[place]? = some store) (steps : List Step) :
    (run ops stores steps).2[place]? = some (ops.internAll store (internedAt place steps)) := by
  induction steps generalizing stores store with
  | nil => exact here
  | cons step steps ih =>
    refine (ih (perform_getElem? ops here step)).trans ?_
    rw [internedAt, internedAt, List.filterMap_cons]
    cases step.internedAt? place <;> rfl

/-- A copy begins as what it was copied from, and goes on by its own steps. -/
theorem run_copy_getElem? {stores : List σ} {place : Nat} {store : σ}
    (here : stores[place]? = some store) (steps : List Step) :
    (run ops stores (.copy place :: steps)).2[stores.length]? =
      some (ops.internAll store (internedAt stores.length steps)) := by
  refine run_getElem? ops ?_ steps
  show (stores ++ stores[place]?.toList)[stores.length]? = _
  rw [here]
  exact List.getElem?_concat_length

end Run

/-! ### One pool and one list -/

/-- **The pool has the distinct names of the list**, each at its number. -/
structure Holds (pool : NamePool) (names : List String) : Prop where
  formed : pool.WellFormed
  toList_eq : pool.toList = names.eraseDups

namespace Holds

variable {pool : NamePool} {names : List String} {name : String} {id : NameId}

theorem empty : Holds ∅ [] := ⟨OrderedSet.wellFormed_empty, rfl⟩

theorem text?_eq (holds : Holds pool names) (id : NameId) :
    pool.text? id = names.eraseDups[id.index]? := by
  rw [text?, OrderedSet.get?_eq_getElem?, holds.toList_eq]

/-- A number without a name is one that there are not enough names for. -/
theorem text?_eq_none_iff (holds : Holds pool names) :
    pool.text? id = none ↔ names.eraseDups.length ≤ id.index := by
  rw [holds.text?_eq, List.getElem?_eq_none_iff]

/-- A name is found where it stands. -/
theorem find?_eq_some_iff (holds : Holds pool names) :
    pool.find? name = some id ↔ pool.text? id = some name := by
  rw [find?, text?, ← holds.formed, Option.map_eq_some_iff]
  constructor
  · rintro ⟨position, found, rfl⟩
    exact found
  · exact fun found => ⟨id.index, found, rfl⟩

theorem find?_eq_none_iff (holds : Holds pool names) : pool.find? name = none ↔ name ∉ names := by
  rw [find?, Option.map_eq_none_iff, holds.formed.position?_eq_none_iff, holds.toList_eq,
    List.mem_eraseDups]

/-- The number of a name is its place among the distinct names. -/
theorem index_of_text? (holds : Holds pool names) (known : pool.text? id = some name) :
    id = ⟨names.eraseDups.idxOf name⟩ := by
  rw [holds.text?_eq] at known
  obtain ⟨inside, rfl⟩ := List.getElem?_eq_some_iff.mp known
  have different : names.eraseDups.Nodup := holds.toList_eq ▸ holds.formed.nodup
  rw [different.idxOf_getElem id.index inside]

theorem find?_eq (holds : Holds pool names) (name : String) :
    pool.find? name = listed.find? names name := by
  show _ = if name ∈ names then some (NameId.mk (names.eraseDups.idxOf name)) else none
  by_cases member : name ∈ names
  · obtain ⟨id, found⟩ := Option.ne_none_iff_exists'.mp fun absent =>
      holds.find?_eq_none_iff.mp absent member
    rw [if_pos member, found, holds.index_of_text? (holds.find?_eq_some_iff.mp found)]
  · rw [if_neg member, holds.find?_eq_none_iff.mpr member]

/-- **Interning a name adds it to both.** -/
theorem intern (holds : Holds pool names) (name : String) :
    Holds (pool.intern name).2 (names ++ [name]) := by
  refine ⟨wellFormed_intern holds.formed name, ?_⟩
  rw [List.eraseDups_append, ← holds.toList_eq]
  show (OrderedSet.intern pool name).2.toList = _
  rcases OrderedSet.intern_cases pool name with ⟨position, found, run⟩ | ⟨absent, run⟩
  · have member : name ∈ names := by
      by_contra outside
      rw [← holds.find?_eq_none_iff, find?, found] at outside
      cases outside
    rw [run]
    simp [List.removeAll, member]
  · have outside : name ∉ names := by
      rw [← holds.find?_eq_none_iff, find?, absent]
      rfl
    rw [run, OrderedSet.toList_insert_of_new absent]
    simp [List.removeAll, outside, List.eraseDups_cons]

theorem intern_fst (holds : Holds pool names) (name : String) :
    (pool.intern name).1 = (listed.intern names name).1 :=
  (holds.intern name).index_of_text? (text?_intern holds.formed name)

theorem internAll (holds : Holds pool names) (more : List String) :
    Holds (pooled.internAll pool more) (names ++ more) := by
  induction more generalizing pool names with
  | nil => rwa [List.append_nil]
  | cons name more ih =>
    have rest := ih (holds.intern name)
    rwa [List.append_assoc] at rest

end Holds

/-- A pool that names are interned in has grown. -/
theorem grows_internAll (pool : NamePool) (names : List String) :
    pool.Grows (pooled.internAll pool names) := by
  induction names generalizing pool with
  | nil => exact .refl pool
  | cons name names ih => exact (grows_intern pool name).trans (ih (pool.intern name).2)

/-! ### Several pools and lists -/

section Several

variable {pools : List NamePool} {lists : List (List String)}

/-- What is told alike of related stores is told alike of those at one place. -/
theorem map_getElem?_eq {α β γ : Type} {R : α → β → Prop} {as : List α} {bs : List β} {f : α → γ}
    {g : β → γ} (each : List.Forall₂ R as bs) (alike : ∀ a b, R a b → f a = g b) (i : Nat) :
    as[i]?.map f = bs[i]?.map g := by
  induction each generalizing i with
  | nil => rfl
  | cons first rest ih =>
    cases i with
    | zero => exact congrArg some (alike _ _ first)
    | succ i => exact ih i

theorem forall₂_modify {α β : Type} {R : α → β → Prop} {as : List α} {bs : List β} {f : α → α}
    {g : β → β} (each : List.Forall₂ R as bs) (keeps : ∀ a b, R a b → R (f a) (g b)) (i : Nat) :
    List.Forall₂ R (as.modify i f) (bs.modify i g) := by
  induction each generalizing i with
  | nil => simp
  | cons first rest ih =>
    cases i with
    | zero => exact .cons (keeps _ _ first) rest
    | succ i => exact .cons first (ih i)

theorem forall₂_getElem?_toList {α β : Type} {R : α → β → Prop} {as : List α} {bs : List β}
    (each : List.Forall₂ R as bs) (i : Nat) : List.Forall₂ R as[i]?.toList bs[i]?.toList := by
  induction each generalizing i with
  | nil => exact .nil
  | cons first rest ih =>
    cases i with
    | zero => exact .cons first .nil
    | succ i => exact ih i

/-- **Steps answer alike** on pools and on lists that tell the same, and keep them so. -/
theorem holds_perform (each : List.Forall₂ Holds pools lists) (step : Step) :
    (step.perform pooled pools).1 = (step.perform listed lists).1 ∧
      List.Forall₂ Holds (step.perform pooled pools).2 (step.perform listed lists).2 := by
  cases step with
  | intern place name =>
    exact ⟨map_getElem?_eq each (fun _ _ holds => congrArg Answer.number (holds.intern_fst name))
      place, forall₂_modify each (fun _ _ holds => holds.intern name) place⟩
  | find place name =>
    exact ⟨map_getElem?_eq each (fun _ _ holds => congrArg Answer.found (holds.find?_eq name))
      place, each⟩
  | text place id =>
    exact ⟨map_getElem?_eq each (fun _ _ holds => congrArg Answer.text (holds.text?_eq id))
      place, each⟩
  | copy place =>
    exact ⟨map_getElem?_eq each (fun _ _ _ => congrArg Answer.place each.length_eq) place,
      List.rel_append each (forall₂_getElem?_toList each place)⟩

/-- **So do whole runs.** -/
theorem holds_run (each : List.Forall₂ Holds pools lists) (steps : List Step) :
    (run pooled pools steps).1 = (run listed lists steps).1 ∧
      List.Forall₂ Holds (run pooled pools steps).2 (run listed lists steps).2 := by
  induction steps generalizing pools lists with
  | nil => exact ⟨rfl, each⟩
  | cons step steps ih =>
    obtain ⟨answer, next⟩ := holds_perform each step
    obtain ⟨answers, left⟩ := ih next
    exact ⟨congr (congrArg List.cons answer) answers, left⟩

end Several

/-! ### What pools tell -/

/-- **What a pool tells in which these names were interned.** The number of a name is its place
among the distinct ones; a number is found for a name exactly if the name is read back from it,
and none exactly for a name that was never interned; and a number from which no name is read back
is one that there are not enough names for. -/
structure Tells (pool : NamePool) (names : List String) : Prop where
  toList_eq : pool.toList = names.eraseDups
  intern_eq : ∀ name, (pool.intern name).1 = ⟨(names ++ [name]).eraseDups.idxOf name⟩
  toList_intern : ∀ name, (pool.intern name).2.toList = (names ++ [name]).eraseDups
  found : ∀ name id, pool.find? name = some id ↔ pool.text? id = some name
  missing : ∀ name, pool.find? name = none ↔ name ∉ names
  text?_eq : ∀ id, pool.text? id = names.eraseDups[id.index]?
  /-- A registry with these names fails on the numbers behind the distinct ones. -/
  fault : ∀ types id, (Registry.mk pool types).nameText id = .error (.unissuedName id) ↔
    names.eraseDups.length ≤ id.index

/-- **The pool `later` keeps what `pool` gave out**: every number is that of its name as before, and
interning the name again answers with it and changes nothing. -/
def Keeps (pool later : NamePool) : Prop :=
  ∀ id name, pool.text? id = some name →
    later.text? id = some name ∧ later.find? name = some id ∧ later.intern name = (id, later)

section Telling

variable {pool : NamePool} {names : List String}

theorem Holds.tells (holds : Holds pool names) : Tells pool names where
  toList_eq := holds.toList_eq
  intern_eq := holds.intern_fst
  toList_intern name := (holds.intern name).toList_eq
  found _ _ := holds.find?_eq_some_iff
  missing _ := holds.find?_eq_none_iff
  text?_eq := holds.text?_eq
  fault types id := by
    rw [← holds.text?_eq_none_iff, Registry.nameText]
    cases pool.text? id with
    | none => exact ⟨fun _ => rfl, fun _ => rfl⟩
    | some name => exact ⟨nofun, nofun⟩

theorem Holds.keeps (holds : Holds pool names) (more : List String) :
    Keeps pool (pooled.internAll pool more) := by
  intro id name known
  have later := holds.internAll more
  have kept := text?_of_grows (grows_internAll pool more) known
  exact ⟨kept, later.find?_eq_some_iff.mpr kept, intern_of_text? later.formed kept⟩

end Telling

/-- **Names are numbered in order, for good.** Take any run of steps that begins with one empty
pool. It answers as the same run on lists does; its steps that look for names or read them back
could be left out; and each pool in the end tells what the list at its place does. However the run
goes on, the pool at a place comes to tell what it told and what is interned at the place from then
on, and keeps the numbers that it gave out; so does a copy of it, for which only the names interned
in the copy count. A name that is interned now has the same number at every later point. -/
theorem names_numbered (steps : List Step) :
    let pools := (run pooled [∅] steps).2
    let lists := (run listed [[]] steps).2
    (run pooled [∅] steps).1 = (run listed [[]] steps).1 ∧
    (run pooled [∅] (steps.filter Step.changes)).2 = pools ∧
    List.Forall₂ Tells pools lists ∧
    ∀ place pool names, pools[place]? = some pool → lists[place]? = some names → ∀ more,
      (∃ later, (run pooled pools more).2[place]? = some later ∧
        Tells later (names ++ internedAt place more) ∧ Keeps pool later) ∧
      (∃ copied, (run pooled pools (.copy place :: more)).2[pools.length]? = some copied ∧
        Tells copied (names ++ internedAt pools.length more) ∧ Keeps pool copied) ∧
      ∀ name, ∃ later, (run pooled pools (.intern place name :: more)).2[place]? = some later ∧
        later.intern name = ((pool.intern name).1, later) := by
  intro pools lists
  obtain ⟨answers, each⟩ := holds_run (.cons .empty .nil) steps
  refine ⟨answers, run_filter_changes pooled [∅] steps, each.imp fun _ _ holds => holds.tells,
    fun place pool names here there more => ?_⟩
  have holds : Holds pool names := by
    have both := forall₂_getElem?_toList each place
    rw [here, there] at both
    cases both with
    | cons first _ => exact first
  refine ⟨⟨_, run_getElem? pooled here more, (holds.internAll _).tells, holds.keeps _⟩,
    ⟨_, run_copy_getElem? pooled here more, (holds.internAll _).tells, holds.keeps _⟩,
    fun name => ⟨_, run_getElem? pooled here (.intern place name :: more), ?_⟩⟩
  have own : internedAt place (.intern place name :: more) = name :: internedAt place more := by
    simp [internedAt, Step.internedAt?]
  rw [own]
  exact ((holds.intern name).keeps _ _ name (text?_intern holds.formed name)).2.2

/-- A pool with the empty name is copied. The copy and its original go on with names of their own,
and the copy keeps its numbers when the same names come in another order. -/
theorem names_numbered_copied :
    let pools := (run pooled [∅] [.intern 0 "", .intern 0 "Map", .find 0 "Set", .copy 0,
      .intern 1 "List", .intern 0 "Set", .intern 1 ""]).2
    ∃ pool later, pools[1]? = some pool ∧ Tells pool ["", "Map", "List", ""] ∧
      (run pooled pools [.intern 0 "List", .intern 1 "Set", .intern 1 "Map"]).2[1]? = some later ∧
      Tells later ["", "Map", "List", "", "Set", "Map"] ∧ Keeps pool later := by
  intro pools
  obtain ⟨_, _, each, onward⟩ := names_numbered [.intern 0 "", .intern 0 "Map", .find 0 "Set",
    .copy 0, .intern 1 "List", .intern 0 "Set", .intern 1 ""]
  obtain ⟨original, others, _, rest, first⟩ := List.forall₂_cons_right_iff.mp each
  obtain ⟨pool, _, tells, _, second⟩ := List.forall₂_cons_right_iff.mp rest
  have here : pools[1]? = some pool := by
    rw [show pools = original :: others from first, second]
    rfl
  obtain ⟨⟨later, there, tells', keeps⟩, _⟩ := onward 1 pool _ here rfl
    [.intern 0 "List", .intern 1 "Set", .intern 1 "Map"]
  exact ⟨pool, later, here, tells, there, tells', keeps⟩

end NamePool

end JavaTypes
