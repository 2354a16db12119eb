/-
**Handles that were never issued.**

A handle that the registry never gave out makes every operation fail that looks it up, with a fault
that names it, and the session stays as it is. Operations look their handles up from left to right,
so of several such handles the first is named. Only a request to apply a class may be refused before
it comes to one: if the class that is to be applied is none, or if `void` stands further left.

* `Query`, `Operation`: all that is given handles, single queries, comparing and sorting, requests.
* `Operation.Shortcut`: comparing a handle with itself and sorting less than two.
* `Registry.Declines`, `Operation.Refused`: what applying a class is refused for.
* `Query.ask_of_unissued`, `Operation.noticed`: the first such handle is noticed.
* `Session.unissued_noticed`: so it is in the sessions that requests lead to.
* `Session.unissued_overlooked`: where a new session notices nothing.
-/

import JavaTypes.Proofs.Narrowing
import JavaTypes.Proofs.Safety

namespace JavaTypes

/-! ### Operations that are given handles -/

/-- A query about one handle, with the type of its answer. -/
inductive Query : Type → Type
  | shape : Query Shape
  | view : Query View
  | fullName : Query String
  | binaryName : Query String
  | simpleName : Query String
  | descriptor : Query String
  | primitive? : Query (Option Primitive)
  | isPrimitive : Query Bool
  | isReference : Query Bool
  | isArray : Query Bool
  | packageName : Query (Option String)
  | outer : Query (Option Handle)
  | typeArguments : Query (List Handle)
  | elementType : Query Handle
  | boxed : Query Handle
  | unboxed : Query Handle
  | erasure : Query Handle

/-- What a registry answers to the query. -/
def Query.ask {α : Type} : Query α → Registry → Handle → Except Fault α
  | shape => Registry.shape
  | view => Registry.view
  | fullName => Registry.fullName
  | binaryName => Registry.binaryName
  | simpleName => Registry.simpleName
  | descriptor => Registry.descriptor
  | primitive? => Registry.primitive?
  | isPrimitive => Registry.isPrimitive
  | isReference => Registry.isReference
  | isArray => Registry.isArray
  | packageName => Registry.packageName
  | outer => Registry.outer
  | typeArguments => Registry.typeArguments
  | elementType => Registry.elementType
  | boxed => Registry.boxed
  | unboxed => Registry.unboxed
  | erasure => Registry.erasure

/-- Whatever is done in a session with handles that are given, with the type of its answer. -/
inductive Operation : Type → Type 1
  | query {α : Type} (query : Query α) (id : Handle) : Operation α
  | compare (a b : Handle) : Operation Ordering
  | sort (ids : List Handle) : Operation (List Handle)
  | request (call : Call) : Operation Handle

/-- **What a registry declines to apply**, whatever handles stand behind: what is no raw class, and
a raw class if `void` is the leftmost unfit argument. -/
inductive Registry.Declines (r : Registry) (basis : Handle) (arguments : List Handle) :
    Refusal → Prop
  | notClass {full : String} (named : r.fullName basis = .ok full)
    (other : ∀ package, ¬ r.IsRaw basis package) : r.Declines basis arguments (.notClass full)
  | void {package : NameId} (raw : r.IsRaw basis package) {front rest : List Handle}
    (split : arguments = front ++ .void :: rest)
    (fit : ∀ argument ∈ front, r.Issued argument ∧ argument ≠ .void) :
    r.Declines basis arguments .voidTypeArgument

namespace Operation

variable {α : Type}

/-- The handles that the operation is given. -/
def handles : Operation α → List Handle
  | query _ id => [id]
  | compare a b => [a, b]
  | sort ids => ids
  | request call => call.handles

/-- Runs the operation in a session. -/
def run : Operation α → SessionM α
  | query asked id => Session.query (asked.ask · id)
  | compare a b => Session.query (·.compare a b)
  | sort ids => Session.query (·.sort ids)
  | request call => call.perform

/-- The answer is plain from the handles alone: a handle is compared with itself, or less than two
are sorted. -/
def Shortcut : Operation α → Prop
  | compare a b => a = b
  | sort ids => ids.length < 2
  | query _ _ | request _ => False

/-- The request is refused for a reason that does not lie in handles that were never issued: it is
to apply a class, and the registry declines. -/
def Refused (r : Registry) : Operation α → Refusal → Prop
  | request (.narrow basis arguments), why => r.Declines basis arguments why
  | request (.reference _), _ | request (.nested _ _), _ | request (.array _), _ => False
  | query _ _, _ | compare _ _, _ | sort _, _ => False

end Operation

/-! ### Looking up -/

section LookingUp

variable {r : Registry} {id a b bad : Handle} {front rest : List Handle}

/-- **Every query notices** a handle that was never issued. -/
theorem Query.ask_of_unissued {α : Type} (query : Query α) (unissued : ¬ r.Issued id) :
    query.ask r id = .error (.unissued id) := by
  have unknown := Registry.shape?_of_unissued unissued
  have lost : r.shape id = .error (.unissued id) := Registry.shape_of_none unknown
  have untyped : r.typeOf id = .error (.unissued id) := Registry.typeWithin_unissued _ unknown
  cases query with
  | shape => exact lost
  | fullName | binaryName | simpleName | descriptor =>
    show (r.typeOf id >>= _) = _
    rw [untyped]
    rfl
  | view | primitive? | isArray | typeArguments | elementType | boxed | unboxed | erasure =>
    show (r.shape id >>= _) = _
    rw [lost]
    rfl
  -- these go by way of another query
  | isPrimitive | packageName | outer =>
    show ((r.shape id >>= _) >>= _) = _
    rw [lost]
    rfl
  | isReference =>
    show (((r.shape id >>= _) >>= _) >>= _) = _
    rw [lost]
    rfl

/-- There is a key by which a type is ordered if its handle was issued, and only then. -/
theorem displayKey_of_unissued (unissued : ¬ r.Issued id) :
    r.displayKey id = .error (.unissued id) := by
  have unnamed : r.fullName id = .error (.unissued id) := Query.fullName.ask_of_unissued unissued
  rw [Registry.displayKey, unnamed]
  rfl

theorem Registry.Sound.displayKey_ok (sound : r.Sound) (issued : r.Issued id) :
    ∃ key, r.displayKey id = .ok key := by
  obtain ⟨type, typed⟩ := sound.typeOf_total issued
  exact ⟨_, Registry.displayKey_of_typeOf typed⟩

/-- The first handle that was never issued is the one that is named. -/
theorem sort_of_unissued (sound : r.Sound) (many : 2 ≤ (front ++ bad :: rest).length)
    (issued : ∀ id ∈ front, r.Issued id) (unissued : ¬ r.Issued bad) :
    r.sort (front ++ bad :: rest) = .error (.unissued bad) := by
  have keys : (front ++ bad :: rest).mapM r.displayKey = .error (.unissued bad) :=
    mapM_of_error (fun id member => sound.displayKey_ok (issued id member))
      (displayKey_of_unissued unissued)
  rw [Registry.sort, if_neg (Nat.not_lt.mpr many), keys]
  rfl

theorem compare_of_unissued_left (different : a ≠ b) (unissued : ¬ r.Issued a) :
    r.compare a b = .error (.unissued a) := by
  rw [Registry.compare, if_neg different, displayKey_of_unissued unissued]
  rfl

theorem compare_of_unissued_right (sound : r.Sound) (different : a ≠ b) (issued : r.Issued a)
    (unissued : ¬ r.Issued b) : r.compare a b = .error (.unissued b) := by
  obtain ⟨key, told⟩ := sound.displayKey_ok issued
  rw [Registry.compare, if_neg different, told, displayKey_of_unissued unissued]
  rfl

/-- Of the members of a list that are not fit one is the first. -/
theorem exists_first_unfit {α : Type} (Fit : α → Prop) {as : List α} {a : α} (member : a ∈ as)
    (unfit : ¬ Fit a) :
    ∃ front first rest, as = front ++ first :: rest ∧ (∀ b ∈ front, Fit b) ∧ ¬ Fit first := by
  classical
  have among : (as.find? (¬ Fit ·)).isSome :=
    List.find?_isSome.mpr ⟨a, member, by simpa using unfit⟩
  obtain ⟨first, found⟩ := Option.isSome_iff_exists.mp among
  obtain ⟨unfit, front, rest, split, fits⟩ := List.find?_eq_some_iff_append.mp found
  exact ⟨front, first, rest, split, by simpa using fits, by simpa using unfit⟩

theorem eq_of_singleton_eq_append {α : Type} {a b : α} {front rest : List α}
    (split : [a] = front ++ b :: rest) : a = b := by
  rcases List.singleton_eq_append_iff.mp split with ⟨_, only⟩ | ⟨_, none⟩
  · exact (List.cons.inj only).1.symm
  · cases none

end LookingUp

/-! ### Requests -/

namespace Operation

open Session Registry

variable {s : Session} {α : Type} {op : Operation α} {id : Handle} {why : Refusal}

/-- **What a registry declines to apply** is not applied, whatever handles stand behind. -/
theorem Refused.run_eq (sound : s.registry.Sound) (refused : op.Refused s.registry why) :
    op.run s = .error (.refused why) s := by
  cases op with
  | query | compare | sort => exact refused.elim
  | request call =>
    cases call with
    | reference | nested | array => exact refused.elim
    | narrow basis arguments =>
      cases refused with
      | notClass named other =>
        obtain ⟨type, typed, _⟩ := bind_eq_ok_iff.mp named
        obtain ⟨full, named', run⟩ :=
          narrow_of_not_raw sound (sound.issued_of_typeOf typed) other arguments
        cases named.symm.trans named'
        exact run
      | void raw split fit =>
        rw [split]
        exact narrow_of_unfit raw fit (boxedArgument_void s.registry)

-- each of them names the first handle that was never issued
section First

variable {front rest : List Handle} {bad : Handle}
  (sound : s.registry.Sound) (issued : ∀ id ∈ front, s.registry.Issued id)
  (unissued : ¬ s.registry.Issued bad)
include sound issued unissued

theorem noticed_compare {a b : Handle} (different : a ≠ b) (split : [a, b] = front ++ bad :: rest) :
    (Operation.compare a b).run s = .error (.unissued bad) s := by
  show Session.query (·.compare a b) s = _
  rcases List.cons_eq_append_iff.mp split with ⟨rfl, left⟩ | ⟨front', rfl, right⟩
  · cases left
    exact query_of_error (compare_of_unissued_left different unissued)
  · have first : s.registry.Issued a := issued a List.mem_cons_self
    have second : b = bad := eq_of_singleton_eq_append right
    rw [second] at different ⊢
    exact query_of_error (compare_of_unissued_right sound different first unissued)

theorem noticed_sort (many : 2 ≤ (front ++ bad :: rest).length) :
    (sort (front ++ bad :: rest)).run s = .error (.unissued bad) s := by
  show Session.query (·.sort (front ++ bad :: rest)) s = _
  exact query_of_error (sort_of_unissued sound many issued unissued)

/-- Applying a class comes to the first handle that was never issued if nothing stands before it
that the application is refused for. -/
theorem noticed_narrow {basis : Handle} {arguments : List Handle}
    (free : ∀ why, ¬ s.registry.Declines basis arguments why)
    (split : basis :: arguments = front ++ bad :: rest) :
    (request (.narrow basis arguments)).run s = .error (.unissued bad) s := by
  rcases List.cons_eq_append_iff.mp split with ⟨rfl, left⟩ | ⟨front, rfl, rfl⟩
  · cases left
    exact narrow_of_unissued unissued rest
  · obtain ⟨known, issued⟩ := List.forall_mem_cons.mp issued
    obtain ⟨type, typed⟩ := sound.typeOf_total known
    have raw : ∃ package, s.registry.IsRaw basis package := by
      by_contra other
      exact free _ (.notClass (fullName_of_typeOf typed) (not_exists.mp other))
    obtain ⟨package, raw⟩ := raw
    have sized : .void ∉ front := by
      intro member
      obtain ⟨before, void, after, rfl, sized, same⟩ :=
        exists_first_unfit (· ≠ Handle.void) member (not_not.mpr rfl)
      obtain rfl := not_not.mp same
      have fit : ∀ argument ∈ before, s.registry.Issued argument ∧ argument ≠ .void :=
        fun argument among =>
          ⟨issued argument (List.mem_append_left _ among), sized argument among⟩
      exact free _ (.void raw (List.append_assoc before _ _) fit)
    have fit : ∀ argument ∈ front, s.registry.Issued argument ∧ argument ≠ .void :=
      fun argument among => ⟨issued argument among, ne_of_mem_of_not_mem among sized⟩
    exact narrow_of_unfit raw fit (boxedArgument_of_unissued sound unissued)

/-- **Where nothing else comes first, a handle that was never issued is noticed**: the operation
fails with the fault that names the first of them, and the session stays as it is. -/
theorem noticed (proper : ¬ op.Shortcut) (free : ∀ why, ¬ op.Refused s.registry why)
    (split : op.handles = front ++ bad :: rest) : op.run s = .error (.unissued bad) s := by
  have lost : Session.query (·.shape bad) s = .error (.unissued bad) s :=
    query_of_error (shape_of_none (shape?_of_unissued unissued))
  cases op with
  | query query id =>
    obtain rfl := eq_of_singleton_eq_append split
    show Session.query (query.ask · id) s = _
    exact query_of_error (query.ask_of_unissued unissued)
  | compare a b =>
    have different : a ≠ b := by
      rintro rfl
      exact proper rfl
    exact noticed_compare sound issued unissued different split
  | sort ids =>
    obtain rfl : ids = front ++ bad :: rest := split
    exact noticed_sort sound issued unissued (Nat.not_lt.mp proper)
  | request call =>
    cases call with
    | reference name => exact absurd split (by simp [handles, Call.handles])
    | nested outer name =>
      obtain rfl := eq_of_singleton_eq_append split
      exact bind_of_error lost
    | narrow basis arguments => exact noticed_narrow sound issued unissued free split
    | array element =>
      obtain rfl := eq_of_singleton_eq_append split
      exact bind_of_error lost

end First

end Operation

/-! ### Sessions -/

namespace Session

open Registry Operation

/-- **Handles that were never issued are noticed.** In the session `s` after any requests, take any
operation that is given one: a query, comparing different handles, sorting two handles or more, a
request. If the request is to apply what is no raw class, or if `void` is the leftmost of its unfit
arguments, it is refused for that. In every other case the operation fails with the fault that names
the first of the handles that were never issued. Either way the session stays as it is. -/
theorem unissued_noticed (calls : List Call) :
    let s := initial.after calls
    ∀ {α : Type} (op : Operation α) (id : Handle), ¬ op.Shortcut → id ∈ op.handles →
      ¬ s.registry.Issued id →
      (∀ why, op.Refused s.registry why → op.run s = .error (.refused why) s) ∧
      ((∀ why, ¬ op.Refused s.registry why) →
        ∃ front bad rest, op.handles = front ++ bad :: rest ∧
          (∀ earlier ∈ front, s.registry.Issued earlier) ∧ ¬ s.registry.Issued bad ∧
          op.run s = .error (.unissued bad) s ∧
          (Fault.unissued bad).message = "CodeModel: type id " ++ toString bad.index ++
            " not found (out of range for this model)") := by
  intro s α op id proper given unissued
  have sound : s.registry.Sound := sound_after_initial calls
  refine ⟨fun why refused => refused.run_eq sound, fun free => ?_⟩
  obtain ⟨front, bad, rest, split, issued, unissued⟩ :=
    exists_first_unfit s.registry.Issued given unissued
  exact ⟨front, bad, rest, split, issued, unissued,
    noticed sound issued unissued proper free split, rfl⟩

/-- A handle that was never issued is noticed behind issued ones and before `void`, and not behind a
primitive that is to be applied. -/
theorem unissued_noticed_behind :
    let s := initial.after [.reference "java.util.List"]
    (sort [⟨18⟩, .void, ⟨99⟩]).run s = .error (.unissued ⟨99⟩) s ∧
      (request (.narrow ⟨18⟩ [.ofPrimitive .int, ⟨99⟩, .void])).run s = .error (.unissued ⟨99⟩) s ∧
      (request (.narrow (.ofPrimitive .int) [⟨99⟩])).run s =
        .error (.refused (.notClass "int")) s := by
  intro s
  have count : s.registry.typeCount = 19 := by subst s; cbv
  have raw : s.registry.IsRaw ⟨18⟩ ⟨10⟩ := ⟨none, ⟨11⟩, by subst s; cbv⟩
  have issued_iff : ∀ id, s.registry.Issued id ↔ id.index < 19 := fun id => by rw [Issued, count]
  have far : ¬ s.registry.Issued ⟨99⟩ := by
    rw [issued_iff]
    decide
  have noticed : ∀ {α : Type} {op : Operation α}, ¬ op.Shortcut → ⟨99⟩ ∈ op.handles →
      (∀ id ∈ op.handles, id = ⟨99⟩ ∨ id.index < 19) → (∀ why, ¬ op.Refused s.registry why) →
      op.run s = .error (.unissued ⟨99⟩) s := by
    intro α op proper given near free
    obtain ⟨_, _, _, split, _, unissued, run, _⟩ :=
      (unissued_noticed [.reference "java.util.List"] op ⟨99⟩ proper given far).2 free
    rcases near _ (split ▸ List.mem_append_cons_self) with rfl | near
    · exact run
    · exact absurd ((issued_iff _).mpr near) unissued
  have unfree : ∀ why, ¬ s.registry.Declines ⟨18⟩ [.ofPrimitive .int, ⟨99⟩, .void] why := by
    rintro why (⟨_, other⟩ | ⟨_, split, fit⟩)
    · exact other _ raw
    · rcases List.cons_eq_append_iff.mp split with ⟨_, first⟩ | ⟨front, rfl, later⟩
      · exact absurd (List.cons.inj first).1 (by decide)
      · rcases List.cons_eq_append_iff.mp later with ⟨_, second⟩ | ⟨_, rfl, _⟩
        · exact absurd (List.cons.inj second).1 (by decide)
        · exact far (fit ⟨99⟩ (by simp)).1
  refine ⟨noticed (Nat.not_lt.mpr (by decide)) (by decide) (by decide) fun _ => not_false,
    noticed not_false (by decide) (by decide) unfree, ?_⟩
  have other : ∀ package, ¬ s.registry.IsRaw (.ofPrimitive .int) package := by
    rintro package ⟨around, name, known⟩
    cases ((sound_after_initial _).primitives .int).symm.trans known
  have named : s.registry.fullName (.ofPrimitive .int) = .ok "int" := by subst s; cbv
  exact (unissued_noticed _ (request (.narrow (.ofPrimitive .int) [⟨99⟩])) ⟨99⟩ not_false
    (by decide) far).1 _ (.notClass named other)

/-- **What is not noticed** in a new session: that a handle was never issued which is compared with
itself, sorted alone, or a type argument behind `void`. -/
theorem unissued_overlooked :
    ¬ initial.registry.Issued ⟨18⟩ ∧
      (compare ⟨18⟩ ⟨18⟩).run initial = .ok .eq initial ∧
      (sort [⟨18⟩]).run initial = .ok [⟨18⟩] initial ∧
      (request (.narrow (.ofWrapper .int) [.void, ⟨18⟩])).run initial =
        .error (.refused .voidTypeArgument) initial := by
  have unissued : ¬ initial.registry.Issued ⟨18⟩ := by
    rw [Issued, show initial.registry.typeCount = 18 by cbv]
    decide
  obtain ⟨package, name, known, _⟩ := Registry.sound_initial.wrappers .int
  have refused : (request (.narrow (.ofWrapper .int) [.void, ⟨18⟩])).Refused initial.registry _ :=
    .void ⟨none, name, known⟩ (List.nil_append _).symm (List.forall_mem_nil _)
  exact ⟨unissued, rfl, rfl, refused.run_eq Registry.sound_initial⟩

end Session

end JavaTypes
