/-
**Requests for types, and what one of them can do.**

A session is driven by requests: for a top-level class, a nested class, a class with type
arguments, an array. A request succeeds or is refused, and it may be given handles that were never
issued; in each case the session goes on from the state that the request left.

* `Call`, `Session.after`: a request as data, and the session after a list of requests.
* `Call.Requests`: when a request succeeds, and which names and which shape it then asks for.
* `Call.perform_cases`: a request asks for a shape, or it fails and the registry is as before.
-/

import JavaTypes.Proofs.Growth
import JavaTypes.Proofs.Sequencing
import JavaTypes.Session

namespace JavaTypes

/-- A request for a type. -/
inductive Call where
  | reference (name : String)
  | nested (outer : Handle) (name : String)
  | narrow (basis : Handle) (arguments : List Handle)
  | array (element : Handle)
  deriving DecidableEq, Repr

namespace Call

/-- The operation that answers the request. -/
def perform : Call → SessionM Handle
  | reference name => Session.reference name
  | nested outer name => Session.nested outer name
  | narrow basis arguments => Session.narrow basis arguments
  | array element => Session.array element

/-- The session that the request leaves behind, whether it succeeds or fails. -/
def after (s : Session) (call : Call) : Session :=
  match call.perform s with
  | .ok _ left => left
  | .error _ left => left

end Call

/-! ### Handles and shapes -/

namespace Registry

variable {r : Registry} {id : Handle}

theorem shape_of_shape? {shape : Shape} (known : r.shape? id = some shape) :
    r.shape id = .ok shape := by
  unfold Registry.shape
  rw [known]

theorem shape_of_none (unknown : r.shape? id = none) : r.shape id = .error (.unissued id) := by
  unfold Registry.shape
  rw [unknown]

end Registry

namespace Session

/-- The session after a list of requests, each made in the state that the ones before it left. -/
def after (s : Session) (calls : List Call) : Session := calls.foldl Call.after s

/-- The session with other names. -/
def withNames (s : Session) (names : NamePool) : Session := { s with registry.names := names }

/-- What interning a shape can do: a known shape keeps its handle and its session; a new one
receives the next free handle. -/
theorem intern_cases (s : Session) (shape : Shape) :
    (∃ position, s.registry.types.position? shape = some position ∧
      s.intern shape = (⟨position⟩, s)) ∨
    (s.registry.types.position? shape = none ∧ s.intern shape = (⟨s.registry.typeCount⟩, { s with
      registry.types := s.registry.types.insert shape
      events := s.events.push (.interned ⟨s.registry.typeCount⟩ shape) })) := by
  unfold intern
  cases found : s.registry.types.position? shape with
  | some position => exact Or.inl ⟨position, rfl, rfl⟩
  | none => exact Or.inr ⟨rfl, rfl⟩

end Session

namespace Session

variable {α : Type} {ask : Registry → Except Fault α} {s : Session}

/-- A query that the registry answers leaves the session as it is. -/
theorem query_of_ok {answer : α} (asked : ask s.registry = .ok answer) :
    query ask s = .ok answer s := by
  unfold query
  rw [asked]

/-- So does one that the registry cannot answer. -/
theorem query_of_error {fault : Fault} (asked : ask s.registry = .error fault) :
    query ask s = .error fault s := by
  unfold query
  rw [asked]

end Session

namespace Call

open Session

/-! ### What a request asks for -/

/-- **A request that succeeds.** `call.Requests r names shape` says that nothing stands against
the request in the registry `r`, that `names` are the names once those of the request are
interned, and that the answer is the handle of `shape`. -/
inductive Requests (r : Registry) : Call → NamePool → Shape → Prop
  | reference {name : String} (accepted : Name.isClassName name = true) :
    Requests r (.reference name)
      ((r.names.intern (Name.qualifier name)).2.intern (Name.lastSegment name)).2
      (.rawClass (r.names.intern (Name.qualifier name)).1 none
        ((r.names.intern (Name.qualifier name)).2.intern (Name.lastSegment name)).1)
  | nested {outer : Handle} {name : String} {package : NameId} {around : Option Handle}
      {own : NameId} (raw : r.shape? outer = some (.rawClass package around own))
      (accepted : Name.isNestedName name = true) :
    Requests r (.nested outer name) (r.names.intern name).2
      (.rawClass package (some outer) (r.names.intern name).1)
  | narrow {basis : Handle} {arguments boxed : List Handle} {package : NameId}
      {around : Option Handle} {own : NameId}
      (raw : r.shape? basis = some (.rawClass package around own)) (nonempty : arguments ≠ [])
      (fit : arguments.mapM (boxedArgument r) = .ok boxed) :
    Requests r (.narrow basis arguments) r.names (.parameterized basis boxed)
  | array {element : Handle} {shape : Shape} (known : r.shape? element = some shape)
      (sized : element ≠ .void) :
    Requests r (.array element) r.names (.array element)

/-- The answer of a request that succeeds. -/
theorem Requests.perform {call : Call} {s : Session} {names : NamePool} {shape : Shape}
    (asks : call.Requests s.registry names shape) :
    call.perform s = .ok ((s.withNames names).intern shape).1
      ((s.withNames names).intern shape).2 := by
  cases asks with
  | reference accepted =>
    show Session.reference _ s = _
    unfold Session.reference
    rw [if_pos accepted]
    rfl
  | nested raw accepted =>
    show Session.nested _ _ s = _
    unfold Session.nested
    rw [bind_of_ok (query_of_ok (Registry.shape_of_shape? raw))]
    simp only
    rw [if_pos accepted]
    rfl
  | narrow raw nonempty fit =>
    show Session.narrow _ _ s = _
    unfold Session.narrow
    rw [bind_of_ok (query_of_ok (Registry.shape_of_shape? raw))]
    simp only
    rw [if_neg (by simpa using nonempty), bind_of_ok (query_of_ok fit)]
    rfl
  | array known sized =>
    show Session.array _ s = _
    unfold Session.array
    rw [bind_of_ok (query_of_ok (Registry.shape_of_shape? known)), if_neg sized]
    rfl

/-! ### What a request can do -/

/-- The request fails in the session, and the registry stays what it is. -/
def Fails (call : Call) (s : Session) : Prop :=
  ∃ fault left, call.perform s = .error fault left ∧ left.registry = s.registry

/-- A request that first asks for the shape of an unissued handle fails. -/
theorem Fails.of_unissued {call : Call} {s : Session} (id : Handle)
    {next : Shape → SessionM Handle} (opens : call.perform = query (·.shape id) >>= next)
    (unknown : s.registry.shape? id = none) : call.Fails s := by
  refine ⟨.unissued id, s, ?_, rfl⟩
  rw [opens]
  exact bind_of_error (query_of_error (Registry.shape_of_none unknown))

/-- A request that first asks for the shape of an issued handle goes on with it. -/
theorem perform_of_shape {call : Call} {s : Session} (id : Handle)
    {next : Shape → SessionM Handle} (opens : call.perform = query (·.shape id) >>= next)
    {shape : Shape} (known : s.registry.shape? id = some shape) :
    call.perform s = next shape s := by
  rw [opens]
  exact bind_of_ok (query_of_ok (Registry.shape_of_shape? known))

/-- A request that is refused with the answer of a query fails, whatever the query answers. -/
theorem Fails.of_refused {α : Type} {call : Call} {s : Session} (ask : Registry → Except Fault α)
    (why : α → Refusal)
    (refused : call.perform s = (query ask >>= fun answer => refuse (why answer)) s) :
    call.Fails s := by
  cases asked : ask s.registry with
  | ok answer => exact ⟨_, s, refused.trans (bind_of_ok (query_of_ok asked)), rfl⟩
  | error fault => exact ⟨_, s, refused.trans (bind_of_error (query_of_error asked)), rfl⟩

theorem reference_cases (name : String) (s : Session) :
    (∃ names shape, (reference name).Requests s.registry names shape) ∨
      (reference name).Fails s := by
  by_cases accepted : Name.isClassName name = true
  · exact Or.inl ⟨_, _, .reference accepted⟩
  · refine Or.inr ⟨.refused (.invalidClassName name),
      { s with events := s.events.push (.classNameRejected name) }, ?_, rfl⟩
    show Session.reference name s = _
    unfold Session.reference
    rw [if_neg accepted]
    rfl

theorem nested_cases (outer : Handle) (name : String) (s : Session) :
    (∃ names shape, (nested outer name).Requests s.registry names shape) ∨
      (nested outer name).Fails s := by
  cases known : s.registry.shape? outer with
  | none => exact Or.inr (Fails.of_unissued outer rfl known)
  | some shape =>
    have run : (nested outer name).perform s = _ := perform_of_shape outer rfl known
    cases shape with
    | rawClass package around own =>
      by_cases accepted : Name.isNestedName name = true
      · exact Or.inl ⟨_, _, .nested known accepted⟩
      · refine Or.inr ⟨.refused (.invalidClassName name),
          { s with events := s.events.push (.nestedNameRejected name) }, run.trans ?_, rfl⟩
        simp only
        rw [if_neg accepted]
        rfl
    | primitive kind | parameterized basis arguments | array element =>
      exact Or.inr (Fails.of_refused (·.fullName outer) .notClass run)

theorem narrow_cases (basis : Handle) (arguments : List Handle) (s : Session) :
    (∃ names shape, (narrow basis arguments).Requests s.registry names shape) ∨
      (narrow basis arguments).Fails s := by
  cases known : s.registry.shape? basis with
  | none => exact Or.inr (Fails.of_unissued basis rfl known)
  | some shape =>
    have run : (narrow basis arguments).perform s = _ := perform_of_shape basis rfl known
    cases shape with
    | rawClass package around own =>
      by_cases empty : arguments = []
      · subst empty
        exact Or.inr ⟨.refused .noTypeArguments, s, run, rfl⟩
      · cases fit : arguments.mapM (boxedArgument s.registry) with
        | ok boxed => exact Or.inl ⟨_, _, .narrow known empty fit⟩
        | error fault =>
          refine Or.inr ⟨fault, s, run.trans ?_, rfl⟩
          simp only
          rw [if_neg (by simpa using empty), bind_of_error (query_of_error fit)]
    | primitive kind | parameterized inner applied | array element =>
      exact Or.inr (Fails.of_refused (·.fullName basis) .notClass run)

theorem array_cases (element : Handle) (s : Session) :
    (∃ names shape, (array element).Requests s.registry names shape) ∨
      (array element).Fails s := by
  cases known : s.registry.shape? element with
  | none => exact Or.inr (Fails.of_unissued element rfl known)
  | some shape =>
    have run : (array element).perform s = _ := perform_of_shape element rfl known
    by_cases void : element = .void
    · refine Or.inr ⟨.refused .arrayOfVoid, s, run.trans ?_, rfl⟩
      rw [if_pos void]
      rfl
    · exact Or.inl ⟨_, _, .array known void⟩

/-- **What a request can do**: it asks for a shape, whose handle is the answer, or it fails, and
then the registry is what it was. -/
theorem perform_cases (call : Call) (s : Session) :
    (∃ names shape, call.Requests s.registry names shape) ∨ call.Fails s := by
  cases call with
  | reference name => exact reference_cases name s
  | nested outer name => exact nested_cases outer name s
  | narrow basis arguments => exact narrow_cases basis arguments s
  | array element => exact array_cases element s

/-- A request that succeeds asks for a shape. -/
theorem requests_of_ok {call : Call} {s left : Session} {id : Handle}
    (succeeds : call.perform s = .ok id left) :
    ∃ names shape, call.Requests s.registry names shape ∧
      (id, left) = (s.withNames names).intern shape := by
  rcases perform_cases call s with ⟨names, shape, asks⟩ | ⟨fault, left', failed, _⟩
  · refine ⟨names, shape, asks, ?_⟩
    rw [asks.perform] at succeeds
    cases succeeds
    rfl
  · rw [succeeds] at failed
    cases failed

/-- What is left after a request: the shape that it asks for is interned, or the registry is what
it was. -/
theorem after_cases (s : Session) (call : Call) :
    (∃ names shape, call.Requests s.registry names shape ∧
      call.after s = ((s.withNames names).intern shape).2) ∨
    (call.after s).registry = s.registry := by
  rcases perform_cases call s with ⟨names, shape, asks⟩ | ⟨fault, left, failed, kept⟩
  · refine Or.inl ⟨names, shape, asks, ?_⟩
    unfold after
    rw [asks.perform]
  · refine Or.inr ?_
    unfold after
    rw [failed]
    exact kept

end Call

end JavaTypes
