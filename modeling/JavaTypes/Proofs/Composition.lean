/-
**Names and descriptions come down to requests.**

A type is asked for by a request, by its name or by a description. Resolving a name makes one
request or none, and a description makes one after the other, until one of them fails. So whatever
is asked of a session, requests could have brought it to the state in which it is left.

* `Session.MadeOfCalls`: an operation that leaves a session as some requests would.
* `Session.madeOfCalls_resolve`, `TypeExpr.madeOfCalls_resolve`: names and descriptions are resolved
  by such operations.
* `Session.Demand`, `Session.serve`: what is asked of a session, and the session afterwards.
* `Session.serve_eq_after`: every session that demands lead to is one that requests lead to.
* `Session.sound_serve`: no demand takes soundness away.
-/

import JavaTypes.Proofs.Resolution

namespace JavaTypes

namespace Session

variable {ε α β : Type}

theorem after_append (s : Session) (first second : List Call) :
    s.after (first ++ second) = (s.after first).after second :=
  List.foldl_append

/-! ### Operations made of requests -/

/-- The operation leaves every session as some requests would, whether it succeeds or fails. -/
def MadeOfCalls (operation : EStateM ε Session α) : Prop :=
  ∀ s, ∃ calls, (∃ a, operation s = .ok a (s.after calls)) ∨
    ∃ fault, operation s = .error fault (s.after calls)

/-- What such an operation leaves is a session after requests. -/
theorem MadeOfCalls.left_of_ok {operation : EStateM ε Session α} (made : MadeOfCalls operation)
    {s left : Session} {a : α} (succeeds : operation s = .ok a left) :
    ∃ calls : List Call, left = s.after calls := by
  obtain ⟨calls, ⟨a', run⟩ | ⟨fault, run⟩⟩ := made s
  · cases succeeds.symm.trans run
    exact ⟨calls, rfl⟩
  · cases succeeds.symm.trans run

theorem MadeOfCalls.left_of_error {operation : EStateM ε Session α} (made : MadeOfCalls operation)
    {s left : Session} {fault : ε} (fails : operation s = .error fault left) :
    ∃ calls : List Call, left = s.after calls := by
  obtain ⟨calls, ⟨a, run⟩ | ⟨fault', run⟩⟩ := made s
  · cases fails.symm.trans run
  · cases fails.symm.trans run
    exact ⟨calls, rfl⟩

theorem madeOfCalls_pure (a : α) : MadeOfCalls (pure a : EStateM ε Session α) :=
  fun _ => ⟨[], Or.inl ⟨a, rfl⟩⟩

theorem madeOfCalls_perform (call : Call) : MadeOfCalls call.perform := by
  intro s
  have single : s.after [call] = call.after s := rfl
  refine ⟨[call], ?_⟩
  rw [single, Call.after]
  cases call.perform s with
  | ok id left => exact Or.inl ⟨id, rfl⟩
  | error fault left => exact Or.inr ⟨fault, rfl⟩

/-- **One after the other, the requests of two operations are the requests of their sequence.** If
the first operation fails, the second one makes none. -/
theorem MadeOfCalls.bind {first : EStateM ε Session α} {next : α → EStateM ε Session β}
    (made : MadeOfCalls first) (made' : ∀ a, MadeOfCalls (next a)) :
    MadeOfCalls (first >>= next) := by
  intro s
  obtain ⟨calls, ⟨a, run⟩ | ⟨fault, run⟩⟩ := made s
  · obtain ⟨more, rest⟩ := made' a (s.after calls)
    rw [← after_append] at rest
    refine ⟨calls ++ more, ?_⟩
    rw [bind_of_ok run]
    exact rest
  · exact ⟨calls, Or.inr ⟨fault, bind_of_error run⟩⟩

/-- Blaming a name for a failure makes no request. -/
theorem MadeOfCalls.blaming {operation : SessionM α} (made : MadeOfCalls operation)
    (name : String) : MadeOfCalls (blaming name operation) := by
  intro s
  obtain ⟨calls, ⟨a, run⟩ | ⟨fault, run⟩⟩ := made s
  · exact ⟨calls, Or.inl ⟨a, adaptExcept_of_ok run⟩⟩
  · exact ⟨calls, Or.inr ⟨_, adaptExcept_of_error run⟩⟩

theorem madeOfCalls_mapM {step : β → EStateM ε Session α} (made : ∀ b, MadeOfCalls (step b))
    (bs : List β) : MadeOfCalls (bs.mapM step) := by
  induction bs with
  | nil => exact madeOfCalls_pure []
  | cons b bs ih =>
    rw [List.mapM_cons]
    exact (made b).bind fun a => ih.bind fun as => madeOfCalls_pure (a :: as)

/-- A keyword is resolved without a request, and any other name by one. -/
theorem madeOfCalls_resolve (name : String) : MadeOfCalls (resolve name) := by
  by_cases keyword : (Primitive.ofKeyword? name).isSome = true
  · obtain ⟨kind, rfl⟩ := Name.exists_keyword keyword
    exact fun s => ⟨[], Or.inl ⟨_, resolve_keyword kind s⟩⟩
  · rw [resolve, if_neg keyword]
    exact (madeOfCalls_perform (.reference name)).blaming name

theorem madeOfCalls_arrays (dimensions : Nat) (id : Handle) :
    MadeOfCalls (arrays dimensions id) := by
  induction dimensions generalizing id with
  | zero => exact madeOfCalls_pure id
  | succ dimensions ih => exact (madeOfCalls_perform (.array id)).bind ih

end Session

open Session in
/-- **A description is resolved by requests**: for its name and its type arguments, for the class
with the type arguments, and for one dimension after the other. -/
theorem TypeExpr.madeOfCalls_resolve (e : TypeExpr) : MadeOfCalls e.resolve := by
  have dimensions := fun element =>
    (madeOfCalls_arrays e.dimensions element).blaming e.name
  refine (Session.madeOfCalls_resolve e.name).bind fun base => ?_
  dsimp only
  split
  · exact (madeOfCalls_pure base).bind dimensions
  · refine (madeOfCalls_mapM Session.madeOfCalls_resolve e.arguments).bind fun arguments => ?_
    exact ((madeOfCalls_perform (.narrow base arguments)).blaming e.name).bind dimensions

/-! ### Demands -/

namespace Session

/-- What is asked of a session: a type by a request, by its name, or by a description. -/
inductive Demand where
  | requested (call : Call)
  | named (name : String)
  | described (e : TypeExpr)
  deriving DecidableEq, Repr

/-- The session after a demand, whether it was met or not. -/
def Demand.after (s : Session) : Demand → Session
  | requested call => call.after s
  | named name =>
    match resolve name s with
    | .ok _ left => left
    | .error _ left => left
  | described e =>
    match e.resolve s with
    | .ok _ left => left
    | .error _ left => left

/-- The session after a list of demands. -/
def serve (s : Session) (demands : List Demand) : Session := demands.foldl Demand.after s

theorem Demand.after_eq (s : Session) (demand : Demand) :
    ∃ calls : List Call, demand.after s = s.after calls := by
  cases demand with
  | requested call => exact ⟨[call], rfl⟩
  | named name =>
    obtain ⟨calls, ⟨id, run⟩ | ⟨fault, run⟩⟩ := madeOfCalls_resolve name s <;>
      exact ⟨calls, by rw [after, run]⟩
  | described e =>
    obtain ⟨calls, ⟨id, run⟩ | ⟨fault, run⟩⟩ := e.madeOfCalls_resolve s <;>
      exact ⟨calls, by rw [after, run]⟩

/-- **Demands lead where requests lead.** -/
theorem serve_eq_after (s : Session) (demands : List Demand) :
    ∃ calls : List Call, s.serve demands = s.after calls := by
  induction demands generalizing s with
  | nil => exact ⟨[], rfl⟩
  | cons demand demands ih =>
    obtain ⟨calls, first⟩ := demand.after_eq s
    obtain ⟨more, rest⟩ := ih (s.after calls)
    refine ⟨calls ++ more, ?_⟩
    rw [after_append, ← rest, ← first]
    rfl

/-- **What demands preserve**: a sound registry stays sound and keeps everything. -/
theorem sound_serve {s : Session} (sound : s.registry.Sound) (demands : List Demand) :
    (s.serve demands).registry.Sound ∧ s.registry.Grows (s.serve demands).registry := by
  obtain ⟨calls, left⟩ := serve_eq_after s demands
  rw [left]
  exact ⟨sound_after sound calls, grows_after s calls⟩

end Session

end JavaTypes
