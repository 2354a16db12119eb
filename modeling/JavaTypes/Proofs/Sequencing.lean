/-
**Operations that can fail, one after another.**

Queries and requests run in sequence until one of them fails, and lists are gone through element by
element in the same way. The statements here say how such a sequence ends, so that no later proof
looks into it.

* `bind_of_ok`, `bind_of_error`: what a sequence of two operations on a state does.
* `bind_eq_ok`, `bind_eq_error`: how a sequence came to succeed or to fail.
* `forM_cases`: a loop that keeps an invariant until a step fails.
* `bind_eq_ok_iff`, `mapM_eq_ok_iff`: when a sequence or a traversal of queries succeeds.
* `mapM_of_ok`, `filterM_of_ok`: traversals in which no step fails.
* `mapM_of_error`: a traversal that its first failing step ends.
-/

import Mathlib.Data.List.Forall2

namespace JavaTypes

/-! ### Operations on a state -/

section Sequence

variable {ε σ α β : Type} {first : EStateM ε σ α} {next : α → EStateM ε σ β} {s left : σ}

theorem bind_of_ok {a : α} (run : first s = .ok a left) : (first >>= next) s = next a left := by
  show EStateM.bind first next s = _
  unfold EStateM.bind
  rw [run]

theorem bind_of_error {fault : ε} (run : first s = .error fault left) :
    (first >>= next) s = .error fault left := by
  show EStateM.bind first next s = _
  unfold EStateM.bind
  rw [run]

/-- A sequence succeeds if its operations do, one after the other. -/
theorem bind_eq_ok {b : β} (succeeds : (first >>= next) s = .ok b left) :
    ∃ a middle, first s = .ok a middle ∧ next a middle = .ok b left := by
  cases run : first s with
  | ok a middle =>
    rw [bind_of_ok run] at succeeds
    exact ⟨a, middle, rfl, succeeds⟩
  | error fault middle =>
    rw [bind_of_error run] at succeeds
    cases succeeds

/-- A sequence fails in its first operation, or in the second one after the first has succeeded. -/
theorem bind_eq_error {fault : ε} (fails : (first >>= next) s = .error fault left) :
    first s = .error fault left ∨
      ∃ a middle, first s = .ok a middle ∧ next a middle = .error fault left := by
  cases run : first s with
  | ok a middle =>
    rw [bind_of_ok run] at fails
    exact Or.inr ⟨a, middle, rfl, fails⟩
  | error fault' middle =>
    rw [bind_of_error run] at fails
    cases fails
    exact Or.inl rfl

/-- Renaming faults leaves answers alone. -/
theorem adaptExcept_of_ok {ε' : Type} {rename : ε → ε'} {a : α} (run : first s = .ok a left) :
    first.adaptExcept rename s = .ok a left := by
  unfold EStateM.adaptExcept
  rw [run]

theorem adaptExcept_of_error {ε' : Type} {rename : ε → ε'} {fault : ε}
    (run : first s = .error fault left) :
    first.adaptExcept rename s = .error (rename fault) left := by
  unfold EStateM.adaptExcept
  rw [run]

theorem adaptExcept_eq_ok {ε' : Type} {rename : ε → ε'} {a : α}
    (succeeds : first.adaptExcept rename s = .ok a left) : first s = .ok a left := by
  cases run : first s with
  | ok a' middle =>
    rw [adaptExcept_of_ok run] at succeeds
    cases succeeds
    rfl
  | error fault middle =>
    rw [adaptExcept_of_error run] at succeeds
    cases succeeds

theorem adaptExcept_eq_error {ε' : Type} {rename : ε → ε'} {error : ε'}
    (fails : first.adaptExcept rename s = .error error left) :
    ∃ fault, first s = .error fault left ∧ error = rename fault := by
  cases run : first s with
  | ok a middle =>
    rw [adaptExcept_of_ok run] at fails
    cases fails
  | error fault middle =>
    rw [adaptExcept_of_error run] at fails
    cases fails
    exact ⟨fault, rfl, rfl⟩

/-- **A loop that the first unfit value ends.** Each step with a fit value succeeds and keeps what
holds of the values behind and the state; the step with an unfit value fails. -/
theorem forM_cases {step : α → EStateM ε σ Unit} {fit : α → Bool} {fault : α → ε}
    {Holds : List α → σ → Prop}
    (succeeds : ∀ behind a s, Holds behind s → fit a = true →
      ∃ left, step a s = .ok () left ∧ Holds (behind ++ [a]) left)
    (fails : ∀ behind a s, Holds behind s → fit a = false →
      ∃ left, step a s = .error (fault a) left)
    (as : List α) {behind : List α} (holds : Holds behind s) :
    (∃ a, as.find? (fun a => !fit a) = some a ∧ ∃ left, as.forM step s = .error (fault a) left) ∨
      (as.find? (fun a => !fit a) = none ∧
        ∃ left, as.forM step s = .ok () left ∧ Holds (behind ++ as) left) := by
  induction as generalizing behind s with
  | nil => exact Or.inr ⟨rfl, s, rfl, by rwa [List.append_nil]⟩
  | cons a as ih =>
    have unfold : (a :: as).forM step s = (step a >>= fun _ => as.forM step) s := rfl
    cases decided : fit a with
    | false =>
      obtain ⟨left, run⟩ := fails behind a s holds decided
      rw [List.find?_cons_of_pos (by simp [decided])]
      exact Or.inl ⟨a, rfl, left, bind_of_error run⟩
    | true =>
      obtain ⟨left, run, kept⟩ := succeeds behind a s holds decided
      have rest := ih kept
      rw [List.append_assoc, List.singleton_append] at rest
      rw [List.find?_cons_of_neg (by simp [decided]), unfold, bind_of_ok run]
      exact rest

end Sequence

/-! ### Queries -/

section Queries

variable {ε α β : Type}

theorem bind_eq_ok_iff {first : Except ε α} {next : α → Except ε β} {b : β} :
    (first >>= next) = .ok b ↔ ∃ a, first = .ok a ∧ next a = .ok b := by
  cases first with
  | error fault => exact ⟨nofun, fun ⟨_, impossible, _⟩ => nomatch impossible⟩
  | ok a =>
    refine ⟨fun run => ⟨a, rfl, run⟩, fun ⟨a', same, run⟩ => ?_⟩
    cases same
    exact run

/-- A traversal that can fail succeeds exactly when every one of its steps does. -/
theorem mapM_eq_ok_iff {step : α → Except ε β} {as : List α} {bs : List β} :
    as.mapM step = .ok bs ↔ List.Forall₂ (fun a b => step a = .ok b) as bs := by
  induction as generalizing bs with
  | nil =>
    rw [List.mapM_nil, List.forall₂_nil_left_iff]
    exact ⟨fun same => (Except.ok.inj same).symm, fun empty => by rw [empty]; rfl⟩
  | cons a as ih =>
    rw [List.mapM_cons, bind_eq_ok_iff]
    constructor
    · rintro ⟨b, first, run⟩
      obtain ⟨others, rest, same⟩ := bind_eq_ok_iff.mp run
      cases same
      exact List.Forall₂.cons first (ih.mp rest)
    · intro each
      obtain ⟨b, others, first, rest, rfl⟩ := List.forall₂_cons_left_iff.mp each
      exact ⟨b, first, bind_eq_ok_iff.mpr ⟨others, ih.mpr rest, rfl⟩⟩

/-- If every value has a result, the list has a list of results. -/
theorem exists_forall₂ {R : α → β → Prop} {as : List α} (each : ∀ a ∈ as, ∃ b, R a b) :
    ∃ bs, List.Forall₂ R as bs := by
  induction as with
  | nil => exact ⟨[], .nil⟩
  | cons a as ih =>
    obtain ⟨b, first⟩ := each a List.mem_cons_self
    obtain ⟨bs, rest⟩ := ih fun a member => each a (List.mem_cons_of_mem _ member)
    exact ⟨b :: bs, .cons first rest⟩

theorem forall₂_imp_of_mem {R S : α → β → Prop} {as : List α} {bs : List β}
    (each : List.Forall₂ R as bs) (step : ∀ a ∈ as, ∀ b, R a b → S a b) :
    List.Forall₂ S as bs := by
  induction each with
  | nil => exact .nil
  | cons first rest ih =>
    exact .cons (step _ List.mem_cons_self _ first)
      (ih fun a member => step a (List.mem_cons_of_mem _ member))

/-- Two lists with the same results are equal if results are of one value each. -/
theorem forall₂_injective {R : α → β → Prop} {first second : List α} {bs : List β}
    (here : List.Forall₂ R first bs) (there : List.Forall₂ R second bs)
    (unique : ∀ a ∈ first, ∀ a' b, R a b → R a' b → a = a') : first = second := by
  induction here generalizing second with
  | nil =>
    rw [List.forall₂_nil_right_iff] at there
    exact there.symm
  | cons head tail ih =>
    obtain ⟨a', rest, head', tail', rfl⟩ := List.forall₂_cons_right_iff.mp there
    rw [unique _ List.mem_cons_self _ _ head head',
      ih tail' fun a member => unique a (List.mem_cons_of_mem _ member)]

/-- Each result of a traversal comes from one of the values that it went through. -/
theorem exists_of_mem_right {R : α → β → Prop} {as : List α} {bs : List β} {b : β}
    (each : List.Forall₂ R as bs) (member : b ∈ bs) : ∃ a ∈ as, R a b := by
  induction each with
  | nil => cases member
  | cons first rest ih =>
    rcases List.mem_cons.mp member with rfl | later
    · exact ⟨_, List.mem_cons_self, first⟩
    · obtain ⟨a, inside, related⟩ := ih later
      exact ⟨a, List.mem_cons_of_mem _ inside, related⟩

/-- Each value that a traversal went through has one of the results. -/
theorem exists_of_mem_left {R : α → β → Prop} {as : List α} {bs : List β} {a : α}
    (each : List.Forall₂ R as bs) (member : a ∈ as) : ∃ b ∈ bs, R a b :=
  exists_of_mem_right each.flip member

/-- What holds of each value and those behind it carries over to the results. -/
theorem pairwise_of_forall₂ {R : α → β → Prop} {P : α → α → Prop} {Q : β → β → Prop}
    {as : List α} {bs : List β} (each : List.Forall₂ R as bs) (pairwise : as.Pairwise P)
    (step : ∀ a b a' b', R a b → R a' b' → P a a' → Q b b') : bs.Pairwise Q := by
  induction each with
  | nil => exact .nil
  | cons first rest ih =>
    obtain ⟨here, later⟩ := List.pairwise_cons.mp pairwise
    refine .cons (fun b' member => ?_) (ih later)
    obtain ⟨a', inside, related⟩ := exists_of_mem_right rest member
    exact step _ _ _ _ first related (here a' inside)

/-- If what relates the values of two lists goes by way of something, there is a list between the
two. -/
theorem exists_forall₂_between {γ : Type} {R : α → β → Prop} {S : α → γ → Prop} {T : γ → β → Prop}
    {as : List α} {bs : List β} (each : List.Forall₂ R as bs)
    (between : ∀ a ∈ as, ∀ {b}, R a b → ∃ c, S a c ∧ T c b) :
    ∃ cs, List.Forall₂ S as cs ∧ List.Forall₂ T cs bs := by
  induction each with
  | nil => exact ⟨[], .nil, .nil⟩
  | @cons a b as bs related _ ih =>
    obtain ⟨c, first, second⟩ := between a List.mem_cons_self related
    obtain ⟨cs, firsts, seconds⟩ := ih fun a member => between a (List.mem_cons_of_mem _ member)
    exact ⟨c :: cs, .cons first firsts, .cons second seconds⟩

/-- Traversals whose steps agree on the list agree. -/
theorem mapM_congr {step other : α → Except ε β} {as : List α}
    (agree : ∀ a ∈ as, step a = other a) : as.mapM step = as.mapM other := by
  induction as with
  | nil => rfl
  | cons a as ih =>
    rw [List.mapM_cons, List.mapM_cons, agree a List.mem_cons_self,
      ih fun b member => agree b (List.mem_cons_of_mem _ member)]

/-- A traversal in which no step fails is a map. -/
theorem mapM_of_ok {step : α → Except ε β} {result : α → β} {as : List α}
    (succeeds : ∀ a ∈ as, step a = .ok (result a)) : as.mapM step = .ok (as.map result) := by
  rw [mapM_congr succeeds]
  exact List.mapM_pure

/-- The first step that fails ends a traversal. -/
theorem mapM_of_error {step : α → Except ε β} {front rest : List α} {a : α} {fault : ε}
    (succeeds : ∀ a ∈ front, ∃ b, step a = .ok b) (fails : step a = .error fault) :
    (front ++ a :: rest).mapM step = .error fault := by
  induction front with
  | nil =>
    rw [List.nil_append, List.mapM_cons, fails]
    rfl
  | cons first front ih =>
    obtain ⟨b, run⟩ := succeeds first List.mem_cons_self
    rw [List.cons_append, List.mapM_cons, run,
      ih fun other member => succeeds other (List.mem_cons_of_mem _ member)]
    rfl

/-- A selection in which no test fails is a filter. -/
theorem filterM_of_ok {ask : α → Except ε Bool} {answer : α → Bool} {as : List α}
    (succeeds : ∀ a ∈ as, ask a = .ok (answer a)) : as.filterM ask = .ok (as.filter answer) := by
  have select : ∀ chosen,
      as.filterAuxM ask chosen = .ok ((as.filter answer).reverse ++ chosen) := by
    induction as with
    | nil => exact fun chosen => rfl
    | cons a as ih =>
      intro chosen
      have rest := ih (fun b member => succeeds b (List.mem_cons_of_mem _ member))
        (cond (answer a) (a :: chosen) chosen)
      rw [List.filterAuxM, succeeds a List.mem_cons_self, List.filter_cons]
      refine Eq.trans rest ?_
      cases answer a <;> simp
  rw [List.filterM, select, List.append_nil]
  exact congrArg Except.ok (List.reverse_reverse _)

end Queries

end JavaTypes
