/-
**Towers of arrays.**

Dimensions are added to a type one at a time: on the type stands the array of it, on that the array
of the array, and so on. Every level of such a tower has a handle of its own, which is newer than
those below it, and the element types lead down again through the same handles. A tower that was
built once is never built again. It is known by what it stands on: going down from one level to
what is no array, there is only one way.

* `Session.tower`: the handles on the way up. `Session.arrays` ends at the last of them.
* `Registry.descent`: the handles on the way down.
* `Registry.Tower`: a tower that stands in a registry.
* `Session.tower_ok`, `Session.tower_again`: towers are built, and found again.
* `Registry.Raised`: what is told of a level; `Registry.Tower.raised` tells it.
* `Registry.Tower.disjoint`: towers on different types that are no arrays have no level in common.
* `Session.array_towers`: all this of the sessions that requests lead to.
-/

import JavaTypes.Proofs.Descriptions
import JavaTypes.Proofs.Descriptors
import JavaTypes.Proofs.Stability

namespace JavaTypes

/-! ### Up and down -/

namespace Session

/-- Adds so many dimensions, one at a time. The handles on the way are the answer: the one that it
begins with, and one for each dimension. -/
def tower : Nat → Handle → SessionM (List Handle)
  | 0, id => return [id]
  | dimensions + 1, id => do
    let levels ← tower dimensions (← array id)
    return id :: levels

end Session

namespace Registry

/-- Takes off so many dimensions, one at a time. The handles on the way are the answer. -/
def descent (r : Registry) : Nat → Handle → Except Fault (List Handle)
  | 0, id => return [id]
  | dimensions + 1, id => do
    let levels ← r.descent dimensions (← r.elementType id)
    return id :: levels

/-- **A tower in a registry**: so many levels above the handle that it stands on, each one the
array of the level below. -/
inductive Tower (r : Registry) : Nat → Handle → List Handle → Prop
  | ground (id : Handle) : Tower r 0 id [id]
  | level {dimensions : Nat} {id row : Handle} {levels : List Handle}
    (known : r.shape? row = some (.array id)) (above : Tower r dimensions row levels) :
    Tower r (dimensions + 1) id (id :: levels)

variable {r new : Registry} {dimensions dimensions' : Nat} {id id' level : Handle}
  {levels levels' : List Handle} {type type' : JavaType}

namespace Tower

theorem length_eq (tower : r.Tower dimensions id levels) : levels.length = dimensions + 1 := by
  induction tower with
  | ground id => rfl
  | level known above ih => rw [List.length_cons, ih]

theorem head?_eq (tower : r.Tower dimensions id levels) : levels.head? = some id := by
  cases tower <;> rfl

theorem mono (grows : r.Grows new) (tower : r.Tower dimensions id levels) :
    new.Tower dimensions id levels := by
  induction tower with
  | ground id => exact .ground id
  | level known above ih => exact .level (grows.shape? known) ih

/-! ### Levels are different -/

/-- No level is older than what the tower stands on. -/
theorem index_le (sound : r.Sound) (tower : r.Tower dimensions id levels) :
    ∀ level ∈ levels, id.index ≤ level.index := by
  induction tower with
  | ground id =>
    intro level member
    rw [List.mem_singleton.mp member]
  | @level _ id row levels known above ih =>
    have older : id.index < row.index := sound.older row _ known id (List.mem_singleton_self id)
    intro level member
    rcases List.mem_cons.mp member with rfl | later
    · exact Nat.le_refl _
    · exact Nat.le_trans (Nat.le_of_lt older) (ih level later)

/-- **The levels are different**, as each is newer than the ones below. -/
theorem nodup (sound : r.Sound) (tower : r.Tower dimensions id levels) : levels.Nodup := by
  induction tower with
  | ground id => exact List.nodup_singleton id
  | @level _ id row levels known above ih =>
    have older : id.index < row.index := sound.older row _ known id (List.mem_singleton_self id)
    refine List.nodup_cons.mpr ⟨fun again => ?_, ih⟩
    have newer := above.index_le sound id again
    omega

/-! ### The way down -/

/-- The way down, when each handle on it is the element type of the one before. -/
theorem descent_of_isChain {top : Handle} {down : List Handle}
    (steps : (top :: down).IsChain fun row element => r.elementType row = .ok element) :
    r.descent down.length top = .ok (top :: down) := by
  induction down generalizing top with
  | nil => rfl
  | cons element down ih =>
    obtain ⟨elements, rest⟩ := List.isChain_cons_cons.mp steps
    rw [List.length_cons, descent, elements]
    show (r.descent down.length element >>= _) = _
    rw [ih rest]
    rfl

/-- Each level has the one below as its element type. -/
theorem isChain (tower : r.Tower dimensions id levels) :
    levels.IsChain fun element row => r.elementType row = .ok element := by
  induction tower with
  | ground id => exact List.isChain_singleton id
  | @level _ id row levels known above ih =>
    refine List.isChain_cons.mpr ⟨fun next first => ?_, ih⟩
    rw [above.head?_eq] at first
    cases first
    rw [elementType, shape_of_shape? known]
    rfl

/-- **The way down leads through the levels**, from the last to the first. -/
theorem descent_eq (tower : r.Tower dimensions id levels) {top : Handle}
    (last : levels.getLast? = some top) : r.descent dimensions top = .ok levels.reverse := by
  have down : levels.reverse = top :: levels.reverse.tail := by
    rw [← List.head?_reverse] at last
    exact (List.cons_head?_tail last).symm
  have steps : levels.reverse.IsChain fun row element => r.elementType row = .ok element :=
    List.isChain_reverse.mpr tower.isChain
  have long : levels.reverse.tail.length = dimensions := by
    rw [List.length_tail, List.length_reverse, tower.length_eq, Nat.add_sub_cancel]
  rw [down] at steps ⊢
  rw [← long]
  exact descent_of_isChain steps

/-! ### What is told of a level -/

/-- The type of a level has as many dimensions more as the level is high. -/
theorem typeOf_level (sound : r.Sound) (tower : r.Tower dimensions id levels)
    (typed : r.typeOf id = .ok type) {height : Nat} (here : levels[height]? = some level) :
    r.typeOf level = .ok (JavaType.array^[height] type) := by
  induction tower generalizing height type with
  | ground id =>
    cases height with
    | zero =>
      cases here
      exact typed
    | succ height => cases here
  | level known above ih =>
    cases height with
    | zero =>
      cases here
      exact typed
    | succ height => exact ih ((sound.typeOf_of_shape? known).mpr (.array typed)) here

end Tower

/-- One of the names of a type is that of another with as many pairs of brackets behind it. -/
def WrittenAbove (name : Handle → Except Fault String) (base : Handle) (height : Nat)
    (id : Handle) : Prop :=
  ∃ text, name base = .ok text ∧ name id = .ok (text ++ String.join (List.replicate height "[]"))

/-- **What is told of a type that is so many dimensions above another.** -/
structure Raised (r : Registry) (base : Handle) (height : Nat) (id : Handle) : Prop where
  fullName : WrittenAbove r.fullName base height id
  binaryName : WrittenAbove r.binaryName base height id
  simpleName : WrittenAbove r.simpleName base height id
  descriptor : ∃ text, r.descriptor base = .ok text ∧
    r.descriptor id = .ok (String.join (List.replicate height "[") ++ text)
  /-- An array is not changed by any conversion, and has no package and no class around it. -/
  boxed : 0 < height → r.boxed id = .ok id
  unboxed : 0 < height → r.unboxed id = .ok id
  erasure : 0 < height → r.erasure id = .ok id
  packageName : 0 < height → r.packageName id = .ok none
  outer : 0 < height → r.outer id = .ok none

/-- A query whose answer has the type that it was asked about answers with the same handle. -/
theorem Sound.eq_self_of_answer (sound : r.Sound) (typed : r.typeOf id = .ok type)
    {ask : Except Fault Handle}
    (answered : ∃ answer, ask = .ok answer ∧ r.typeOf answer = .ok type) : ask = .ok id := by
  obtain ⟨answer, told, typed'⟩ := answered
  rw [told, sound.typeOf_injective typed' typed]

/-- **A sound registry tells so** about a type with so many dimensions more. -/
theorem Sound.raised (sound : r.Sound) {height : Nat} (typed : r.typeOf id = .ok type)
    (above : r.typeOf level = .ok (JavaType.array^[height] type)) : r.Raised id height level := by
  have base := sound.tells typed
  have told := sound.tells above
  have written : ∀ write : ClassName → String, (JavaType.array^[height] type).textWith write =
      type.textWith write ++ String.join (List.replicate height "[]") := fun write =>
    TypeExpr.textWith_arrays write height type
  have array : 0 < height → ∃ element, JavaType.array^[height] type = .array element := by
    intro high
    obtain ⟨below, rfl⟩ := Nat.exists_eq_add_one_of_ne_zero (Nat.ne_of_gt high)
    exact ⟨_, Function.iterate_succ_apply' _ _ _⟩
  refine ⟨⟨_, base.fullName, ?_⟩, ⟨_, base.binaryName, ?_⟩, ⟨_, base.simpleName, ?_⟩,
    ⟨_, base.descriptor, ?_⟩, fun high => ?_, fun high => ?_, fun high => ?_, fun high => ?_,
    fun high => ?_⟩
  · exact told.fullName.trans (congrArg Except.ok (written _))
  · exact told.binaryName.trans (congrArg Except.ok (written _))
  · exact told.simpleName.trans (congrArg Except.ok (written _))
  · exact told.descriptor.trans (congrArg Except.ok (TypeExpr.descriptor_arrays height type))
  all_goals
    obtain ⟨element, shape⟩ := array high
    rw [shape] at above told
  · exact sound.eq_self_of_answer above told.boxed
  · exact sound.eq_self_of_answer above told.unboxed
  · exact sound.eq_self_of_answer above told.erasure
  · exact told.packageName
  · obtain ⟨around, outer, alone⟩ := told.outer
    cases alone
    exact outer

/-! ### Towers on different types -/

/-- Dimensions do not change what the innermost elements are. -/
theorem innermost_arrays (height : Nat) (type : JavaType) :
    (JavaType.array^[height] type).innermost = type.innermost := by
  induction height with
  | zero => rfl
  | succ height ih => rw [Function.iterate_succ_apply', JavaType.innermost, ih]

/-- What is no array is its own innermost element. -/
theorem Sound.innermost_eq_self (sound : r.Sound) (typed : r.typeOf id = .ok type)
    (plain : r.isArray id = .ok false) : type.innermost = type := by
  have told := sound.isArray_ok typed
  cases type with
  | array element => cases plain.symm.trans told
  | primitive kind | rawClass name | parameterized basis arguments => rfl

/-- **Towers on different types that are no arrays have no level in common**: the innermost elements
of a level are what the tower stands on. -/
theorem Tower.disjoint (sound : r.Sound) (tower : r.Tower dimensions id levels)
    (tower' : r.Tower dimensions' id' levels') (plain : r.isArray id = .ok false)
    (plain' : r.isArray id' = .ok false) (issued : r.Issued id) (issued' : r.Issued id')
    (different : id ≠ id') : levels.Disjoint levels' := by
  intro level member member'
  obtain ⟨height, here⟩ := List.mem_iff_getElem?.mp member
  obtain ⟨height', here'⟩ := List.mem_iff_getElem?.mp member'
  obtain ⟨type, typed⟩ := sound.typeOf_total issued
  obtain ⟨type', typed'⟩ := sound.typeOf_total issued'
  have same : JavaType.array^[height] type = JavaType.array^[height'] type' :=
    Except.ok.inj ((tower.typeOf_level sound typed here).symm.trans
      (tower'.typeOf_level sound typed' here'))
  have inside := congrArg JavaType.innermost same
  rw [innermost_arrays, innermost_arrays, sound.innermost_eq_self typed plain,
    sound.innermost_eq_self typed' plain'] at inside
  rw [← inside] at typed'
  exact different (sound.typeOf_injective typed typed')

end Registry

/-! ### Building towers -/

namespace Session

open Registry

variable {s left : Session} {id row : Handle} {dimensions : Nat} {levels : List Handle}

/-- **An array of issued elements is had for the asking**, unless the elements are `void`. -/
theorem array_ok (sound : s.registry.Sound) (issued : s.registry.Issued id) (sized : id ≠ .void) :
    ∃ row left, array id s = .ok row left ∧ left = (Call.array id).after s ∧
      left.registry.Sound ∧ s.registry.Grows left.registry ∧
      left.registry.shape? row = some (.array id) := by
  obtain ⟨shape, known⟩ := issued_iff.mp issued
  have asks : (Call.array id).Requests s.registry s.registry.names (.array id) :=
    .array known sized
  have run := asks.perform
  refine ⟨_, _, run, ?_, Call.sound_of_ok sound run, Call.grows_of_ok run,
    shape?_intern (s := s.withNames s.registry.names) sound _⟩
  rw [Call.after, run]

/-- An array that is known keeps its handle, and the session stays as it is. -/
theorem array_again (sound : s.registry.Sound) (known : s.registry.shape? row = some (.array id)) :
    array id s = .ok row s := by
  have admits : s.registry.Admits (.array id) := sound.admitted row _ known
  obtain ⟨shape, issued⟩ := issued_iff.mp admits.1
  obtain ⟨type, typed⟩ := sound.typeOf_total (issued_of_shape? known)
  cases (sound.typeOf_of_shape? known).mp typed with
  | array elements =>
    exact Call.perform_of_known sound (.array issued admits.2) (.array elements) typed

/-- **Towers are built on every issued type but `void`**, by one request for each dimension. -/
theorem tower_ok (sound : s.registry.Sound) (issued : s.registry.Issued id) (sized : id ≠ .void)
    (dimensions : Nat) :
    ∃ levels left, tower dimensions id s = .ok levels left ∧
      left = s.after (levels.dropLast.map Call.array) ∧
      left.registry.Sound ∧ s.registry.Grows left.registry ∧
      left.registry.Tower dimensions id levels := by
  induction dimensions generalizing s id with
  | zero => exact ⟨[id], s, rfl, rfl, sound, .refl _, .ground id⟩
  | succ dimensions ih =>
    obtain ⟨row, middle, run, rfl, sound', growth, known⟩ := array_ok sound issued sized
    have sized' : row ≠ .void := by
      rintro rfl
      cases known.symm.trans (sound'.primitives .void)
    obtain ⟨levels, left, rest, calls, final, growth', above⟩ :=
      ih sound' (issued_of_shape? known) sized'
    refine ⟨id :: levels, left, ?_, ?_, final, growth.trans growth',
      .level (growth'.shape? known) above⟩
    · rw [tower, bind_of_ok run, bind_of_ok rest]
      rfl
    · have nonempty : levels ≠ [] := List.ne_nil_of_length_eq_add_one above.length_eq
      rw [List.dropLast_cons_of_ne_nil nonempty, calls]
      rfl

/-- **A tower that stands is found again**, and nothing is added. -/
theorem tower_again (sound : s.registry.Sound) (stands : s.registry.Tower dimensions id levels) :
    tower dimensions id s = .ok levels s := by
  induction stands with
  | ground id => rfl
  | level known above ih =>
    rw [tower, bind_of_ok (array_again sound known), bind_of_ok ih]
    rfl

/-- Adding dimensions ends at the last level of the tower. -/
theorem arrays_of_tower (built : tower dimensions id s = .ok levels left) :
    ∃ top, levels.getLast? = some top ∧ arrays dimensions id s = .ok top left := by
  induction dimensions generalizing s id levels with
  | zero =>
    cases built
    exact ⟨id, rfl, rfl⟩
  | succ dimensions ih =>
    obtain ⟨row, middle, run, rest⟩ := bind_eq_ok built
    obtain ⟨above, middle', rest, same⟩ := bind_eq_ok rest
    cases same
    obtain ⟨top, last, ends⟩ := ih rest
    refine ⟨top, ?_, ?_⟩
    · rw [List.getLast?_cons, last]
      rfl
    · rw [arrays, bind_of_ok run]
      exact ends

/-- **What was built stands** on the handle that it was built on. -/
theorem tower_of_built (sound : s.registry.Sound) (issued : s.registry.Issued id)
    (built : tower dimensions id s = .ok levels left) :
    left.registry.Sound ∧ s.registry.Grows left.registry ∧
      left.registry.Tower dimensions id levels := by
  by_cases void : id = .void
  · subst void
    cases dimensions with
    | zero =>
      cases built
      exact ⟨sound, .refl _, .ground _⟩
    | succ dimensions =>
      rw [tower, bind_of_error (array_void sound)] at built
      cases built
  · obtain ⟨levels', left', run, _, final, growth, stands⟩ :=
      tower_ok sound issued void dimensions
    cases built.symm.trans run
    exact ⟨final, growth, stands⟩

/-- **Towers of arrays.** Take the session `s` after any requests. On every issued handle but that
of `void` a tower of any height can be built, by one request for an array after the other. It has
one handle for each dimension above the one that it stands on, all different; adding dimensions ends
at the last of them, and taking them off leads back through the same handles. Of each level it is
told that its names are those of the ground with a pair of brackets for each dimension behind them,
and its descriptor is that of the ground behind as many brackets; above the ground neither boxing
nor unboxing nor erasure changes it, and it has no package and no class around it. Built again, at
once or after any further requests, the tower is the same and nothing is added. If the ground is no
array, then a tower that is built on another handle, whatever was requested in between, has no
level in common with it, unless that stands on an array. There is no array of `void`, and asking
for it leaves the session as it is. -/
theorem array_towers (calls : List Call) :
    let s := initial.after calls
    (∀ id, s.registry.Issued id → id ≠ .void → ∀ dimensions, ∃ levels left,
      tower dimensions id s = .ok levels left ∧
      left = s.after (levels.dropLast.map Call.array) ∧
      levels.head? = some id ∧ levels.length = dimensions + 1 ∧ levels.Nodup ∧
      (∃ top, levels.getLast? = some top ∧ arrays dimensions id s = .ok top left ∧
        left.registry.descent dimensions top = .ok levels.reverse) ∧
      (∀ height level, levels[height]? = some level → left.registry.Raised id height level) ∧
      (∀ more, tower dimensions id (left.after more) = .ok levels (left.after more)) ∧
      (s.registry.isArray id = .ok false → ∀ more other dimensions' levels' left',
        (left.after more).registry.Issued other →
        (left.after more).registry.isArray other = .ok false → id ≠ other →
        tower dimensions' other (left.after more) = .ok levels' left' →
        levels.Disjoint levels')) ∧
    array .void s = .error (.refused .arrayOfVoid) s := by
  intro s
  have sound : s.registry.Sound := sound_after_initial calls
  refine ⟨fun id issued sized dimensions => ?_, array_void sound⟩
  obtain ⟨levels, left, built, calls', final, growth, stands⟩ :=
    tower_ok sound issued sized dimensions
  obtain ⟨top, last, ends⟩ := arrays_of_tower built
  refine ⟨levels, left, built, calls', stands.head?_eq, stands.length_eq, stands.nodup final,
    ⟨top, last, ends, stands.descent_eq last⟩, fun height level here => ?_, fun more => ?_,
    fun plain more other dimensions' levels' left' issued' plain' different built' => ?_⟩
  · obtain ⟨type, typed⟩ := final.typeOf_total (growth.issued issued)
    exact final.raised typed (stands.typeOf_level final typed here)
  · exact tower_again (sound_after final more) (stands.mono (grows_after left more))
  · have later := sound_after final more
    obtain ⟨final', growth', stands'⟩ := tower_of_built later issued' built'
    have growth'' := growth.trans ((grows_after left more).trans growth')
    have plainLater : left'.registry.isArray id = .ok false :=
      (sound.answersAlike final' growth'' issued).isArray.trans plain
    have plainLater' : left'.registry.isArray other = .ok false :=
      (later.answersAlike final' growth' issued').isArray.trans plain'
    exact (stands.mono ((grows_after left more).trans growth')).disjoint final' stands' plainLater
      plainLater' (growth''.issued issued) (growth'.issued issued') different

/-- A tower of two dimensions on a class, and after the class was applied to an `int` one of three
dimensions on `int`. -/
theorem array_towers_two_grounds :
    let s := initial.after [.reference "a.B"]
    ∃ levels left levels' left', tower 2 ⟨18⟩ s = .ok levels left ∧ levels.length = 3 ∧
      levels.Nodup ∧ (∃ top, levels[2]? = some top ∧ left.registry.Raised ⟨18⟩ 2 top) ∧
      tower 3 (.ofPrimitive .int) (left.after [.narrow ⟨18⟩ [.ofPrimitive .int]]) =
        .ok levels' left' ∧ levels.Disjoint levels' := by
  intro s
  obtain ⟨towers, _⟩ := array_towers [.reference "a.B"]
  have count : s.registry.typeCount = 19 := by subst s; cbv
  have plain : s.registry.isArray ⟨18⟩ = .ok false := by subst s; cbv
  have issued : s.registry.Issued ⟨18⟩ := by
    rw [Issued, count]
    decide
  obtain ⟨levels, left, built, calls, _, long, different, _, raised, _, apart⟩ :=
    towers ⟨18⟩ issued (by decide) 2
  have later : left.after [.narrow ⟨18⟩ [.ofPrimitive .int]] = initial.after
      (([.reference "a.B"] ++ levels.dropLast.map Call.array) ++
        [.narrow ⟨18⟩ [.ofPrimitive .int]]) := by
    rw [after_append, after_append, ← calls]
  have sound := sound_after_initial (([.reference "a.B"] ++ levels.dropLast.map Call.array) ++
    [.narrow ⟨18⟩ [.ofPrimitive .int]])
  rw [← later] at sound
  have int := sound.primitives .int
  have plain' : (left.after [.narrow ⟨18⟩ [.ofPrimitive .int]]).registry.isArray
      (.ofPrimitive .int) = .ok false := by
    rw [isArray, shape_of_shape? int]
    rfl
  obtain ⟨levels', left', built', _⟩ := tower_ok sound (issued_of_shape? int) (by decide) 3
  have top : 2 < levels.length := by omega
  exact ⟨levels, left, levels', left', built, long, different,
    ⟨levels[2], List.getElem?_eq_getElem top, raised 2 _ (List.getElem?_eq_getElem top)⟩, built',
    apart plain _ _ _ _ _ (issued_of_shape? int) plain' (by decide) built'⟩

end Session

end JavaTypes
