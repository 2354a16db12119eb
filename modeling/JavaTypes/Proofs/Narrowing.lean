/-
**Applying a class to type arguments.**

A request to apply a class looks at the class, then at whether there are arguments, and then at the
arguments from left to right. The first thing that is wrong decides, whatever is wrong behind it,
and nothing changes. If nothing is wrong the class is applied to the boxed arguments, and what is
told about the answer is told by the class and by these.

* `Registry.Applied`, `Registry.Sound.applied`: what is told about a class with type arguments.
* `Session.narrow_of_unissued`, `Session.narrow_of_not_raw`, `Session.narrow_of_unfit`: what a
  request is refused for.
* `Session.narrow_applied`: a request that nothing is wrong with.
* `Session.narrow_eq_iff`: two requests with the same answer.
* `Session.applications_decided`: all of it, in the sessions that requests lead to.
-/

import JavaTypes.Proofs.Stability

namespace JavaTypes

/-! ### What is told about a class with type arguments -/

/-- The text of a class with type arguments, from the texts of its parts. -/
theorem JavaType.textWith_parameterized (write : ClassName → String) (basis : ClassName)
    (arguments : List JavaType) :
    textWith write (parameterized basis arguments) = textWith write (rawClass basis) ++ "<" ++
      ",".intercalate (arguments.map (textWith write)) ++ ">" := by
  rw [textWith, textWith, textsWith_eq_map]

namespace Registry

variable {r : Registry} {id raw : Handle}

theorem shape?_of_unissued (unissued : ¬ r.Issued id) : r.shape? id = none :=
  Option.eq_none_iff_forall_ne_some.mpr fun _ known => unissued (issued_of_shape? known)

/-- The class behind a handle of its erasure is also that around it. -/
theorem outer_of_erasure (erased : r.erasure id = .ok raw) (erased' : r.erasure raw = .ok raw) :
    r.outer id = r.outer raw := by
  rw [outer, outer, erased, erased']

/-- The name is the one of the class, and in angle brackets those of the arguments. -/
def WrittenBehind (name : Handle → Except Fault String) (basis : Handle) (arguments : List Handle)
    (id : Handle) : Prop :=
  ∃ own each, name basis = .ok own ∧ arguments.mapM name = .ok each ∧
    name id = .ok (own ++ "<" ++ ",".intercalate each ++ ">")

/-- **What is told about a class with type arguments.** Apart from the arguments and the names it is
what is told about the class. -/
structure Applied (r : Registry) (basis : Handle) (arguments : List Handle) (id : Handle) :
    Prop where
  typeArguments : r.typeArguments id = .ok arguments
  erasure : r.erasure id = .ok basis
  outer : ∃ around, r.outer basis = .ok around ∧ r.outer id = .ok around
  packageName : ∃ package, r.packageName basis = .ok (some package) ∧
    r.packageName id = .ok (some package)
  descriptor : ∃ text, r.descriptor basis = .ok text ∧ r.descriptor id = .ok text
  fullName : WrittenBehind r.fullName basis arguments id
  binaryName : WrittenBehind r.binaryName basis arguments id
  simpleName : WrittenBehind r.simpleName basis arguments id

/-- The names of types are written so, however classes are written. -/
theorem writtenBehind {name : Handle → Except Fault String} {write : ClassName → String}
    {basis : Handle} {arguments : List Handle} {generic : ClassName} {types : List JavaType}
    (written : ∀ {id type}, r.typeOf id = .ok type → name id = .ok (type.textWith write))
    (applied : r.typeOf basis = .ok (.rawClass generic))
    (each : List.Forall₂ (fun argument type => r.typeOf argument = .ok type) arguments types)
    (typed : r.typeOf id = .ok (.parameterized generic types)) :
    WrittenBehind name basis arguments id := by
  refine ⟨_, types.map (JavaType.textWith write), written applied, ?_, ?_⟩
  · exact mapM_eq_ok_iff.mpr (List.forall₂_map_right_iff.mpr
      (each.imp fun _ _ typed => written typed))
  · rw [written typed, JavaType.textWith_parameterized]

/-- **A sound registry tells so** about every handle with such a shape. -/
theorem Sound.applied (sound : r.Sound) {basis : Handle} {arguments : List Handle}
    (known : r.shape? id = some (.parameterized basis arguments)) :
    r.Applied basis arguments id := by
  obtain ⟨type, typed⟩ := sound.typeOf_total (issued_of_shape? known)
  cases (sound.typeOf_of_shape? known).mp typed with
  | @parameterized _ _ generic types applied each =>
    have told := sound.tells typed
    have basisTold := sound.tells applied
    have erased : r.erasure id = .ok basis := by
      rw [erasure, shape_of_shape? known]
      rfl
    have erased' : r.erasure basis = .ok basis := by
      obtain ⟨package, around, own, raw⟩ := sound.shape?_of_rawClass applied
      rw [erasure, shape_of_shape? raw]
      rfl
    obtain ⟨around, outer, _⟩ := basisTold.outer
    exact {
      typeArguments := by
        rw [typeArguments, shape_of_shape? known]
        rfl
      erasure := erased
      outer := ⟨around, outer, (outer_of_erasure erased erased').trans outer⟩
      packageName := ⟨_, basisTold.packageName, told.packageName⟩
      descriptor := ⟨_, basisTold.descriptor, told.descriptor⟩
      fullName := writtenBehind fullName_of_typeOf applied each typed
      binaryName := writtenBehind binaryName_of_typeOf applied each typed
      simpleName := writtenBehind (fun typed => (sound.tells typed).simpleName) applied each typed }

end Registry

/-! ### What is wrong with a request -/

namespace Session

open Registry

variable {s left : Session} {basis id argument : Handle} {arguments front rest : List Handle}
  {package : NameId}

/-- A class that was never issued comes before everything else. -/
theorem narrow_of_unissued (unissued : ¬ s.registry.Issued basis) (arguments : List Handle) :
    narrow basis arguments s = .error (.unissued basis) s := by
  rw [narrow, bind_of_error (query_of_error (shape_of_none (shape?_of_unissued unissued)))]

/-- Then comes a type that is no raw class. -/
theorem narrow_of_not_raw (sound : s.registry.Sound) (issued : s.registry.Issued basis)
    (other : ∀ package, ¬ s.registry.IsRaw basis package) (arguments : List Handle) :
    ∃ full, s.registry.fullName basis = .ok full ∧
      narrow basis arguments s = .error (.refused (.notClass full)) s := by
  obtain ⟨type, typed⟩ := sound.typeOf_total issued
  obtain ⟨shape, known⟩ := issued_iff.mp issued
  have named := fullName_of_typeOf typed
  refine ⟨type.fullName, named, ?_⟩
  rw [narrow, bind_of_ok (query_of_ok (shape_of_shape? known))]
  cases shape with
  | rawClass package around own => exact absurd ⟨around, own, known⟩ (other package)
  | primitive kind | parameterized inner applied | array element =>
    exact bind_of_ok (query_of_ok named)

theorem narrow_nil (raw : s.registry.IsRaw basis package) :
    narrow basis [] s = .error (.refused .noTypeArguments) s := by
  obtain ⟨around, own, known⟩ := raw
  rw [narrow, bind_of_ok (query_of_ok (shape_of_shape? known))]
  rfl

/-- **The leftmost unfit argument decides.** -/
theorem narrow_of_unfit {fault : Fault} (raw : s.registry.IsRaw basis package)
    (fit : ∀ argument ∈ front, s.registry.Issued argument ∧ argument ≠ .void)
    (unfit : boxedArgument s.registry argument = .error fault) :
    narrow basis (front ++ argument :: rest) s = .error fault s := by
  obtain ⟨around, own, known⟩ := raw
  have failed : (front ++ argument :: rest).mapM (boxedArgument s.registry) = .error fault :=
    mapM_of_error (fun other member => boxedArgument_ok (fit other member).1 (fit other member).2)
      unfit
  rw [narrow, bind_of_ok (query_of_ok (shape_of_shape? known))]
  simp only
  rw [if_neg (by simp), bind_of_error (query_of_error failed)]

/-- A handle that was never issued is not that of `void`, which every registry knows. -/
theorem boxedArgument_of_unissued {r : Registry} (sound : r.Sound)
    (unissued : ¬ r.Issued argument) : boxedArgument r argument = .error (.unissued argument) := by
  have sized : argument ≠ .void := by
    rintro rfl
    exact unissued (issued_of_shape? (sound.primitives .void))
  rw [boxedArgument, if_neg sized, boxed, shape_of_none (shape?_of_unissued unissued)]
  rfl

/-! ### A request that nothing is wrong with -/

/-- What a type argument is stored as is what it is boxed to. -/
theorem boxed_of_boxedArgument {r : Registry} {box : Handle}
    (fit : boxedArgument r argument = .ok box) : r.boxed argument = .ok box := by
  obtain ⟨sized, _⟩ := Call.boxedArgument_cases fit
  rwa [boxedArgument, if_neg sized] at fit

/-- **A request that succeeds stores the class with the boxed arguments.** -/
theorem shape?_of_narrow (sound : s.registry.Sound)
    (succeeds : narrow basis arguments s = .ok id left) :
    ∃ boxed, arguments.mapM s.registry.boxed = .ok boxed ∧
      left.registry.shape? id = some (.parameterized basis boxed) := by
  obtain ⟨names, shape, asks, run⟩ :=
    Call.requests_of_ok (show (Call.narrow basis arguments).perform s = _ from succeeds)
  have stored := shape?_intern (s := s.withNames names) (asks.sound sound) shape
  rw [← run] at stored
  cases asks with
  | narrow raw nonempty fit =>
    have boxes := (mapM_eq_ok_iff.mp fit).imp fun _ _ fit => boxed_of_boxedArgument fit
    exact ⟨_, mapM_eq_ok_iff.mpr boxes, stored⟩

theorem sound_of_narrow (sound : s.registry.Sound)
    (succeeds : narrow basis arguments s = .ok id left) :
    left.registry.Sound ∧ s.registry.Grows left.registry := by
  have succeeds' : (Call.narrow basis arguments).perform s = .ok id left := succeeds
  exact ⟨Call.sound_of_ok sound succeeds', Call.grows_of_ok succeeds'⟩

/-- **A raw class is applied to arguments** that were issued and are not `void`. -/
theorem narrow_applied (sound : s.registry.Sound) (raw : s.registry.IsRaw basis package)
    (nonempty : arguments ≠ [])
    (fit : ∀ argument ∈ arguments, s.registry.Issued argument ∧ argument ≠ .void) :
    ∃ boxed id left, arguments.mapM s.registry.boxed = .ok boxed ∧
      narrow basis arguments s = .ok id left ∧ left.registry.Applied basis boxed id := by
  obtain ⟨around, own, known⟩ := raw
  obtain ⟨boxed, fits⟩ := exists_forall₂ fun argument member =>
    boxedArgument_ok (fit argument member).1 (fit argument member).2
  have asks : (Call.narrow basis arguments).Requests s.registry s.registry.names
      (.parameterized basis boxed) := .narrow known nonempty (mapM_eq_ok_iff.mpr fits)
  have run : narrow basis arguments s = .ok _ _ := asks.perform
  obtain ⟨boxed, boxes, stored⟩ := shape?_of_narrow sound run
  exact ⟨boxed, _, _, boxes, run, (Call.sound_of_ok sound asks.perform).applied stored⟩

/-- **Two requests have the same answer** exactly if they apply the same class to arguments that are
boxed to the same. The later one is made in a session that the earlier one and any further requests
led to. -/
theorem narrow_eq_iff (sound : s.registry.Sound) {more : List Call} {basis' id' : Handle}
    {arguments' : List Handle} {left' : Session}
    (succeeds : narrow basis arguments s = .ok id left)
    (succeeds' : narrow basis' arguments' (left.after more) = .ok id' left') :
    ∃ boxed boxed', arguments.mapM s.registry.boxed = .ok boxed ∧
      arguments'.mapM (left.after more).registry.boxed = .ok boxed' ∧
      (id = id' ↔ basis = basis' ∧ boxed = boxed') := by
  have later := sound_after (sound_of_narrow sound succeeds).1 more
  obtain ⟨final, growth⟩ := sound_of_narrow later succeeds'
  obtain ⟨boxed, boxes, stored⟩ := shape?_of_narrow sound succeeds
  obtain ⟨boxed', boxes', stored'⟩ := shape?_of_narrow later succeeds'
  have kept := ((grows_after left more).trans growth).shape? stored
  refine ⟨boxed, boxed', boxes, boxes', ?_, ?_⟩
  · rintro rfl
    cases kept.symm.trans stored'
    exact ⟨rfl, rfl⟩
  · rintro ⟨rfl, rfl⟩
    have place := final.typesFormed.position_unique kept stored'
    cases id
    cases id'
    exact congrArg Handle.mk place

/-- **Requests to apply a class are decided from left to right.** In the session `s` after any
requests, take any handles, issued or not. If the class was never issued, that is the fault. If it
is no raw class, the request is refused with its full name; on an empty list of arguments, because
there are none. Otherwise the leftmost argument decides that is `void`, which is refused, or was
never issued. If there is none, the request is met: the answer has the boxed arguments as its type
arguments and the class as its erasure, what is around it, its package and its descriptor are those
of the class, and each of its names is that of the class, with those of the boxed arguments in angle
brackets and commas between them. A request that fails leaves the session as it is. Two successful
requests, whatever comes between them, have the same answer exactly if the classes are the same and
the boxed arguments are. -/
theorem applications_decided (calls : List Call) :
    let s := initial.after calls
    (∀ basis arguments, ¬ s.registry.Issued basis →
      narrow basis arguments s = .error (.unissued basis) s) ∧
    (∀ basis arguments, s.registry.Issued basis → (∀ package, ¬ s.registry.IsRaw basis package) →
      ∃ full, s.registry.fullName basis = .ok full ∧
        narrow basis arguments s = .error (.refused (.notClass full)) s) ∧
    (∀ basis package, s.registry.IsRaw basis package →
      narrow basis [] s = .error (.refused .noTypeArguments) s ∧
      (∀ front rest, (∀ argument ∈ front, s.registry.Issued argument ∧ argument ≠ .void) →
        narrow basis (front ++ .void :: rest) s = .error (.refused .voidTypeArgument) s ∧
        ∀ argument, ¬ s.registry.Issued argument →
          narrow basis (front ++ argument :: rest) s = .error (.unissued argument) s) ∧
      ∀ arguments, arguments ≠ [] →
        (∀ argument ∈ arguments, s.registry.Issued argument ∧ argument ≠ .void) →
        ∃ boxed id left, arguments.mapM s.registry.boxed = .ok boxed ∧
          narrow basis arguments s = .ok id left ∧ left.registry.Applied basis boxed id) ∧
    ∀ basis arguments id left more basis' arguments' id' left',
      narrow basis arguments s = .ok id left →
      narrow basis' arguments' (left.after more) = .ok id' left' →
      ∃ boxed boxed', arguments.mapM s.registry.boxed = .ok boxed ∧
        arguments'.mapM (left.after more).registry.boxed = .ok boxed' ∧
        (id = id' ↔ basis = basis' ∧ boxed = boxed') := by
  intro s
  have sound : s.registry.Sound := sound_after_initial calls
  refine ⟨fun basis arguments unissued => narrow_of_unissued unissued arguments,
    fun basis arguments issued other => narrow_of_not_raw sound issued other arguments,
    fun basis package raw => ⟨narrow_nil raw, fun front rest fit => ⟨?_, ?_⟩,
      fun arguments nonempty fit => narrow_applied sound raw nonempty fit⟩,
    fun basis arguments id left more basis' arguments' id' left' succeeds succeeds' =>
      narrow_eq_iff sound succeeds succeeds'⟩
  · exact narrow_of_unfit raw fit (boxedArgument_void s.registry)
  · exact fun argument unissued =>
      narrow_of_unfit raw fit (boxedArgument_of_unissued sound unissued)

/-- Lists of `int` and of its wrapper class are the same. The wrapper class of `void` may be a type
argument, and behind it either `void` or a handle that was never issued decides. -/
theorem applications_decided_boxing :
    let s := initial.after [.reference "java.util.List"]
    narrow ⟨18⟩ [.ofWrapper .void, .void, ⟨99⟩] s = .error (.refused .voidTypeArgument) s ∧
      narrow ⟨18⟩ [.ofWrapper .void, ⟨99⟩, .void] s = .error (.unissued ⟨99⟩) s ∧
      ∃ id left left', narrow ⟨18⟩ [.ofPrimitive .int] s = .ok id left ∧
        narrow ⟨18⟩ [.ofWrapper .int] left = .ok id left' := by
  intro s
  obtain ⟨_, _, applies, sames⟩ := applications_decided [.reference "java.util.List"]
  have sound : s.registry.Sound := sound_after_initial _
  have count : s.registry.typeCount = 19 := by subst s; cbv
  have raw : s.registry.IsRaw ⟨18⟩ ⟨10⟩ := ⟨none, ⟨11⟩, by subst s; cbv⟩
  have fits : ∀ kind : Primitive, s.registry.Issued (.ofWrapper kind) ∧
      Handle.ofWrapper kind ≠ .void := fun kind => by
    rw [Issued, count]
    cases kind <;> decide
  obtain ⟨_, unfit, met⟩ := applies ⟨18⟩ ⟨10⟩ raw
  obtain ⟨void, unissued⟩ := unfit [.ofWrapper .void] [⟨99⟩] (by simpa using fits .void)
  obtain ⟨_, unissued⟩ := unfit [.ofWrapper .void] [.void] (by simpa using fits .void)
  have far : ¬ s.registry.Issued ⟨99⟩ := by
    rw [Issued, count]
    decide
  have int : s.registry.Issued (.ofPrimitive .int) ∧ Handle.ofPrimitive .int ≠ .void := by
    rw [Issued, count]
    decide
  obtain ⟨boxed, id, left, boxes, run, _⟩ :=
    met [.ofPrimitive .int] (by decide) (by simpa using int)
  obtain ⟨sound', growth⟩ := sound_of_narrow sound run
  have wrapper : ∀ argument ∈ [Handle.ofWrapper .int],
      left.registry.Issued argument ∧ argument ≠ .void := by
    simpa using ⟨growth.issued (fits .int).1, (fits .int).2⟩
  obtain ⟨boxed', id', left', boxes', run', _⟩ :=
    narrow_applied sound' (raw.mono growth) (List.cons_ne_nil _ _) wrapper
  obtain ⟨_, _, same, same', equal⟩ := sames _ _ _ _ [] _ _ _ _ run run'
  have primitiveBox : s.registry.boxed (.ofPrimitive .int) = .ok (.ofWrapper .int) := by
    rw [Registry.boxed, shape_of_shape? (sound.primitives .int)]
    rfl
  have wrapperBox : left.registry.boxed (.ofWrapper .int) = .ok (.ofWrapper .int) := by
    obtain ⟨package, name, known, _⟩ := sound'.wrappers .int
    rw [Registry.boxed, shape_of_shape? known]
    rfl
  have first : [Handle.ofPrimitive .int].mapM s.registry.boxed = .ok [.ofWrapper .int] :=
    mapM_eq_ok_iff.mpr (.cons primitiveBox .nil)
  have second : [Handle.ofWrapper .int].mapM left.registry.boxed = .ok [.ofWrapper .int] :=
    mapM_eq_ok_iff.mpr (.cons wrapperBox .nil)
  cases first.symm.trans same
  cases second.symm.trans same'
  rw [← equal.mpr ⟨rfl, rfl⟩] at run'
  exact ⟨void, unissued ⟨99⟩ far, id, left, left', run, run'⟩

end Session

end JavaTypes
