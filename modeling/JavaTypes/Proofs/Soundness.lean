/-
**What holds of a registry at every moment.**

A registry is sound if its shapes and names are stored once, the primitives and their wrapper
classes have their fixed handles, and every shape refers only to older handles and to names that
make sense where it puts them. A new session has a sound registry, and no request, successful or
not, takes soundness away.

* `Registry.Sound`: the invariant, and `Registry.Admits` what it asks of one shape.
* `Registry.sound_initial`: a new registry is sound.
* `Registry.Sound.insert`: storing an admitted shape keeps a registry sound.
* `Call.Requests.admits`: requests ask for admitted shapes only.
* `Session.sound_after_initial`, `Session.registry_invariant`: every registry that requests lead to
  is sound.
-/

import JavaTypes.Proofs.Calls
import JavaTypes.Proofs.ClassNames

namespace JavaTypes

/-! ### Issued handles and growth -/

namespace Registry

/-- The registry gave out the handle. -/
def Issued (r : Registry) (id : Handle) : Prop := id.index < r.typeCount

theorem issued_iff {r : Registry} {id : Handle} :
    r.Issued id ↔ ∃ shape, r.shape? id = some shape :=
  OrderedSet.lt_size_iff r.types id.index

theorem issued_of_shape? {r : Registry} {id : Handle} {shape : Shape}
    (known : r.shape? id = some shape) : r.Issued id :=
  issued_iff.mpr ⟨shape, known⟩

/-- The registry `new` has everything that `old` has, under the same handles and numbers. -/
structure Grows (old new : Registry) : Prop where
  names : old.names.Grows new.names
  types : old.types.Grows new.types

namespace Grows

variable {old new : Registry}

theorem refl (r : Registry) : r.Grows r := ⟨.refl _, .refl _⟩

theorem trans {middle : Registry} (first : old.Grows middle) (second : middle.Grows new) :
    old.Grows new :=
  ⟨first.names.trans second.names, first.types.trans second.types⟩

theorem text? (grows : old.Grows new) {id : NameId} {text : String}
    (known : old.names.text? id = some text) : new.names.text? id = some text :=
  NamePool.text?_of_grows grows.names known

theorem shape? (grows : old.Grows new) {id : Handle} {shape : Shape}
    (known : old.shape? id = some shape) : new.shape? id = some shape :=
  grows.types.get? known

theorem issued (grows : old.Grows new) {id : Handle} (issued : old.Issued id) : new.Issued id :=
  Nat.lt_of_lt_of_le issued grows.types.size_le

end Grows

/-! ### The invariant -/

/-- Behind the handle stands a raw class of the package. -/
def IsRaw (r : Registry) (id : Handle) (package : NameId) : Prop :=
  ∃ around name, r.shape? id = some (.rawClass package around name)

/-- What a registry may hold. The package of a class is the empty one or has a package name, the
class has a simple name, and a class around it is raw and of the same package; type arguments are
applied to raw classes and are not primitive; there are no arrays of `void`. -/
def Admits (r : Registry) : Shape → Prop
  | .primitive _ => True
  | .rawClass package around name =>
    (∃ text, r.names.text? package = some text ∧ (text = "" ∨ Name.isPackage text = true)) ∧
    (∃ text, r.names.text? name = some text ∧ Name.isNestedName text = true) ∧
    ∀ outer ∈ around, r.IsRaw outer package
  | .parameterized basis arguments =>
    (∃ package, r.IsRaw basis package) ∧ arguments ≠ [] ∧
    ∀ argument ∈ arguments, ∃ shape,
      r.shape? argument = some shape ∧ ∀ kind, shape ≠ .primitive kind
  | .array element => r.Issued element ∧ element ≠ .void

/-- **The invariant of a registry.** -/
structure Sound (r : Registry) : Prop where
  /-- The map from names to numbers and the list of names agree. -/
  namesFormed : r.names.WellFormed
  /-- The map from shapes to handles and the list of shapes agree. -/
  typesFormed : r.types.WellFormed
  /-- The primitives come first, in canonical order. -/
  primitives : ∀ kind, r.shape? (.ofPrimitive kind) = some (.primitive kind)
  /-- Their wrapper classes follow in the same order. -/
  wrappers : ∀ kind, ∃ package name,
    r.shape? (.ofWrapper kind) = some (.rawClass package none name) ∧
    r.names.text? package = some javaLang ∧ r.names.text? name = some kind.wrapperSimpleName
  /-- There are no other primitives. -/
  onlyPrimitives : ∀ id kind, r.shape? id = some (.primitive kind) → id = .ofPrimitive kind
  /-- A shape refers to older handles only. -/
  older : ∀ id shape, r.shape? id = some shape → ∀ part ∈ shape.components, part.index < id.index
  /-- Every shape is one that the registry admits. -/
  admitted : ∀ id shape, r.shape? id = some shape → r.Admits shape

variable {r old new : Registry} {shape : Shape}

theorem IsRaw.mono (grows : old.Grows new) {id : Handle} {package : NameId}
    (raw : old.IsRaw id package) : new.IsRaw id package := by
  obtain ⟨around, name, known⟩ := raw
  exact ⟨around, name, grows.shape? known⟩

/-- What a registry admits it still admits when it has grown. -/
theorem Admits.mono (grows : old.Grows new) (admits : old.Admits shape) : new.Admits shape := by
  cases shape with
  | primitive kind => trivial
  | rawClass package around name =>
    obtain ⟨⟨text, packageKnown, packageFits⟩, ⟨own, nameKnown, nameFits⟩, outerRaw⟩ := admits
    exact ⟨⟨text, grows.text? packageKnown, packageFits⟩, ⟨own, grows.text? nameKnown, nameFits⟩,
      fun outer member => (outerRaw outer member).mono grows⟩
  | parameterized basis arguments =>
    obtain ⟨⟨package, raw⟩, nonempty, each⟩ := admits
    refine ⟨⟨package, raw.mono grows⟩, nonempty, fun argument member => ?_⟩
    obtain ⟨shape, known, reference⟩ := each argument member
    exact ⟨shape, grows.shape? known, reference⟩
  | array element => exact ⟨grows.issued admits.1, admits.2⟩

/-- An admitted shape refers to issued handles only. -/
theorem Admits.issued (admits : r.Admits shape) : ∀ part ∈ shape.components, r.Issued part := by
  intro part member
  cases shape with
  | primitive kind => cases member
  | rawClass package around name =>
    obtain ⟨_, _, known⟩ := admits.2.2 part (Option.mem_toList.mp member)
    exact issued_of_shape? known
  | parameterized basis arguments =>
    rcases List.mem_cons.mp member with rfl | inside
    · obtain ⟨_, _, _, known⟩ := admits.1
      exact issued_of_shape? known
    · obtain ⟨_, known, _⟩ := admits.2.2 part inside
      exact issued_of_shape? known
  | array element =>
    rw [List.mem_singleton.mp member]
    exact admits.1

/-- Soundness does not depend on how many names there are beyond those in use. -/
theorem Sound.withNames (sound : r.Sound) {names : NamePool} (grows : r.names.Grows names)
    (formed : names.WellFormed) : Sound { r with names := names } := by
  have growth : r.Grows { r with names := names } := ⟨grows, .refl _⟩
  refine ⟨formed, sound.typesFormed, sound.primitives, fun kind => ?_, sound.onlyPrimitives,
    sound.older, fun id shape known => (sound.admitted id shape known).mono growth⟩
  obtain ⟨package, name, known, inJavaLang, named⟩ := sound.wrappers kind
  exact ⟨package, name, known, growth.text? inJavaLang, growth.text? named⟩

/-! ### A new registry -/

theorem initialShapes_nodup : Session.initialShapes.Nodup := by decide

theorem initialNames_nodup : Session.initialNames.Nodup := by decide

theorem registry_foldl_intern (shapes : List Shape) (s : Session) :
    (shapes.foldl (fun s shape => (s.intern shape).2) s).registry =
      { s.registry with types := shapes.foldl OrderedSet.insert s.registry.types } := by
  induction shapes generalizing s with
  | nil => rfl
  | cons shape shapes ih =>
    have step : (s.intern shape).2.registry =
        { s.registry with types := s.registry.types.insert shape } := by
      rcases s.intern_cases shape with ⟨position, known, run⟩ | ⟨_, run⟩
      · rw [run, OrderedSet.insert, known]
      · rw [run]
    rw [List.foldl_cons, ih, step, List.foldl_cons]

theorem initial_registry :
    Session.initial.registry =
      ⟨OrderedSet.ofList Session.initialNames, OrderedSet.ofList Session.initialShapes⟩ :=
  registry_foldl_intern Session.initialShapes Session.blank

/-- A new registry has the initial shapes and no others. -/
theorem shape?_initial (id : Handle) :
    Session.initial.registry.shape? id = Session.initialShapes[id.index]? := by
  rw [initial_registry, shape?, OrderedSet.get?_eq_getElem?,
    OrderedSet.toList_ofList initialShapes_nodup]

theorem text?_initial (id : NameId) :
    Session.initial.registry.names.text? id = Session.initialNames[id.index]? := by
  rw [initial_registry, NamePool.text?, OrderedSet.get?_eq_getElem?,
    OrderedSet.toList_ofList initialNames_nodup]

/-- A canonical place has the primitive whose index it is. -/
theorem index_of_ofIndex? {index : Nat} {kind : Primitive}
    (here : Primitive.ofIndex? index = some kind) : kind.index = index := by
  have placed : ∀ place : Fin Primitive.all.length, Primitive.all[place].index = place := by decide
  obtain ⟨inside, rfl⟩ := List.getElem?_eq_some_iff.mp here
  exact placed ⟨index, inside⟩

/-- The shapes of a new registry are the primitives at their handles, and wrapper classes. -/
theorem shape?_initial_cases {id : Handle} {shape : Shape}
    (known : Session.initial.registry.shape? id = some shape) :
    (∃ kind, id = .ofPrimitive kind ∧ shape = .primitive kind) ∨
      ∃ kind, shape = Session.wrapperShape kind := by
  rw [shape?_initial, Session.initialShapes, List.getElem?_append] at known
  split at known
  · rw [List.getElem?_map, Option.map_eq_some_iff] at known
    obtain ⟨kind, here, rfl⟩ := known
    refine Or.inl ⟨kind, ?_, rfl⟩
    rw [Handle.ofPrimitive, index_of_ofIndex? here]
  · rw [List.getElem?_map, Option.map_eq_some_iff] at known
    obtain ⟨kind, _, rfl⟩ := known
    exact Or.inr ⟨kind, rfl⟩

theorem admits_wrapperShape (kind : Primitive) :
    Session.initial.registry.Admits (Session.wrapperShape kind) := by
  have package : Session.initial.registry.names.text? ⟨0⟩ = some javaLang := by
    rw [text?_initial]
    rfl
  have own : Session.initial.registry.names.text? ⟨kind.index + 1⟩ =
      some kind.wrapperSimpleName := by
    rw [text?_initial]
    cases kind <;> rfl
  refine ⟨⟨javaLang, package, Or.inr (by decide +kernel)⟩, ⟨_, own, ?_⟩, nofun⟩
  cases kind <;> decide +kernel

/-- **A new registry is sound.** -/
theorem sound_initial : Session.initial.registry.Sound := by
  refine ⟨?_, ?_, fun kind => ?_, fun kind => ?_, fun id kind known => ?_,
    fun id shape known part member => ?_, fun id shape known => ?_⟩
  · rw [initial_registry]
    exact OrderedSet.wellFormed_ofList _
  · rw [initial_registry]
    exact OrderedSet.wellFormed_ofList _
  · rw [shape?_initial]
    cases kind <;> rfl
  · refine ⟨⟨0⟩, ⟨kind.index + 1⟩, ?_, ?_, ?_⟩
    · rw [shape?_initial]
      cases kind <;> rfl
    · rw [text?_initial]
      rfl
    · rw [text?_initial]
      cases kind <;> rfl
  · rcases shape?_initial_cases known with ⟨kind', rfl, same⟩ | ⟨kind', same⟩
    · cases same
      rfl
    · cases same
  · rcases shape?_initial_cases known with ⟨kind, _, rfl⟩ | ⟨kind, rfl⟩
    · cases member
    · cases member
  · rcases shape?_initial_cases known with ⟨kind, _, rfl⟩ | ⟨kind, rfl⟩
    · trivial
    · exact admits_wrapperShape kind

/-! ### Storing a shape -/

/-- The handles of a registry with one more shape: the old ones, and the next free one. -/
theorem shape?_insert_cases (absent : r.types.position? shape = none) {id : Handle}
    {found : Shape}
    (known : Registry.shape? { r with types := r.types.insert shape } id = some found) :
    r.shape? id = some found ∨ (id = ⟨r.typeCount⟩ ∧ found = shape) := by
  have members := OrderedSet.toList_insert_of_new absent
  rw [shape?, OrderedSet.get?_eq_getElem?, members, List.getElem?_append] at known
  split at known
  · rw [shape?, OrderedSet.get?_eq_getElem?]
    exact Or.inl known
  · rename_i behind
    have inside := (List.getElem?_eq_some_iff.mp known).choose
    have last : id.index = r.typeCount := by
      rw [typeCount, OrderedSet.size_eq_length]
      rw [List.length_singleton] at inside
      omega
    rw [last, typeCount, OrderedSet.size_eq_length, Nat.sub_self] at known
    refine Or.inr ⟨?_, (Option.some.inj known).symm⟩
    cases id
    exact congrArg Handle.mk last

theorem grows_insert (r : Registry) (shape : Shape) :
    r.Grows { r with types := r.types.insert shape } :=
  ⟨.refl _, OrderedSet.grows_insert _ _⟩

/-- **An admitted shape may be stored.** -/
theorem Sound.insert (sound : r.Sound) (admits : r.Admits shape)
    (absent : r.types.position? shape = none) :
    Sound { r with types := r.types.insert shape } := by
  have growth := grows_insert r shape
  refine ⟨sound.namesFormed, sound.typesFormed.insert shape,
    fun kind => growth.shape? (sound.primitives kind), fun kind => ?_, fun id kind known => ?_,
    fun id found known part member => ?_, fun id found known => ?_⟩
  · obtain ⟨package, name, known, texts⟩ := sound.wrappers kind
    exact ⟨package, name, growth.shape? known, texts⟩
  · rcases shape?_insert_cases absent known with old | ⟨_, rfl⟩
    · exact sound.onlyPrimitives id kind old
    -- every primitive has a handle already, so the new shape is none
    · rw [(sound.typesFormed _ _).mpr (sound.primitives kind)] at absent
      cases absent
  · rcases shape?_insert_cases absent known with old | ⟨rfl, rfl⟩
    · exact sound.older id found old part member
    · exact admits.issued part member
  · rcases shape?_insert_cases absent known with old | ⟨_, rfl⟩
    · exact (sound.admitted id found old).mono growth
    · exact admits.mono growth

end Registry

/-! ### Interning a shape in a session -/

namespace Session

open Registry

variable {s : Session} {shape : Shape}

theorem grows_intern (s : Session) (shape : Shape) :
    s.registry.Grows (s.intern shape).2.registry := by
  rcases s.intern_cases shape with ⟨position, _, run⟩ | ⟨_, run⟩
  · rw [run]
    exact .refl _
  · rw [run]
    exact grows_insert s.registry shape

theorem sound_intern (sound : s.registry.Sound) (admits : s.registry.Admits shape) :
    (s.intern shape).2.registry.Sound := by
  rcases s.intern_cases shape with ⟨position, _, run⟩ | ⟨absent, run⟩
  · rw [run]
    exact sound
  · rw [run]
    exact sound.insert admits absent

/-- The handle that interning returns is that of the shape. -/
theorem shape?_intern (sound : s.registry.Sound) (shape : Shape) :
    (s.intern shape).2.registry.shape? (s.intern shape).1 = some shape := by
  rcases s.intern_cases shape with ⟨position, known, run⟩ | ⟨absent, run⟩
  · rw [run]
    exact (sound.typesFormed shape position).mp known
  · rw [run]
    exact OrderedSet.get?_insert_of_new absent

end Session

/-! ### What requests ask for is admitted -/

namespace Call

open Registry

variable {r : Registry} {call : Call} {names : NamePool} {shape : Shape}

/-- A type argument is boxed if it is primitive, and kept otherwise. -/
theorem boxedArgument_cases {argument boxed : Handle}
    (fit : Session.boxedArgument r argument = .ok boxed) :
    argument ≠ .void ∧ ∃ shape, r.shape? argument = some shape ∧
      ((∃ kind, shape = .primitive kind ∧ boxed = .ofWrapper kind) ∨
        ((∀ kind, shape ≠ .primitive kind) ∧ boxed = argument)) := by
  unfold Session.boxedArgument at fit
  split at fit
  · cases fit
  · rename_i sized
    refine ⟨sized, ?_⟩
    cases known : r.shape? argument with
    | none =>
      rw [Registry.boxed, shape_of_none known] at fit
      cases fit
    | some shape =>
      rw [Registry.boxed, shape_of_shape? known] at fit
      refine ⟨shape, rfl, ?_⟩
      cases shape with
      | primitive kind =>
        cases fit
        exact Or.inl ⟨kind, rfl, rfl⟩
      | rawClass package around own | parameterized basis arguments | array element =>
        cases fit
        exact Or.inr ⟨nofun, rfl⟩

/-- What type arguments are stored as is not primitive. -/
theorem boxedArgument_reference (sound : r.Sound) {argument boxed : Handle}
    (fit : Session.boxedArgument r argument = .ok boxed) :
    ∃ shape, r.shape? boxed = some shape ∧ ∀ kind, shape ≠ .primitive kind := by
  obtain ⟨_, shape, known, ⟨kind, _, rfl⟩ | ⟨reference, rfl⟩⟩ := boxedArgument_cases fit
  · obtain ⟨package, name, wrapper, _⟩ := sound.wrappers kind
    exact ⟨_, wrapper, nofun⟩
  · exact ⟨shape, known, reference⟩

/-- The names of a request are added to those of the registry. -/
theorem Requests.grows_names (asks : call.Requests r names shape) : r.names.Grows names := by
  cases asks with
  | reference accepted => exact (NamePool.grows_intern _ _).trans (NamePool.grows_intern _ _)
  | nested raw accepted => exact NamePool.grows_intern _ _
  | narrow raw nonempty fit => exact .refl _
  | array known sized => exact .refl _

theorem Requests.wellFormed_names (sound : r.Sound) (asks : call.Requests r names shape) :
    names.WellFormed := by
  cases asks with
  | reference accepted =>
    exact NamePool.wellFormed_intern (NamePool.wellFormed_intern sound.namesFormed _) _
  | nested raw accepted => exact NamePool.wellFormed_intern sound.namesFormed _
  | narrow raw nonempty fit => exact sound.namesFormed
  | array known sized => exact sound.namesFormed

/-- With the names of a request the registry has grown and is still sound. -/
theorem Requests.grows (asks : call.Requests r names shape) : r.Grows { r with names := names } :=
  ⟨asks.grows_names, .refl _⟩

theorem Requests.sound (sound : r.Sound) (asks : call.Requests r names shape) :
    Sound { r with names := names } :=
  sound.withNames asks.grows_names (asks.wellFormed_names sound)

/-- **Requests ask for admitted shapes only.** -/
theorem Requests.admits (sound : r.Sound) (asks : call.Requests r names shape) :
    Admits { r with names := names } shape := by
  cases asks with
  | reference accepted =>
    have first := NamePool.wellFormed_intern sound.namesFormed
    refine ⟨⟨_, ?_, Name.qualifier_of_isClassName accepted⟩,
      ⟨_, NamePool.text?_intern (first _) _, Name.isNestedName_lastSegment accepted⟩, nofun⟩
    exact NamePool.text?_of_grows (NamePool.grows_intern _ _)
      (NamePool.text?_intern sound.namesFormed _)
  | nested raw accepted =>
    obtain ⟨⟨text, known, package⟩, _, _⟩ := sound.admitted _ _ raw
    refine ⟨⟨text, NamePool.text?_of_grows (NamePool.grows_intern _ _) known, package⟩,
      ⟨_, NamePool.text?_intern sound.namesFormed _, accepted⟩, fun outer member => ?_⟩
    cases member
    exact ⟨_, _, raw⟩
  | narrow raw nonempty fit =>
    have each := mapM_eq_ok_iff.mp fit
    refine ⟨⟨_, _, _, raw⟩, fun empty => ?_, fun boxed member => ?_⟩
    · rw [empty, List.forall₂_nil_right_iff] at each
      exact nonempty each
    · obtain ⟨argument, _, fits⟩ := exists_of_mem_right each member
      exact boxedArgument_reference sound fits
  | array known sized => exact ⟨issued_of_shape? known, sized⟩

/-- A request leaves everything at its place. -/
theorem grows_after (s : Session) (call : Call) : s.registry.Grows (call.after s).registry := by
  rcases after_cases s call with ⟨names, shape, asks, left⟩ | kept
  · rw [left]
    exact asks.grows.trans (Session.grows_intern (s.withNames names) shape)
  · rw [kept]
    exact .refl _

/-- **No request takes soundness away**, whether it succeeds or fails. -/
theorem sound_after {s : Session} (sound : s.registry.Sound) (call : Call) :
    (call.after s).registry.Sound := by
  rcases after_cases s call with ⟨names, shape, asks, left⟩ | kept
  · rw [left]
    exact Session.sound_intern (s := s.withNames names) (asks.sound sound) (asks.admits sound)
  · rw [kept]
    exact sound

end Call

/-! ### Runs -/

namespace Session

open Registry

theorem grows_after (s : Session) (calls : List Call) :
    s.registry.Grows (s.after calls).registry := by
  induction calls generalizing s with
  | nil => exact .refl _
  | cons call calls ih => exact (Call.grows_after s call).trans (ih (call.after s))

theorem sound_after {s : Session} (sound : s.registry.Sound) (calls : List Call) :
    (s.after calls).registry.Sound := by
  induction calls generalizing s with
  | nil => exact sound
  | cons call calls ih => exact ih (Call.sound_after sound call)

/-- The registry of a session that began as a new one is sound. -/
theorem sound_after_initial (calls : List Call) : (initial.after calls).registry.Sound :=
  sound_after sound_initial calls

/-- **The invariant of all runs.** Whatever was asked of a new session, with whatever strings and
handles and with whatever success, its registry is sound, it stores every shape and every name only
once, and it issued the handle with which it answers the next request. Further requests leave what
it stores at its place. -/
theorem registry_invariant (calls : List Call) :
    let s := initial.after calls
    s.registry.Sound ∧ s.registry.types.toList.Nodup ∧ s.registry.names.toList.Nodup ∧
    (∀ (call : Call) (id : Handle) (left : Session), call.perform s = .ok id left →
      left.registry.Issued id) ∧
    ∀ more : List Call, s.registry.Grows (s.after more).registry := by
  intro s
  have sound : s.registry.Sound := sound_after_initial calls
  refine ⟨sound, sound.typesFormed.nodup, sound.namesFormed.nodup, fun call id left succeeds => ?_,
    grows_after s⟩
  obtain ⟨names, shape, asks, answer⟩ := Call.requests_of_ok succeeds
  have stored := shape?_intern (s := s.withNames names) (asks.sound sound) shape
  rw [← answer] at stored
  exact issued_of_shape? stored

end Session

end JavaTypes
