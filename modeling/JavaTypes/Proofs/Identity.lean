/-
**Canonical identity.**

The types behind the handles of a registry are different from each other, so a handle is as good as
the type it stands for. A request describes a type; its answer is the handle of that type, the one
that was issued before if there is one, and then nothing changes.

* `Call.Describes`: the type that a request describes.
* `Call.describes_of_ok`: a successful request answers with a handle of the type it describes.
* `Call.perform_of_known`: if the type has a handle, that is the answer, and nothing changes.
* `Call.fresh_of_unknown`: if it has none, the answer is the next free handle.
* `Call.perform_again`: the same request has the same answer ever after.
-/

import JavaTypes.Proofs.TypeTrees

namespace JavaTypes

/-- What a type is stored as when it is a type argument: the wrapper class of a primitive, and any
other type itself. -/
def JavaType.boxed : JavaType → JavaType
  | primitive kind => .rawClass (.topLevel javaLang kind.wrapperSimpleName)
  | type => type

namespace Call

open Registry

/-- **The type that a request describes.** Its parts are the types behind the handles that the
request was given. -/
inductive Describes (r : Registry) : Call → JavaType → Prop
  | reference {name : String} : Describes r (.reference name) (.rawClass (.named name))
  | nested {outer : Handle} {name : String} {around : ClassName}
    (inside : r.typeOf outer = .ok (.rawClass around)) :
    Describes r (.nested outer name) (.rawClass (.nested around name))
  | narrow {basis : Handle} {arguments : List Handle} {generic : ClassName}
    {types : List JavaType} (applied : r.typeOf basis = .ok (.rawClass generic))
    (each : List.Forall₂ (fun argument type => r.typeOf argument = .ok type) arguments types) :
    Describes r (.narrow basis arguments) (.parameterized generic (types.map JavaType.boxed))
  | array {element : Handle} {type : JavaType} (elements : r.typeOf element = .ok type) :
    Describes r (.array element) (.array type)

variable {call : Call} {s left : Session} {r : Registry} {names : NamePool} {shape : Shape}
  {id : Handle} {type : JavaType}

/-- What a request describes it still describes when the registry has grown. -/
theorem Describes.mono {old new : Registry} (sound : old.Sound) (sound' : new.Sound)
    (grows : old.Grows new) (describes : call.Describes old type) : call.Describes new type := by
  have keep : ∀ {id : Handle} {type : JavaType},
      old.typeOf id = .ok type → new.typeOf id = .ok type := sound.typeOf_mono sound' grows
  cases describes with
  | reference => exact .reference
  | nested inside => exact .nested (keep inside)
  | narrow applied each => exact .narrow (keep applied) (each.imp fun _ _ typed => keep typed)
  | array elements => exact .array (keep elements)

/-! ### The shape that is asked for makes the type -/

/-- The type of the wrapper class. -/
theorem typeOf_ofWrapper (sound : r.Sound) (kind : Primitive) :
    r.typeOf (.ofWrapper kind) = .ok (JavaType.primitive kind).boxed := by
  obtain ⟨package, name, known, inJavaLang, named⟩ := sound.wrappers kind
  exact (sound.typeOf_of_shape? known).mpr (.topLevel inJavaLang named)

/-- The stored argument has the boxed type. -/
theorem typeOf_boxedArgument (sound : r.Sound) {argument boxed : Handle}
    (fit : Session.boxedArgument r argument = .ok boxed) (typed : r.typeOf argument = .ok type) :
    r.typeOf boxed = .ok type.boxed := by
  obtain ⟨_, shape, known, ⟨kind, rfl, rfl⟩ | ⟨reference, rfl⟩⟩ := boxedArgument_cases fit
  · cases (sound.typeOf_of_shape? known).mp typed
    exact typeOf_ofWrapper sound kind
  · cases type with
    | primitive kind =>
      cases (sound.typeOf_of_shape? known).mp typed
      exact absurd rfl (reference kind)
    | rawClass name | parameterized generic arguments | array element => exact typed

/-- The types of the stored arguments, from those of the given ones. -/
theorem typeOf_boxedArguments (sound : r.Sound) {arguments boxed : List Handle}
    {types : List JavaType}
    (fit : List.Forall₂ (fun a b => Session.boxedArgument r a = .ok b) arguments boxed)
    (each : List.Forall₂ (fun argument type => r.typeOf argument = .ok type) arguments types) :
    List.Forall₂ (fun b type => r.typeOf b = .ok type) boxed (types.map JavaType.boxed) := by
  induction fit generalizing types with
  | nil =>
    rw [List.forall₂_nil_left_iff] at each
    rw [each]
    exact .nil
  | cons head tail ih =>
    obtain ⟨type, others, typed, rest, rfl⟩ := List.forall₂_cons_left_iff.mp each
    exact .cons (typeOf_boxedArgument sound head typed) (ih rest)

/-- **A request that succeeds describes a type**, and the shape it asks for makes that type. -/
theorem Requests.describes (sound : r.Sound) (asks : call.Requests r names shape) :
    ∃ type, call.Describes r type ∧ Forms { r with names := names } shape type := by
  have named := asks.sound sound
  have growth := asks.grows
  cases asks with
  | reference accepted =>
    refine ⟨_, .reference, .topLevel ?_ (NamePool.text?_intern
      (NamePool.wellFormed_intern sound.namesFormed _) _)⟩
    exact NamePool.text?_of_grows (NamePool.grows_intern _ _)
      (NamePool.text?_intern sound.namesFormed _)
  | nested raw accepted =>
    obtain ⟨type, typed⟩ := sound.typeOf_total (issued_of_shape? raw)
    obtain ⟨around, rfl⟩ := sound.typeOf_isRaw ⟨_, _, raw⟩ typed
    exact ⟨_, .nested typed, .nested (sound.typeOf_mono named growth typed)
      (NamePool.text?_intern sound.namesFormed _)⟩
  | narrow raw nonempty fit =>
    obtain ⟨type, typed⟩ := sound.typeOf_total (issued_of_shape? raw)
    obtain ⟨generic, rfl⟩ := sound.typeOf_isRaw ⟨_, _, raw⟩ typed
    have fits := mapM_eq_ok_iff.mp fit
    obtain ⟨types, each⟩ := exists_forall₂ fun argument member => by
      obtain ⟨boxed, _, fit⟩ := exists_of_mem_left fits member
      obtain ⟨_, _, known, _⟩ := boxedArgument_cases fit
      exact sound.typeOf_total (issued_of_shape? known)
    exact ⟨_, .narrow typed each, .parameterized typed (typeOf_boxedArguments sound fits each)⟩
  | array known sized =>
    obtain ⟨type, typed⟩ := sound.typeOf_total (issued_of_shape? known)
    exact ⟨_, .array typed, .array typed⟩

/-! ### The answer has the type that is described -/

theorem sound_of_ok (sound : s.registry.Sound) (succeeds : call.perform s = .ok id left) :
    left.registry.Sound := by
  have same : call.after s = left := by
    unfold after
    rw [succeeds]
  rw [← same]
  exact sound_after sound call

theorem grows_of_ok (succeeds : call.perform s = .ok id left) :
    s.registry.Grows left.registry := by
  have growth := grows_after s call
  unfold after at growth
  rw [succeeds] at growth
  exact growth

/-- **A successful request answers with a handle of the type it describes.** -/
theorem describes_of_ok (sound : s.registry.Sound) (succeeds : call.perform s = .ok id left) :
    ∃ type, call.Describes s.registry type ∧ left.registry.typeOf id = .ok type := by
  obtain ⟨names, shape, asks, run⟩ := requests_of_ok succeeds
  obtain ⟨type, describes, forms⟩ := asks.describes sound
  have named := asks.sound sound
  have final := sound_of_ok sound succeeds
  obtain ⟨rfl, rfl⟩ := Prod.mk.inj run
  have growth := Session.grows_intern (s.withNames names) shape
  refine ⟨type, describes, (final.typeOf_of_shape? (Session.shape?_intern named shape)).mpr ?_⟩
  exact forms.transfer growth.names fun _ _ _ typed => named.typeOf_mono final growth typed

/-! ### Types that have a handle -/

/-- A request for a type with a handle brings no new name, and asks for the shape behind the
handle. -/
theorem Requests.known (sound : r.Sound) (asks : call.Requests r names shape)
    (describes : call.Describes r type) (typed : r.typeOf id = .ok type) :
    names = r.names ∧ r.shape? id = some shape := by
  obtain ⟨found, known, forms⟩ := sound.typeOf_eq_ok_iff.mp typed
  cases asks with
  | reference accepted =>
    cases describes
    cases forms with
    | topLevel inPackage named =>
      rw [NamePool.intern_of_text? sound.namesFormed inPackage]
      simp only
      rw [NamePool.intern_of_text? sound.namesFormed named]
      exact ⟨rfl, known⟩
  | nested raw accepted =>
    cases describes with
    | nested inside =>
      cases forms with
      | nested inside' named =>
        obtain rfl := sound.typeOf_injective inside inside'
        rw [NamePool.intern_of_text? sound.namesFormed named]
        obtain ⟨_, _, outerKnown⟩ := (sound.admitted _ _ known).2.2 _ rfl
        cases raw.symm.trans outerKnown
        exact ⟨rfl, known⟩
  | narrow raw nonempty fit =>
    cases describes with
    | narrow applied each =>
      cases forms with
      | parameterized applied' each' =>
        obtain rfl := sound.typeOf_injective applied applied'
        have boxed := typeOf_boxedArguments sound (mapM_eq_ok_iff.mp fit) each
        have same := forall₂_injective boxed each' fun _ _ _ _ typed typed' =>
          sound.typeOf_injective typed typed'
        rw [same]
        exact ⟨rfl, known⟩
  | array outside sized =>
    cases describes with
    | array elements =>
      cases forms with
      | array elements' =>
        obtain rfl := sound.typeOf_injective elements elements'
        exact ⟨rfl, known⟩

/-- **If the described type has a handle, that is the answer**, and the session stays as it is. -/
theorem perform_of_known (sound : s.registry.Sound) (asks : call.Requests s.registry names shape)
    (describes : call.Describes s.registry type) (typed : s.registry.typeOf id = .ok type) :
    call.perform s = .ok id s := by
  obtain ⟨rfl, known⟩ := asks.known sound describes typed
  have run : s.intern shape = (id, s) := by
    unfold Session.intern
    rw [(sound.typesFormed shape id.index).mpr known]
  rw [asks.perform]
  show EStateM.Result.ok (s.intern shape).1 (s.intern shape).2 = _
  rw [run]

/-- **If the described type has no handle, the answer is the next free one.** -/
theorem fresh_of_unknown (sound : s.registry.Sound) (succeeds : call.perform s = .ok id left)
    (typed : left.registry.typeOf id = .ok type)
    (unknown : ∀ known, s.registry.Issued known → s.registry.typeOf known ≠ .ok type) :
    id = ⟨s.registry.typeCount⟩ ∧ left.registry.typeCount = s.registry.typeCount + 1 := by
  obtain ⟨names, shape, asks, run⟩ := requests_of_ok succeeds
  rcases (s.withNames names).intern_cases shape with ⟨position, found, old⟩ | ⟨absent, new⟩
  · exfalso
    rw [old] at run
    cases run
    -- the shape was stored before, so its handle had the type already
    have issued : s.registry.Issued ⟨position⟩ :=
      issued_of_shape? ((sound.typesFormed shape position).mp found)
    obtain ⟨type', typed'⟩ := sound.typeOf_total issued
    have same : (s.withNames names).registry.typeOf ⟨position⟩ = .ok type' :=
      sound.typeOf_mono (asks.sound sound) asks.grows typed'
    rw [typed] at same
    cases same
    exact unknown ⟨position⟩ issued typed'
  · rw [new] at run
    cases run
    exact ⟨rfl, OrderedSet.size_insert_of_new absent⟩

/-! ### The same request later -/

theorem boxedArgument_mono {old new : Registry} (grows : old.Grows new) {argument boxed : Handle}
    (fit : Session.boxedArgument old argument = .ok boxed) :
    Session.boxedArgument new argument = .ok boxed := by
  obtain ⟨sized, shape, known, cases⟩ := boxedArgument_cases fit
  unfold Session.boxedArgument at fit ⊢
  rw [if_neg sized, Registry.boxed, shape_of_shape? known] at fit
  rw [if_neg sized, Registry.boxed, shape_of_shape? (grows.shape? known)]
  exact fit

/-- A request that succeeds still succeeds when the registry has grown. -/
theorem Requests.mono {old new : Registry} (grows : old.Grows new)
    (asks : call.Requests old names shape) : ∃ names shape, call.Requests new names shape := by
  cases asks with
  | reference accepted => exact ⟨_, _, .reference accepted⟩
  | nested raw accepted => exact ⟨_, _, .nested (grows.shape? raw) accepted⟩
  | narrow raw nonempty fit =>
    have fits := (mapM_eq_ok_iff.mp fit).imp fun _ _ fit => boxedArgument_mono grows fit
    exact ⟨_, _, .narrow (grows.shape? raw) nonempty (mapM_eq_ok_iff.mpr fits)⟩
  | array known sized => exact ⟨_, _, .array (grows.shape? known) sized⟩

/-- **The same request has the same answer ever after**, and changes nothing any more. -/
theorem perform_again (sound : s.registry.Sound) (succeeds : call.perform s = .ok id left)
    (more : List Call) : call.perform (left.after more) = .ok id (left.after more) := by
  obtain ⟨names, shape, asks, _⟩ := requests_of_ok succeeds
  obtain ⟨type, describes, typed⟩ := describes_of_ok sound succeeds
  have final := sound_of_ok sound succeeds
  have later := Session.sound_after final more
  have growth := (grows_of_ok succeeds).trans (Session.grows_after left more)
  obtain ⟨_, _, asks'⟩ := asks.mono growth
  exact perform_of_known later asks' (describes.mono sound later growth)
    (final.typeOf_mono later (Session.grows_after left more) typed)

/-- **Handles are canonical.** In the session `s` after any requests, every issued handle has a
type and two handles are equal exactly if their types are. A successful request answers with a
handle of the type it describes: the next free one if no issued handle had the type; otherwise the
handle that had it, and then nothing changes. Made again after any further requests, the request
has the same answer and changes nothing. -/
theorem handles_canonical (calls : List Call) :
    let s := Session.initial.after calls
    (∀ id, s.registry.Issued id → ∃ type, s.registry.typeOf id = .ok type) ∧
    (∀ first second, s.registry.Issued first → s.registry.Issued second →
      (first = second ↔ s.registry.typeOf first = s.registry.typeOf second)) ∧
    ∀ (call : Call) (id : Handle) (left : Session), call.perform s = .ok id left →
      ∃ type, call.Describes s.registry type ∧ left.registry.typeOf id = .ok type ∧
        ((∀ known, s.registry.Issued known → s.registry.typeOf known ≠ .ok type) →
          id = ⟨s.registry.typeCount⟩ ∧
            left.registry.typeCount = s.registry.typeCount + 1) ∧
        (∀ known, s.registry.Issued known → s.registry.typeOf known = .ok type →
          id = known ∧ left = s) ∧
        ∀ more, call.perform (left.after more) = .ok id (left.after more) := by
  intro s
  have sound : s.registry.Sound := Session.sound_after_initial calls
  refine ⟨fun id issued => sound.typeOf_total issued, fun first second issued _ => ?_,
    fun call id left succeeds => ?_⟩
  · refine ⟨fun same => by rw [same], fun same => ?_⟩
    obtain ⟨type, typed⟩ := sound.typeOf_total issued
    exact sound.typeOf_injective typed (same ▸ typed)
  · obtain ⟨type, describes, typed⟩ := describes_of_ok sound succeeds
    refine ⟨type, describes, typed, fresh_of_unknown sound succeeds typed,
      fun known _ typed' => ?_, perform_again sound succeeds⟩
    obtain ⟨names, shape, asks, _⟩ := requests_of_ok succeeds
    rw [perform_of_known sound asks describes typed'] at succeeds
    cases succeeds
    exact ⟨rfl, rfl⟩

theorem handles_canonical_map :
    ∃ id left, (Call.reference "java.util.Map").perform (Session.initial.after []) = .ok id left ∧
      left.registry.typeOf id = .ok (.rawClass (.topLevel "java.util" "Map")) := by
  have accepted : Name.isClassName "java.util.Map" = true := by decide +kernel
  have parts : ClassName.named "java.util.Map" = .topLevel "java.util" "Map" := by decide +kernel
  have asks := Requests.reference (r := (Session.initial.after []).registry) accepted
  obtain ⟨type, describes, typed, _⟩ := (handles_canonical []).2.2 _ _ _ asks.perform
  cases describes
  rw [parts] at typed
  exact ⟨_, _, asks.perform, typed⟩

end Call

end JavaTypes
