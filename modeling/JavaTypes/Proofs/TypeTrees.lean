/-
**The types behind handles.**

A handle stands for a type, which is the tree that its shape unfolds to. In a sound registry every
issued handle has a type, different handles have different types, and a type does not change when
the registry grows.

* `Registry.Forms`: a shape makes a type out of names and of the types of its components.
* `Registry.Sound.typeOf_eq_ok_iff`: the type of a handle is what its shape makes.
* `Registry.Sound.typeOf_total`, `Registry.Sound.typeOf_injective`, `Registry.Sound.typeOf_mono`:
  every issued handle has a type, no other handle has it, and it stays.
* `Registry.Sound.legal_typeOf`: the classes in it are legal.
-/

import JavaTypes.Proofs.Soundness

namespace JavaTypes

/-- To prove something of a handle one may suppose it of all older handles. -/
theorem Handle.inductionOn {P : Handle → Prop} (id : Handle)
    (step : ∀ id : Handle, (∀ part : Handle, part.index < id.index → P part) → P id) : P id :=
  (measure Handle.index).wf.induction id step

namespace Registry

variable {r : Registry} {id : Handle}

/-! ### One step of unfolding -/

/-- **What a shape makes** out of the names it refers to and the types of its components. -/
inductive Forms (r : Registry) : Shape → JavaType → Prop
  | primitive {kind : Primitive} : Forms r (.primitive kind) (.primitive kind)
  | topLevel {package name : NameId} {packageText nameText : String}
    (inPackage : r.names.text? package = some packageText)
    (named : r.names.text? name = some nameText) :
    Forms r (.rawClass package none name) (.rawClass (.topLevel packageText nameText))
  | nested {package name : NameId} {outer : Handle} {around : ClassName} {nameText : String}
    (inside : r.typeOf outer = .ok (.rawClass around))
    (named : r.names.text? name = some nameText) :
    Forms r (.rawClass package (some outer) name) (.rawClass (.nested around nameText))
  | parameterized {basis : Handle} {arguments : List Handle} {generic : ClassName}
    {types : List JavaType} (applied : r.typeOf basis = .ok (.rawClass generic))
    (each : List.Forall₂ (fun argument type => r.typeOf argument = .ok type) arguments types) :
    Forms r (.parameterized basis arguments) (.parameterized generic types)
  | array {element : Handle} {type : JavaType} (elements : r.typeOf element = .ok type) :
    Forms r (.array element) (.array type)

theorem nameText_eq_ok_iff {name : NameId} {text : String} :
    r.nameText name = .ok text ↔ r.names.text? name = some text := by
  unfold nameText
  cases r.names.text? name with
  | none => exact ⟨nofun, nofun⟩
  | some found =>
    exact ⟨fun same => by rw [Except.ok.inj same], fun same => by rw [Option.some.inj same]⟩

section Unfolding

variable (depth : Nat)

theorem classNameWithin_topLevel {package name : NameId}
    (known : r.shape? id = some (.rawClass package none name)) :
    r.classNameWithin (depth + 1) id = (r.nameText package >>= fun packageText =>
      r.nameText name >>= fun nameText => pure (.topLevel packageText nameText)) := by
  rw [classNameWithin, shape_of_shape? known]
  rfl

theorem classNameWithin_nested {package name : NameId} {outer : Handle}
    (known : r.shape? id = some (.rawClass package (some outer) name)) :
    r.classNameWithin (depth + 1) id = (r.classNameWithin depth outer >>= fun around =>
      r.nameText name >>= fun nameText => pure (.nested around nameText)) := by
  rw [classNameWithin, shape_of_shape? known]
  rfl

/-- A handle with another shape than that of a raw class is no class. -/
theorem classNameWithin_other {shape : Shape} (known : r.shape? id = some shape)
    (other : ∀ package around name, shape ≠ .rawClass package around name) :
    r.classNameWithin (depth + 1) id = .error (.unissued id) := by
  rw [classNameWithin, shape_of_shape? known]
  cases shape with
  | rawClass package around name => exact absurd rfl (other package around name)
  | primitive kind | parameterized basis arguments | array element => rfl

theorem typeWithin_primitive {kind : Primitive} (known : r.shape? id = some (.primitive kind)) :
    r.typeWithin (depth + 1) id = .ok (.primitive kind) := by
  rw [typeWithin, shape_of_shape? known]
  rfl

theorem typeWithin_rawClass {package name : NameId} {around : Option Handle}
    (known : r.shape? id = some (.rawClass package around name)) :
    r.typeWithin (depth + 1) id =
      (r.classNameWithin (depth + 1) id >>= fun name => pure (.rawClass name)) := by
  rw [typeWithin, shape_of_shape? known]
  rfl

theorem typeWithin_parameterized {basis : Handle} {arguments : List Handle}
    (known : r.shape? id = some (.parameterized basis arguments)) :
    r.typeWithin (depth + 1) id = (r.classNameWithin depth basis >>= fun generic =>
      arguments.mapM (r.typeWithin depth) >>= fun types =>
        pure (.parameterized generic types)) := by
  rw [typeWithin, shape_of_shape? known]
  rfl

theorem typeWithin_array {element : Handle} (known : r.shape? id = some (.array element)) :
    r.typeWithin (depth + 1) id =
      (r.typeWithin depth element >>= fun type => pure (.array type)) := by
  rw [typeWithin, shape_of_shape? known]
  rfl

theorem typeWithin_unissued (unknown : r.shape? id = none) :
    r.typeWithin (depth + 1) id = .error (.unissued id) := by
  rw [typeWithin, shape_of_none unknown]
  rfl

theorem classNameWithin_unissued (unknown : r.shape? id = none) :
    r.classNameWithin (depth + 1) id = .error (.unissued id) := by
  rw [classNameWithin, shape_of_none unknown]
  rfl

end Unfolding

/-! ### The bound on the depth -/

/-- Any bound beyond the index of a handle unfolds the classes around it completely. -/
theorem Sound.classNameWithin_eq (sound : r.Sound) {depth other : Nat} (enough : id.index < depth)
    (enough' : id.index < other) : r.classNameWithin depth id = r.classNameWithin other id := by
  induction depth generalizing other id with
  | zero => cases enough
  | succ depth ih =>
    obtain ⟨other, rfl⟩ := Nat.exists_eq_add_one_of_ne_zero (Nat.ne_zero_of_lt enough')
    cases known : r.shape? id with
    | none => rw [classNameWithin_unissued depth known, classNameWithin_unissued other known]
    | some shape =>
      have older := sound.older id shape known
      cases shape with
      | rawClass package around name =>
        cases around with
        | none => rw [classNameWithin_topLevel depth known, classNameWithin_topLevel other known]
        | some outer =>
          have below := older outer List.mem_cons_self
          have same : r.classNameWithin depth outer = r.classNameWithin other outer :=
            ih (by omega) (by omega)
          rw [classNameWithin_nested depth known, classNameWithin_nested other known, same]
      | primitive kind | parameterized basis arguments | array element =>
        rw [classNameWithin_other depth known nofun, classNameWithin_other other known nofun]

/-- Any bound beyond the index of a handle unfolds its type completely. -/
theorem Sound.typeWithin_eq (sound : r.Sound) {depth other : Nat} (enough : id.index < depth)
    (enough' : id.index < other) : r.typeWithin depth id = r.typeWithin other id := by
  induction depth generalizing other id with
  | zero => cases enough
  | succ depth ih =>
    obtain ⟨other, rfl⟩ := Nat.exists_eq_add_one_of_ne_zero (Nat.ne_zero_of_lt enough')
    cases known : r.shape? id with
    | none => rw [typeWithin_unissued depth known, typeWithin_unissued other known]
    | some shape =>
      have older := sound.older id shape known
      cases shape with
      | primitive kind => rw [typeWithin_primitive depth known, typeWithin_primitive other known]
      | rawClass package around name =>
        rw [typeWithin_rawClass depth known, typeWithin_rawClass other known,
          sound.classNameWithin_eq enough enough']
      | parameterized basis arguments =>
        have below := older basis List.mem_cons_self
        have same : r.classNameWithin depth basis = r.classNameWithin other basis :=
          sound.classNameWithin_eq (by omega) (by omega)
        have each : arguments.mapM (r.typeWithin depth) = arguments.mapM (r.typeWithin other) := by
          refine mapM_congr fun argument member => ?_
          have below := older argument (List.mem_cons_of_mem _ member)
          exact ih (by omega) (by omega)
        rw [typeWithin_parameterized depth known, typeWithin_parameterized other known, same, each]
      | array element =>
        have below := older element (List.mem_singleton_self _)
        have same : r.typeWithin depth element = r.typeWithin other element :=
          ih (by omega) (by omega)
        rw [typeWithin_array depth known, typeWithin_array other known, same]

/-! ### A type is what its shape makes -/

theorem classNameWithin_eq_ok_iff {name : ClassName} :
    r.classNameWithin (id.index + 1) id = .ok name ↔ r.typeOf id = .ok (.rawClass name) := by
  unfold typeOf
  cases known : r.shape? id with
  | none => simp [classNameWithin_unissued _ known, typeWithin_unissued _ known]
  | some shape =>
    cases shape with
    | rawClass package around own =>
      rw [typeWithin_rawClass _ known, bind_eq_ok_iff]
      refine ⟨fun found => ⟨name, found, rfl⟩, fun ⟨found, here, same⟩ => ?_⟩
      cases same
      exact here
    | primitive kind =>
      simp [classNameWithin_other _ known nofun, typeWithin_primitive _ known]
    | parameterized basis arguments =>
      rw [classNameWithin_other _ known nofun, typeWithin_parameterized _ known, bind_eq_ok_iff]
      refine ⟨nofun, fun ⟨_, _, run⟩ => ?_⟩
      obtain ⟨_, _, same⟩ := bind_eq_ok_iff.mp run
      cases same
    | array element =>
      rw [classNameWithin_other _ known nofun, typeWithin_array _ known, bind_eq_ok_iff]
      refine ⟨nofun, fun ⟨_, _, same⟩ => ?_⟩
      cases same

section Making

variable {type : JavaType}

theorem typeOf_primitive {kind : Primitive} (known : r.shape? id = some (.primitive kind)) :
    r.typeOf id = .ok type ↔ r.Forms (.primitive kind) type := by
  rw [typeOf, typeWithin_primitive _ known]
  refine ⟨fun same => ?_, fun forms => ?_⟩
  · cases same
    exact .primitive
  · cases forms
    rfl

theorem typeOf_topLevel {package name : NameId}
    (known : r.shape? id = some (.rawClass package none name)) :
    r.typeOf id = .ok type ↔ r.Forms (.rawClass package none name) type := by
  rw [typeOf, typeWithin_rawClass _ known, bind_eq_ok_iff]
  simp only [classNameWithin_topLevel _ known, bind_eq_ok_iff, nameText_eq_ok_iff]
  constructor
  · rintro ⟨_, ⟨packageText, inPackage, nameText, named, same⟩, same'⟩
    cases same
    cases same'
    exact .topLevel inPackage named
  · intro forms
    cases forms with
    | topLevel inPackage named => exact ⟨_, ⟨_, inPackage, _, named, rfl⟩, rfl⟩

theorem Sound.typeOf_nested (sound : r.Sound) {package name : NameId} {outer : Handle}
    (known : r.shape? id = some (.rawClass package (some outer) name)) :
    r.typeOf id = .ok type ↔ r.Forms (.rawClass package (some outer) name) type := by
  have below := sound.older id _ known outer List.mem_cons_self
  rw [typeOf, typeWithin_rawClass _ known, bind_eq_ok_iff, classNameWithin_nested _ known,
    sound.classNameWithin_eq below (Nat.lt_succ_self _)]
  simp only [bind_eq_ok_iff, nameText_eq_ok_iff, classNameWithin_eq_ok_iff]
  constructor
  · rintro ⟨_, ⟨around, inside, nameText, named, same⟩, same'⟩
    cases same
    cases same'
    exact .nested inside named
  · intro forms
    cases forms with
    | nested inside named => exact ⟨_, ⟨_, inside, _, named, rfl⟩, rfl⟩

theorem Sound.typeOf_parameterized (sound : r.Sound) {basis : Handle} {arguments : List Handle}
    (known : r.shape? id = some (.parameterized basis arguments)) :
    r.typeOf id = .ok type ↔ r.Forms (.parameterized basis arguments) type := by
  have older := sound.older id _ known
  have below := older basis List.mem_cons_self
  have each : arguments.mapM (r.typeWithin id.index) = arguments.mapM r.typeOf :=
    mapM_congr fun argument member =>
      sound.typeWithin_eq (older argument (List.mem_cons_of_mem _ member)) (Nat.lt_succ_self _)
  rw [typeOf, typeWithin_parameterized _ known, each,
    sound.classNameWithin_eq below (Nat.lt_succ_self _)]
  simp only [bind_eq_ok_iff, classNameWithin_eq_ok_iff, mapM_eq_ok_iff]
  constructor
  · rintro ⟨generic, applied, types, each, same⟩
    cases same
    exact .parameterized applied each
  · intro forms
    cases forms with
    | parameterized applied each => exact ⟨_, applied, _, each, rfl⟩

theorem Sound.typeOf_array (sound : r.Sound) {element : Handle}
    (known : r.shape? id = some (.array element)) :
    r.typeOf id = .ok type ↔ r.Forms (.array element) type := by
  have below := sound.older id _ known element (List.mem_singleton_self _)
  rw [typeOf, typeWithin_array _ known, sound.typeWithin_eq below (Nat.lt_succ_self _),
    bind_eq_ok_iff]
  constructor
  · rintro ⟨type, elements, same⟩
    cases same
    exact .array elements
  · intro forms
    cases forms with
    | array elements => exact ⟨_, elements, rfl⟩

/-- The type of a handle is what its shape makes. -/
theorem Sound.typeOf_of_shape? (sound : r.Sound) {shape : Shape}
    (known : r.shape? id = some shape) : r.typeOf id = .ok type ↔ r.Forms shape type := by
  cases shape with
  | primitive kind => exact typeOf_primitive known
  | rawClass package around name =>
    cases around with
    | none => exact typeOf_topLevel known
    | some outer => exact sound.typeOf_nested known
  | parameterized basis arguments => exact sound.typeOf_parameterized known
  | array element => exact sound.typeOf_array known

end Making

/-- **A handle has a type exactly if its shape makes that type.** -/
theorem Sound.typeOf_eq_ok_iff (sound : r.Sound) {type : JavaType} :
    r.typeOf id = .ok type ↔ ∃ shape, r.shape? id = some shape ∧ r.Forms shape type := by
  cases known : r.shape? id with
  | none =>
    rw [typeOf, typeWithin_unissued _ known]
    exact ⟨nofun, nofun⟩
  | some shape =>
    rw [sound.typeOf_of_shape? known]
    exact ⟨fun forms => ⟨shape, rfl, forms⟩, fun ⟨_, same, forms⟩ => by cases same; exact forms⟩

theorem Sound.issued_of_typeOf (sound : r.Sound) {type : JavaType}
    (typed : r.typeOf id = .ok type) : r.Issued id := by
  obtain ⟨shape, known, _⟩ := sound.typeOf_eq_ok_iff.mp typed
  exact issued_of_shape? known

/-- The full name of a handle is that of its type. -/
theorem fullName_of_typeOf {type : JavaType} (typed : r.typeOf id = .ok type) :
    r.fullName id = .ok type.fullName := by
  rw [fullName, typed]
  rfl

/-- So is the binary name. -/
theorem binaryName_of_typeOf {type : JavaType} (typed : r.typeOf id = .ok type) :
    r.binaryName id = .ok type.binaryName := by
  rw [binaryName, typed]
  rfl

/-! ### Raw classes -/

theorem Sound.typeOf_isRaw (sound : r.Sound) {package : NameId} {type : JavaType}
    (raw : r.IsRaw id package) (typed : r.typeOf id = .ok type) :
    ∃ name, type = .rawClass name := by
  obtain ⟨around, own, known⟩ := raw
  cases (sound.typeOf_of_shape? known).mp typed with
  | topLevel inPackage named => exact ⟨_, rfl⟩
  | nested inside named => exact ⟨_, rfl⟩

/-- Behind a class without type arguments there is a raw class. -/
theorem Sound.shape?_of_rawClass (sound : r.Sound) {name : ClassName}
    (typed : r.typeOf id = .ok (.rawClass name)) :
    ∃ package around own, r.shape? id = some (.rawClass package around own) := by
  obtain ⟨shape, known, forms⟩ := sound.typeOf_eq_ok_iff.mp typed
  cases forms with
  | topLevel inPackage named => exact ⟨_, _, _, known⟩
  | nested inside named => exact ⟨_, _, _, known⟩

/-! ### Every issued handle has a type -/

/-- **Every issued handle has a type.** The induction is on the handle: components are older. -/
theorem Sound.typeOf_total (sound : r.Sound) (issued : r.Issued id) :
    ∃ type, r.typeOf id = .ok type := by
  induction id using Handle.inductionOn with
  | _ id ih =>
    obtain ⟨shape, known⟩ := issued_iff.mp issued
    have admits := sound.admitted id shape known
    have component : ∀ part ∈ shape.components, ∃ type, r.typeOf part = .ok type :=
      fun part member =>
        ih part (sound.older id shape known part member) (admits.issued part member)
    simp only [sound.typeOf_of_shape? known]
    cases shape with
    | primitive kind => exact ⟨_, .primitive⟩
    | rawClass package around name =>
      obtain ⟨⟨_, inPackage, _⟩, ⟨_, named, _⟩, outerRaw⟩ := admits
      cases around with
      | none => exact ⟨_, .topLevel inPackage named⟩
      | some outer =>
        obtain ⟨type, typed⟩ := component outer List.mem_cons_self
        obtain ⟨around, rfl⟩ := sound.typeOf_isRaw (outerRaw outer rfl) typed
        exact ⟨_, .nested typed named⟩
    | parameterized basis arguments =>
      obtain ⟨⟨package, raw⟩, _, _⟩ := admits
      obtain ⟨type, typed⟩ := component basis List.mem_cons_self
      obtain ⟨generic, rfl⟩ := sound.typeOf_isRaw raw typed
      obtain ⟨types, each⟩ := exists_forall₂ fun argument member =>
        component argument (List.mem_cons_of_mem _ member)
      exact ⟨_, .parameterized typed each⟩
    | array element =>
      obtain ⟨type, typed⟩ := component element (List.mem_singleton_self _)
      exact ⟨_, .array typed⟩

/-! ### No two handles have the same type -/

/-- Shapes of issued handles that make the same type are equal, if the handles that the first one
refers to share their types with no others. -/
theorem Sound.shape_unique (sound : r.Sound) {first second : Handle} {shape shape' : Shape}
    {type : JavaType} (known : r.shape? first = some shape) (known' : r.shape? second = some shape')
    (component : ∀ part ∈ shape.components, ∀ {other : Handle} {type : JavaType},
      r.typeOf part = .ok type → r.typeOf other = .ok type → part = other)
    (forms : r.Forms shape type) (forms' : r.Forms shape' type) : shape = shape' := by
  cases forms with
  | primitive =>
    cases forms'
    rfl
  | topLevel inPackage named =>
    cases forms' with
    | topLevel inPackage' named' =>
      rw [NamePool.id_unique sound.namesFormed inPackage inPackage',
        NamePool.id_unique sound.namesFormed named named']
  | nested inside named =>
    cases forms' with
    | nested inside' named' =>
      obtain rfl := component _ List.mem_cons_self inside inside'
      rw [NamePool.id_unique sound.namesFormed named named']
      -- the package is not part of the type: it is that of the class around
      obtain ⟨_, _, outerKnown⟩ := (sound.admitted _ _ known).2.2 _ rfl
      obtain ⟨_, _, outerKnown'⟩ := (sound.admitted _ _ known').2.2 _ rfl
      cases outerKnown.symm.trans outerKnown'
      rfl
  | parameterized applied each =>
    cases forms' with
    | parameterized applied' each' =>
      obtain rfl := component _ List.mem_cons_self applied applied'
      rw [forall₂_injective each each' fun argument member _ _ =>
        component argument (List.mem_cons_of_mem _ member)]
  | array elements =>
    cases forms' with
    | array elements' => rw [component _ (List.mem_singleton_self _) elements elements']

/-- **A handle is known by its type.** -/
theorem Sound.typeOf_injective (sound : r.Sound) {first second : Handle} {type : JavaType}
    (here : r.typeOf first = .ok type) (there : r.typeOf second = .ok type) : first = second := by
  induction first using Handle.inductionOn generalizing second type with
  | _ first ih =>
    obtain ⟨shape, known, forms⟩ := sound.typeOf_eq_ok_iff.mp here
    obtain ⟨shape', known', forms'⟩ := sound.typeOf_eq_ok_iff.mp there
    have same : shape = shape' := sound.shape_unique known known'
      (fun part member _ _ => ih part (sound.older first shape known part member)) forms forms'
    rw [← same] at known'
    have place := sound.typesFormed.position_unique known known'
    cases first
    cases second
    exact congrArg Handle.mk place

/-! ### Types stay -/

/-- What a shape makes depends only on the names it refers to and the types of its components. -/
theorem Forms.transfer {old new : Registry} {shape : Shape} {type : JavaType}
    (forms : old.Forms shape type) (names : old.names.Grows new.names)
    (component : ∀ part ∈ shape.components, ∀ type,
      old.typeOf part = .ok type → new.typeOf part = .ok type) : new.Forms shape type := by
  have text : ∀ {name : NameId} {text : String},
      old.names.text? name = some text → new.names.text? name = some text :=
    NamePool.text?_of_grows names
  cases forms with
  | primitive => exact .primitive
  | topLevel inPackage named => exact .topLevel (text inPackage) (text named)
  | nested inside named => exact .nested (component _ List.mem_cons_self _ inside) (text named)
  | parameterized applied each =>
    refine .parameterized (component _ List.mem_cons_self _ applied) ?_
    exact forall₂_imp_of_mem each fun argument member =>
      component argument (List.mem_cons_of_mem _ member)
  | array elements => exact .array (component _ (List.mem_singleton_self _) _ elements)

/-- **A type does not change when the registry grows.** -/
theorem Sound.typeOf_mono {old new : Registry} (sound : old.Sound) (sound' : new.Sound)
    (grows : old.Grows new) {type : JavaType} (typed : old.typeOf id = .ok type) :
    new.typeOf id = .ok type := by
  induction id using Handle.inductionOn generalizing type with
  | _ id ih =>
    obtain ⟨shape, known, forms⟩ := sound.typeOf_eq_ok_iff.mp typed
    rw [sound'.typeOf_of_shape? (grows.shape? known)]
    exact forms.transfer grows.names fun part member _ typed =>
      ih part (sound.older id shape known part member) typed

/-! ### Types are legal -/

/-- **The types of a registry are legal.** -/
theorem Sound.legal_typeOf (sound : r.Sound) {type : JavaType} (typed : r.typeOf id = .ok type) :
    type.Legal := by
  induction id using Handle.inductionOn generalizing type with
  | _ id ih =>
    obtain ⟨shape, known, forms⟩ := sound.typeOf_eq_ok_iff.mp typed
    have admits := sound.admitted id shape known
    have component : ∀ part ∈ shape.components, ∀ {type : JavaType},
        r.typeOf part = .ok type → type.Legal :=
      fun part member _ typed =>
        ih part (sound.older id shape known part member) typed
    cases forms with
    | primitive => exact .primitive _
    | topLevel inPackage named =>
      obtain ⟨⟨_, inPackage', package⟩, ⟨_, named', simple⟩, _⟩ := admits
      cases inPackage.symm.trans inPackage'
      cases named.symm.trans named'
      exact .rawClass ⟨package, simple⟩
    | nested inside named =>
      obtain ⟨_, ⟨_, named', simple⟩, _⟩ := admits
      cases named.symm.trans named'
      cases component _ List.mem_cons_self inside with
      | rawClass legal => exact .rawClass ⟨legal, simple⟩
    | parameterized applied each =>
      obtain ⟨_, nonempty, _⟩ := admits
      cases component _ List.mem_cons_self applied with
      | rawClass legal =>
        refine .parameterized legal (fun empty => ?_) fun type member => ?_
        · rw [empty, List.forall₂_nil_right_iff] at each
          exact nonempty each
        · obtain ⟨argument, inside, typed⟩ := exists_of_mem_right each member
          exact component argument (List.mem_cons_of_mem _ inside) typed
    | array elements => exact .array (component _ (List.mem_singleton_self _) elements)

end Registry

end JavaTypes
