/-
**Sessions: building types and collecting imports.**

A session owns a registry, the imports of one compilation unit, and the record of what happened.
A request for a type receives its handle: the one issued before if the type is known, and the next
free one if it is new. A request that fails leaves the registry as it was; only its event remains.

* `Session.initial`: the session in which only the primitives and their wrapper classes are known.
* `Session.intern`: the one place where handles are issued.
* `Session.reference`, `Session.nested`, `Session.narrow`, `Session.array`: ask for a type.
* `Session.addImport`: records the classes that a type mentions.
-/

import JavaTypes.Event
import JavaTypes.Imports
import JavaTypes.Name.Class

namespace JavaTypes

/-- The state of one generation session. -/
structure Session where
  registry : Registry
  imports : Imports
  /-- What happened so far, in order. -/
  events : Array Event

/-- An operation of a session. If it fails, the state it reached stays. -/
abbrev SessionM := EStateM Fault Session

namespace Session

/-! ### Issuing handles -/

/-- The handle of a shape, and the session in which it has that handle. A new shape receives the
next free handle. -/
def intern (s : Session) (shape : Shape) : Handle × Session :=
  match s.registry.types.position? shape with
  | some position => (⟨position⟩, s)
  | none =>
    let id : Handle := ⟨s.registry.types.size⟩
    (id, { s with
      registry.types := s.registry.types.insert shape
      events := s.events.push (.interned id shape) })

/-- The names that every registry starts with: the package of the wrapper classes, and their own
names. -/
def initialNames : List String := javaLang :: Primitive.all.map Primitive.wrapperSimpleName

/-- The shape of a wrapper class over `initialNames`. -/
def wrapperShape (p : Primitive) : Shape := .rawClass ⟨0⟩ none ⟨p.index + 1⟩

/-- The shapes that every registry starts with. -/
def initialShapes : List Shape :=
  Primitive.all.map Shape.primitive ++ Primitive.all.map wrapperShape

/-- A session that knows the initial names and no type. -/
def blank : Session := ⟨⟨OrderedSet.ofList initialNames, ∅⟩, ∅, #[]⟩

/-- A new session: the primitives and their wrapper classes have their fixed handles. -/
def initial : Session := initialShapes.foldl (fun s shape => (s.intern shape).2) blank

/-! ### Steps of operations -/

/-- Asks the registry. -/
def query {α : Type} (ask : Registry → Except Fault α) : SessionM α := fun s =>
  match ask s.registry with
  | .ok answer => .ok answer s
  | .error fault => .error fault s

/-- Records an event. -/
def emit (event : Event) : SessionM Unit := fun s =>
  .ok () { s with events := s.events.push event }

/-- Refuses the request. -/
def refuse {α : Type} (why : Refusal) : SessionM α := throw (.refused why)

/-- The number of a name, new or known. -/
def internName (name : String) : SessionM NameId := fun s =>
  let (id, names) := NamePool.intern s.registry.names name
  .ok id { s with registry.names := names }

/-- The handle of a shape, new or known. -/
def internShape (shape : Shape) : SessionM Handle := fun s =>
  let (id, s) := s.intern shape
  .ok id s

/-! ### Asking for types -/

/-- The primitive with this keyword. -/
def primitive (word : String) : SessionM Handle := do
  match Primitive.ofKeyword? word with
  | some kind => return .ofPrimitive kind
  | none =>
    emit (.keywordRejected word)
    refuse (.notPrimitive word)

/-- The top-level class of this name. -/
def reference (name : String) : SessionM Handle := do
  if Name.isClassName name then
    let package ← internName (Name.qualifier name)
    let simpleName ← internName (Name.lastSegment name)
    internShape (.rawClass package none simpleName)
  else
    emit (.classNameRejected name)
    refuse (.invalidClassName name)

/-- The class of this name nested in a raw class. -/
def nested (outer : Handle) (name : String) : SessionM Handle := do
  match ← query (·.shape outer) with
  | .rawClass package _ _ =>
    if Name.isNestedName name then
      let simpleName ← internName name
      internShape (.rawClass package (some outer) simpleName)
    else
      emit (.nestedNameRejected name)
      refuse (.invalidClassName name)
  | _ => refuse (.notClass (← query (·.fullName outer)))

/-- The type argument as it is stored: primitives are boxed, and `void` is none. -/
def boxedArgument (r : Registry) (argument : Handle) : Except Fault Handle :=
  if argument = .void then .error (.refused .voidTypeArgument) else r.boxed argument

/-- A raw class applied to type arguments. The leftmost argument that is unfit decides. -/
def narrow (basis : Handle) (arguments : List Handle) : SessionM Handle := do
  match ← query (·.shape basis) with
  | .rawClass .. =>
    if arguments.isEmpty then
      refuse .noTypeArguments
    else
      let boxed ← query fun r => arguments.mapM (boxedArgument r)
      internShape (.parameterized basis boxed)
  | _ => refuse (.notClass (← query (·.fullName basis)))

/-- The array of elements of this type. -/
def array (element : Handle) : SessionM Handle := do
  let _ ← query (·.shape element)
  if element = .void then
    refuse .arrayOfVoid
  else
    internShape (.array element)

/-- The array with this many more dimensions. -/
def arrays : Nat → Handle → SessionM Handle
  | 0, id => return id
  | dimensions + 1, id => do arrays dimensions (← array id)

/-! ### Collecting imports -/

/-- Adds one class to the imports. Only a class that was not among them is an event. -/
def recordImport (id : Handle) : SessionM Unit := do
  unless (← get).imports.contains id do
    modify fun s => { s with imports := s.imports.insert id }
    emit (.importRecorded (← query (·.fullName id)))

/-- Adds the classes that a type mentions to the imports. -/
def addImport (id : Handle) : SessionM Unit := do
  (← query (·.mentionedClasses id)).forM recordImport

/-- Adds the classes that several types mention, type by type. -/
def addImports (ids : List Handle) : SessionM Unit := ids.forM addImport

end Session

end JavaTypes
