/-
**What the command line asks for.**

There are two commands. `inspect` asks for the report on one type, and `imports` for the import
listing of several. Their options may stand anywhere after the command; those with a single value,
and flags other than the verbosity, may be given once.

* `InspectRequest`, `ImportsRequest`: the requests.
* `inspectGrammar`, `importsGrammar`: the arguments of each command.
* `Request.parse`: the request that a command line makes.
-/

import JavaTypes.CommandLine.Grammar
import JavaTypes.TypeExpr

namespace JavaTypes.CommandLine

/-! ### Requests -/

/-- When output is colored. -/
inductive ColorChoice where
  /-- If it goes to a terminal. -/
  | auto
  | always
  | never
  deriving DecidableEq, Repr

/-- A report on one type. -/
structure InspectRequest where
  type : TypeExpr
  json : Bool
  color : ColorChoice
  verbosity : Nat
  deriving DecidableEq, Repr

/-- The import listing of the named types. -/
structure ImportsRequest where
  names : List String
  package : Option String
  implicitJavaLang : Bool
  color : ColorChoice
  verbosity : Nat
  deriving DecidableEq, Repr

inductive Request where
  | inspect (request : InspectRequest)
  | imports (request : ImportsRequest)
  deriving DecidableEq, Repr

/-! ### Values of options -/

/-- The choice with this word. -/
def ColorChoice.read : String → Except UsageError ColorChoice
  | "auto" => .ok .auto
  | "always" => .ok .always
  | "never" => .ok .never
  | _ => .error .unknownChoice

/-- The number written by decimal digits, of which there is at least one. -/
def natural? (digits : List Char) : Option Nat :=
  if digits.isEmpty || !digits.all Char.isDigit then none
  else some (digits.foldl (fun value digit => 10 * value + (digit.toNat - '0'.toNat)) 0)

/-- The integer written by decimal digits behind at most one sign. -/
def integer? (text : String) : Option Int :=
  match text.toList with
  | '-' :: digits => (natural? digits).map fun value => -(value : Int)
  | '+' :: digits => (natural? digits).map fun value => (value : Int)
  | digits => (natural? digits).map fun value => (value : Int)

/-- The largest number of dimensions and the largest verbosity. -/
def countLimit : Nat := 255

/-- Reads a number of dimensions: an integer from zero to the limit. -/
def readDimensions (text : String) : Except UsageError Nat :=
  match integer? text with
  | some (.ofNat value) => if value ≤ countLimit then .ok value else .error .malformedNumber
  | _ => .error .malformedNumber

/-- Fills in a value that may be given once. A second one is not even looked at. -/
def fillOnce {α : Type} (field : Option α) (value : Except UsageError α) :
    Except UsageError (Option α) :=
  match field with
  | some _ => .error .repeated
  | none => some <$> value

/-- Raises a flag that may be given once. -/
def raiseOnce (raised : Bool) : Except UsageError Bool :=
  if raised then .error .repeated else .ok true

/-- One more step of verbosity, up to the limit. -/
def moreVerbose (verbosity : Nat) : Nat := min (verbosity + 1) countLimit

/-- The option that asks for help. -/
def helpOption {Draft : Type} : OptionSpec Draft where
  long := some "help"
  short := some 'h'
  action := .flag fun _ => .error .helpAsked

/-! ### The command `inspect` -/

/-- An `inspect` request while it is read. -/
structure InspectDraft where
  name : Option String := none
  arguments : List String := []
  dimensions : Option Nat := none
  json : Bool := false
  color : Option ColorChoice := none
  verbosity : Nat := 0

/-- The arguments of `inspect`: one name, and options. -/
def inspectGrammar : Grammar InspectDraft where
  options := [
    { long := some "arg"
      action := .valued fun text draft =>
        return { draft with arguments := draft.arguments ++ [text] } },
    { long := some "dims"
      action := .valued fun text draft =>
        return { draft with dimensions := ← fillOnce draft.dimensions (readDimensions text) } },
    { long := some "json"
      action := .flag fun draft => return { draft with json := ← raiseOnce draft.json } },
    { long := some "color"
      action := .valued fun text draft =>
        return { draft with color := ← fillOnce draft.color (ColorChoice.read text) } },
    { short := some 'v'
      action := .flag fun draft =>
        return { draft with verbosity := moreVerbose draft.verbosity } },
    helpOption]
  hasRoom draft := draft.name.isNone
  place text draft := { draft with name := some text }

/-- The request that a draft amounts to; only the name cannot be missing. -/
def InspectDraft.finish (draft : InspectDraft) : Except UsageError InspectRequest :=
  match draft.name with
  | none => .error .missingArgument
  | some name => .ok {
      type := {
        name
        arguments := draft.arguments
        dimensions := draft.dimensions.getD 0 }
      json := draft.json
      color := draft.color.getD .auto
      verbosity := draft.verbosity }

/-! ### The command `imports` -/

/-- An `imports` request while it is read. -/
structure ImportsDraft where
  names : List String := []
  package : Option String := none
  explicitJavaLang : Bool := false
  color : Option ColorChoice := none
  verbosity : Nat := 0

/-- The arguments of `imports`: names, and options. -/
def importsGrammar : Grammar ImportsDraft where
  options := [
    { long := some "package"
      short := some 'p'
      action := .valued fun text draft =>
        return { draft with package := ← fillOnce draft.package (.ok text) } },
    { long := some "no-implicit-java-lang"
      action := .flag fun draft =>
        return { draft with explicitJavaLang := ← raiseOnce draft.explicitJavaLang } },
    { long := some "color"
      action := .valued fun text draft =>
        return { draft with color := ← fillOnce draft.color (ColorChoice.read text) } },
    { short := some 'v'
      action := .flag fun draft =>
        return { draft with verbosity := moreVerbose draft.verbosity } },
    helpOption]
  hasRoom _ := true
  place text draft := { draft with names := draft.names ++ [text] }

/-- The request that a draft amounts to; at least one name is needed. -/
def ImportsDraft.finish (draft : ImportsDraft) : Except UsageError ImportsRequest :=
  if draft.names.isEmpty then .error .missingArgument
  else .ok {
      names := draft.names
      package := draft.package
      implicitJavaLang := !draft.explicitJavaLang
      color := draft.color.getD .auto
      verbosity := draft.verbosity }

/-! ### The command line -/

/-- The commands, and the request for help as a command. -/
def commandNames : List String := ["inspect", "imports", "help"]

/-- Help is given on the program, or on one command. -/
def helpOn : List String → UsageError
  | [] => .helpAsked
  | [topic] => if topic ∈ commandNames then .helpAsked else .unknownCommand
  | _ => .unknownCommand

/-- Why a command line does not begin with a command. A command behind a bare `--` is not
accepted, and before the command there is no option but that for help. -/
def notCommand (first : String) (rest : List String) : UsageError :=
  match Word.ofString first with
  | .separator =>
    match rest with
    | [] => .noCommand
    | next :: _ => if next ∈ commandNames then .unknownArgument else .unknownCommand
  | .long "help" none => .helpAsked
  | .long "help" (some _) => .unexpectedValue
  | .long _ _ => .unknownArgument
  | .short ('h' :: _) => .helpAsked
  | .short _ => .unknownArgument
  | .plain _ => .unknownCommand

/-- The request that a command line makes. -/
def Request.parse : List String → Except UsageError Request
  | [] => .error .noCommand
  | "inspect" :: arguments => do
    let draft ← inspectGrammar.read {} arguments
    return .inspect (← draft.finish)
  | "imports" :: arguments => do
    let draft ← importsGrammar.read {} arguments
    return .imports (← draft.finish)
  | "help" :: topics => .error (helpOn topics)
  | first :: rest => .error (notCommand first rest)

end JavaTypes.CommandLine
