/-
**Running a request.**

A request runs in a new session. What it prints is its answer; if a name cannot be resolved, it
prints nothing, and an error goes to the standard error output instead. The events that the
verbosity shows go there too, before the error.

* `InspectRequest.answer`, `ImportsRequest.answer`: the text that a request prints.
* `Request.run`: the outcome of a request.
-/

import JavaTypes.CommandLine.Request
import JavaTypes.Report

namespace JavaTypes.CommandLine

/-- What a run leaves behind. -/
structure Outcome where
  exitCode : Nat
  stdout : String
  stderr : String
  deriving DecidableEq, Repr

/-- Whether output is colored, if it goes to a terminal or not. -/
def ColorChoice.colored (terminal : Bool) : ColorChoice → Bool
  | .auto => terminal
  | .always => true
  | .never => false

/-- An operation of a session that fails with a message. -/
abbrev AnswerM := EStateM String Session

/-- The operation, failing with the message of its fault. -/
def stating {α : Type} (operation : SessionM α) : AnswerM α :=
  operation.adaptExcept Fault.message

/-- The operation, failing with the message of its error. -/
def statingName {α : Type} (operation : ResolveM α) : AnswerM α :=
  operation.adaptExcept ResolveError.message

/-- The report on the requested type. JSON has no colors. -/
def InspectRequest.answer (terminal : Bool) (request : InspectRequest) : AnswerM String := do
  let id ← statingName request.type.resolve
  let report ← stating (Session.query (·.report id))
  if request.json then
    return report.json ++ "\n"
  else
    return report.render (.ofBool (request.color.colored terminal))

/-- Resolves one name and records what it mentions. -/
def importName (name : String) : AnswerM Unit := do
  let id ← statingName (Session.resolve name)
  stating (Session.addImport id)

/-- The import listing of the requested types. The names are resolved from left to right, and the
first that cannot be ends the run. -/
def ImportsRequest.answer (terminal : Bool) (request : ImportsRequest) : AnswerM String := do
  request.names.forM importName
  let imports := (← get).imports
  stating (Session.emit (.listingImports request.names.length imports.size))
  stating <| Session.query (imports.render · {
    package := request.package
    implicitJavaLang := request.implicitJavaLang
    palette := .ofBool (request.color.colored terminal) })

/-- The verbosity that a request asks for. -/
def Request.verbosity : Request → Nat
  | .inspect request => request.verbosity
  | .imports request => request.verbosity

/-- The text that a request prints. -/
def Request.answer (terminal : Bool) : Request → AnswerM String
  | .inspect request => request.answer terminal
  | .imports request => request.answer terminal

/-- The outcome of a request in a new session. -/
def Request.run (terminal : Bool) (request : Request) : Outcome :=
  match (request.answer terminal).run Session.initial with
  | .ok text session =>
    ⟨0, text, Event.log request.verbosity session.events.toList⟩
  | .error message session =>
    ⟨1, "", Event.log request.verbosity session.events.toList ++ "error: " ++ message ++ "\n"⟩

/-- The exit code when the arguments were not accepted: asking for help is no failure. -/
def UsageError.exitCode : UsageError → Nat
  | .helpAsked => 0
  | _ => 2

/-- What was wrong with the arguments. -/
def UsageError.message : UsageError → String
  | .helpAsked => "help was asked for"
  | .noCommand => "a command is needed"
  | .unknownCommand => "there is no such command"
  | .unknownArgument => "an argument was not expected"
  | .missingArgument => "a name is needed"
  | .missingValue => "an option needs a value"
  | .unknownChoice => "a value is not among those offered"
  | .malformedNumber => "a value is not a number from 0 to 255"
  | .repeated => "an option was given twice"
  | .unexpectedValue => "an option takes no value"

/-- The forms of the commands. -/
def usage : String :=
  "inspect NAME [--arg NAME]... [--dims N] [--json] [--color WHEN] [-v]...\n" ++
  "imports NAME... [-p PACKAGE] [--no-implicit-java-lang] [--color WHEN] [-v]...\n"

/-- The outcome when the arguments were not accepted. -/
def UsageError.outcome (e : UsageError) : Outcome :=
  match e with
  | .helpAsked => ⟨e.exitCode, usage, ""⟩
  | _ => ⟨e.exitCode, "", "error: " ++ e.message ++ "\n\n" ++ usage⟩

/-- The outcome of a command line. -/
def run (terminal : Bool) (arguments : List String) : Outcome :=
  match Request.parse arguments with
  | .ok request => request.run terminal
  | .error e => e.outcome

end JavaTypes.CommandLine
