/-
**What a session reports while it works.**

Each operation that changes a session, and each one that rejects a name, reports an event. Events
are for whoever debugs a run: they are shown only when the run is asked to be verbose.

* `Event.severity`: how verbose a run has to be to show the event.
* `Event.line`: the event as a line of the log.
* `Event.log_zero`, `Event.log_of_verbose`: the least and the most that a run shows.
-/

import JavaTypes.Shape
import JavaTypes.Text.Quoted

namespace JavaTypes

/-- Something that happened in a session. -/
inductive Event where
  /-- A new type received a handle. -/
  | interned (id : Handle) (shape : Shape)
  /-- A class joined the imports. -/
  | importRecorded (fullName : String)
  /-- A string was rejected as the name of a top-level class. -/
  | classNameRejected (name : String)
  /-- A string was rejected as the name of a nested class. -/
  | nestedNameRejected (name : String)
  /-- A string was rejected as a primitive keyword. -/
  | keywordRejected (word : String)
  /-- Imports are about to be listed: how many names were given, how many classes they need. -/
  | listingImports (requested collected : Nat)
  deriving DecidableEq, Repr

/-- How much detail an event is: debugging shows decisions, tracing every change. -/
inductive Severity where
  | debug
  | trace
  deriving DecidableEq, Repr

namespace Severity

/-- The word that begins a line of the log. -/
def word : Severity → String
  | debug => "DEBUG"
  | trace => "TRACE"

/-- The least verbosity that shows the severity. -/
def verbosity : Severity → Nat
  | debug => 1
  | trace => 2

theorem verbosity_pos (severity : Severity) : 0 < severity.verbosity := by
  cases severity <;> decide

theorem verbosity_le (severity : Severity) : severity.verbosity ≤ 2 := by
  cases severity <;> decide

end Severity

namespace Event

def severity : Event → Severity
  | interned .. => .trace
  | importRecorded _ => .trace
  | classNameRejected _ => .debug
  | nestedNameRejected _ => .debug
  | keywordRejected _ => .debug
  | listingImports .. => .debug

/-- What the event says, with its details as `key=value`. Rejected names are quoted. -/
def text : Event → String
  | interned id shape => "interned type id=" ++ toString id.index ++ " kind=" ++ shape.text
  | importRecorded fullName => "recorded import import=" ++ fullName
  | classNameRejected name => "rejected class name name=" ++ Text.quoted name
  | nestedNameRejected name => "rejected nested class name name=" ++ Text.quoted name
  | keywordRejected word => "rejected primitive name name=" ++ Text.quoted word
  | listingImports requested collected =>
    "rendering imports requested=" ++ toString requested ++ " collected=" ++ toString collected

/-- The line of the log. -/
def line (event : Event) : String := event.severity.word ++ " " ++ event.text ++ "\n"

/-- The log of a run at a given verbosity: a line for each event that it shows, in order. -/
def log (verbosity : Nat) (events : List Event) : String :=
  String.join <| (events.filter fun event => event.severity.verbosity ≤ verbosity).map line

/-- A run that is not asked to be verbose shows nothing. -/
theorem log_zero (events : List Event) : log 0 events = "" := by
  have hidden : events.filter (fun event => event.severity.verbosity ≤ 0) = [] := by
    rw [List.filter_eq_nil_iff]
    intro event _ shown
    exact Nat.not_lt.mpr (of_decide_eq_true shown) event.severity.verbosity_pos
  rw [log, hidden]
  rfl

/-- A run that is verbose enough shows every event. -/
theorem log_of_verbose {verbosity : Nat} (verbose : 2 ≤ verbosity) (events : List Event) :
    log verbosity events = String.join (events.map line) := by
  have shown : ∀ event ∈ events, decide (event.severity.verbosity ≤ verbosity) = true :=
    fun event _ => decide_eq_true (Nat.le_trans event.severity.verbosity_le verbose)
  rw [log, List.filter_eq_self.mpr shown]

end Event

end JavaTypes
