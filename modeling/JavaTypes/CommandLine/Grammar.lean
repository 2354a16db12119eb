/-
**The grammar of command-line arguments.**

A command takes options and positional arguments, which may stand in any order. An option has a
long spelling, a short one or both; it is a flag, or it takes a value, attached to it or as the
next argument. After a bare `--` everything is positional.

Reading the arguments fills in a draft. An option given with its value apart takes effect only
when the reading goes on past that value, so an argument that cannot be read at all comes before
any fault in the value.

* `Word`: the form of one argument.
* `OptionSpec`, `Grammar`: what a command accepts, and what each option does to the draft.
* `Grammar.read`: the draft that a list of arguments fills in.
-/

namespace JavaTypes.CommandLine

/-- Why the arguments were not accepted. -/
inductive UsageError where
  /-- Help was asked for. -/
  | helpAsked
  /-- There is no command. -/
  | noCommand
  /-- The command, or the topic of `help`, does not exist. -/
  | unknownCommand
  /-- The option does not exist, or no place is left for the positional argument. -/
  | unknownArgument
  /-- The positional argument that the command needs is missing. -/
  | missingArgument
  /-- The option was given without its value. -/
  | missingValue
  /-- The value is none of those that the option offers. -/
  | unknownChoice
  /-- The value is not a number in the range of the option. -/
  | malformedNumber
  /-- The option was given twice. -/
  | repeated
  /-- The option takes no value. -/
  | unexpectedValue
  deriving DecidableEq, Repr

/-! ### The form of one argument -/

/-- An argument by its form. -/
inductive Word where
  /-- The bare `--`. -/
  | separator
  /-- An option by its long spelling, with the value after the first equals sign. -/
  | long (name : String) (value : Option String)
  /-- Options by their short spellings, perhaps with a value behind the last. -/
  | short (letters : List Char)
  /-- Anything else; a single dash is no option. -/
  | plain (text : String)
  deriving DecidableEq, Repr

namespace Word

/-- The long option written by the characters after its two dashes. -/
def ofLong (characters : List Char) : Word :=
  match characters.span (· != '=') with
  | (name, []) => .long (String.ofList name) none
  | (name, _ :: value) => .long (String.ofList name) (some (String.ofList value))

/-- The form of an argument. -/
def ofString (argument : String) : Word :=
  match argument.toList with
  | ['-', '-'] => .separator
  | '-' :: '-' :: characters => ofLong characters
  | '-' :: letter :: letters => .short (letter :: letters)
  | _ => .plain argument

end Word

/-! ### What a command accepts -/

/-- What an option does to the draft. -/
inductive Action (Draft : Type) where
  | flag (apply : Draft → Except UsageError Draft)
  | valued (apply : String → Draft → Except UsageError Draft)

/-- An option: its spellings, without dashes, and its action. -/
structure OptionSpec (Draft : Type) where
  long : Option String := none
  short : Option Char := none
  action : Action Draft

/-- What a command accepts. -/
structure Grammar (Draft : Type) where
  options : List (OptionSpec Draft)
  /-- Whether a place is left for a positional argument. -/
  hasRoom : Draft → Bool
  /-- Puts a positional argument in its place. -/
  place : String → Draft → Draft

/-- What the reading still has to do for the last option. -/
inductive Pending (Draft : Type) where
  | nothing
  /-- The option still needs its value. -/
  | value (apply : String → Draft → Except UsageError Draft)
  /-- The option has its value and has yet to take effect. -/
  | effect (apply : Draft → Except UsageError Draft)

/-- How far the reading has come. -/
structure Reading (Draft : Type) where
  draft : Draft
  pending : Pending Draft := .nothing

variable {Draft : Type}

/-- Lets the last option take effect; without its value it cannot. -/
def Reading.settle (reading : Reading Draft) : Except UsageError Draft :=
  match reading.pending with
  | .nothing => .ok reading.draft
  | .value _ => .error .missingValue
  | .effect apply => apply reading.draft

namespace Grammar

/-- The action of an option by its long spelling. -/
def long? (g : Grammar Draft) (name : String) : Option (Action Draft) :=
  (g.options.find? (·.long == some name)).map (·.action)

/-- The action of an option by its short spelling. -/
def short? (g : Grammar Draft) (letter : Char) : Option (Action Draft) :=
  (g.options.find? (·.short == some letter)).map (·.action)

/-- Reads a long option. -/
def readLong (g : Grammar Draft) (name : String) (value : Option String)
    (reading : Reading Draft) : Except UsageError (Reading Draft) :=
  match g.long? name, value with
  | none, _ => .error .unknownArgument
  | some (.flag _), some _ => .error .unexpectedValue
  | some (.flag apply), none => return ⟨← apply (← reading.settle), .nothing⟩
  | some (.valued apply), some text => return ⟨← apply text (← reading.settle), .nothing⟩
  | some (.valued apply), none => return ⟨← reading.settle, .value apply⟩

/-- Reads short options. The first that takes a value has the rest of the letters for it, without
an equals sign in front; if there is no rest, the value is the next argument. -/
def readShort (g : Grammar Draft) :
    List Char → Reading Draft → Except UsageError (Reading Draft)
  | [], reading => .ok reading
  | letter :: rest, reading =>
    match g.short? letter with
    | none => .error .unknownArgument
    | some (.flag apply) => do
      let draft ← apply (← reading.settle)
      g.readShort rest ⟨draft, .nothing⟩
    | some (.valued apply) => do
      let draft ← reading.settle
      match rest with
      | [] => return ⟨draft, .value apply⟩
      | '=' :: text => return ⟨← apply (String.ofList text) draft, .nothing⟩
      | text => return ⟨← apply (String.ofList text) draft, .nothing⟩

/-- Reads a positional argument. -/
def readPositional (g : Grammar Draft) (text : String) (reading : Reading Draft) :
    Except UsageError (Reading Draft) :=
  if g.hasRoom reading.draft then
    return ⟨g.place text (← reading.settle), .nothing⟩
  else
    .error .unknownArgument

/-- Reads an argument that is no option: the value of the last option, if that needs one. -/
def readPlain (g : Grammar Draft) (text : String) (reading : Reading Draft) :
    Except UsageError (Reading Draft) :=
  match reading.pending with
  | .value apply => .ok ⟨reading.draft, .effect (apply text)⟩
  | _ => g.readPositional text reading

/-- Reads the arguments after a bare `--`. -/
def readPositionals (g : Grammar Draft) :
    List String → Reading Draft → Except UsageError Draft
  | [], reading => reading.settle
  | text :: rest, reading => do g.readPositionals rest (← g.readPositional text reading)

/-- Reads arguments from where the reading stands. -/
def readFrom (g : Grammar Draft) : List String → Reading Draft → Except UsageError Draft
  | [], reading => reading.settle
  | argument :: rest, reading =>
    match Word.ofString argument with
    | .separator => g.readPositionals rest reading
    | .long name value => do g.readFrom rest (← g.readLong name value reading)
    | .short letters => do g.readFrom rest (← g.readShort letters reading)
    | .plain text => do g.readFrom rest (← g.readPlain text reading)

/-- The draft that the arguments fill in, from a blank one. -/
def read (g : Grammar Draft) (blank : Draft) (arguments : List String) :
    Except UsageError Draft :=
  g.readFrom arguments ⟨blank, .nothing⟩

end Grammar

end JavaTypes.CommandLine
