/-
**Colors add escape sequences and nothing else.**

A terminal takes an escape character, a bracket, digits and an `m` for a change of style; everything
else it shows. Read in this way, a colored text shows what the plain text is, and no style lasts
beyond its line. For this no name may hold an escape character, and none does: names are clean.

* `Text.Ansi.tokens`: a text as a terminal reads it.
* `Text.Ansi.shown`, `Text.Ansi.spansClosed`: what is shown, whether styles end with their lines.
* `Text.Ansi.Shows`: how a styled text goes with a plain one, part by part.
* `Imports.shows_block`, `Report.shows_render`: listings and reports.
* `Session.colors_only_add_escapes`: at every moment.
-/

import JavaTypes.Proofs.Listings
import JavaTypes.Proofs.ReportReading

namespace JavaTypes

/-! ### Reading as a terminal does -/

namespace Text.Ansi

/-- The character that begins an escape sequence. -/
def escape : Char := '\x1b'

/-- What a terminal reads: a character to show, or a change of style with its code. -/
inductive Token where
  | char (c : Char)
  | style (digits : List Char)
  deriving DecidableEq, Repr

/-- The sequence for the style with this code. -/
def sequence (digits : List Char) : List Char := escape :: '[' :: digits ++ ['m']

/-- The characters of a token. -/
def Token.chars : Token → List Char
  | char c => [c]
  | style digits => sequence digits

/-- The character that a token shows. -/
def Token.shown? : Token → Option Char
  | char c => some c
  | style _ => none

/-- The code of the style, if the characters begin with its sequence. -/
def style? : List Char → Option (List Char)
  | first :: '[' :: rest =>
    if first = escape ∧ (rest.dropWhile Char.isDigit).head? = some 'm' then
      some (rest.takeWhile Char.isDigit)
    else none
  | _ => none

/-- The tokens of characters, of which the first few belong to the token before. -/
def tokensFrom : (skip : Nat) → List Char → List Token
  | _, [] => []
  | skip + 1, _ :: rest => tokensFrom skip rest
  | 0, c :: rest =>
    match style? (c :: rest) with
    | some digits => .style digits :: tokensFrom (digits.length + 2) rest
    | none => .char c :: tokensFrom 0 rest

/-- The tokens of characters. -/
def tokens (chars : List Char) : List Token := tokensFrom 0 chars

/-- What is shown of a text: all of it but the sequences. -/
def shown (text : String) : String := String.ofList ((tokens text.toList).filterMap Token.shown?)

/-- The code of the style that ends all others. -/
def resetCode : List Char := ['0']

/-- Whether styles end with their lines: at the end of a line, and at the end of all, none is on.
`styled` says whether one is on before the first token. -/
def spansClosed : (styled : Bool) → List Token → Bool
  | styled, [] => !styled
  | styled, .char c :: rest => !(styled && c == '\n') && spansClosed styled rest
  | _, .style digits :: rest => spansClosed (digits != resetCode) rest

/-! ### Sequences -/

/-- **A sequence is read as such**, whatever follows. -/
theorem style?_sequence {digits : List Char} (numeric : ∀ c ∈ digits, c.isDigit = true)
    (rest : List Char) : style? (sequence digits ++ rest) = some digits := by
  have chars : sequence digits ++ rest = escape :: '[' :: (digits ++ 'm' :: rest) := by
    simp [sequence]
  rw [chars, style?, List.dropWhile_append_of_pos numeric, List.takeWhile_append_of_pos numeric]
  simp

theorem exists_of_style? {chars digits : List Char} (found : style? chars = some digits) :
    ∃ rest, chars = sequence digits ++ rest := by
  unfold style? at found
  split at found
  · rename_i first rest
    simp only [Option.ite_none_right_eq_some, Option.some.injEq] at found
    obtain ⟨⟨rfl, behind⟩, rfl⟩ := found
    obtain ⟨rest', last⟩ := List.head?_eq_some_iff.mp behind
    have split : rest.takeWhile Char.isDigit ++ 'm' :: rest' = rest := by
      rw [← last, List.takeWhile_append_dropWhile]
    exact ⟨rest', by simp [sequence, split]⟩
  · cases found

theorem style?_of_ne {c : Char} (other : c ≠ escape) (rest : List Char) :
    style? (c :: rest) = none := by
  unfold style?
  split
  · rename_i same
    rw [if_neg fun both => other ((List.cons.inj same).1.trans both.1)]
  · rfl

theorem tokensFrom_skip (front rest : List Char) :
    tokensFrom front.length (front ++ rest) = tokens rest := by
  induction front with
  | nil => rfl
  | cons c front ih => exact ih

theorem tokens_sequence {digits : List Char} (numeric : ∀ c ∈ digits, c.isDigit = true)
    (rest : List Char) : tokens (sequence digits ++ rest) = .style digits :: tokens rest := by
  have opens : sequence digits ++ rest = escape :: (('[' :: digits ++ ['m']) ++ rest) := by
    simp [sequence]
  have found := style?_sequence numeric rest
  have length : ('[' :: digits ++ ['m']).length = digits.length + 2 := by simp
  rw [opens] at found ⊢
  rw [tokens, tokensFrom, found, ← tokensFrom_skip, length]

theorem tokens_cons {c : Char} (other : c ≠ escape) (rest : List Char) :
    tokens (c :: rest) = .char c :: tokens rest := by
  rw [tokens, tokensFrom, style?_of_ne other]
  rfl

/-- **Nothing is lost**: the tokens are all that was read, so that what `shown` leaves out is the
sequences. -/
theorem chars_tokensFrom (skip : Nat) (chars : List Char) :
    (tokensFrom skip chars).flatMap Token.chars = chars.drop skip := by
  induction chars generalizing skip with
  | nil => cases skip <;> rfl
  | cons c rest ih =>
    cases skip with
    | succ skip => exact ih skip
    | zero =>
      rw [tokensFrom]
      cases found : style? (c :: rest) with
      | none => simp [Token.chars, ih]
      | some digits =>
        obtain ⟨behind, split⟩ := exists_of_style? found
        have tail : rest = '[' :: (digits ++ 'm' :: behind) := by
          simpa [sequence] using (List.cons.inj split).2
        have skipped : rest.drop (digits.length + 2) = behind := by
          rw [tail]
          simp
        simp [Token.chars, ih, skipped, split]

theorem tokens_visible {front : List Char} (visible : escape ∉ front) (rest : List Char) :
    tokens (front ++ rest) = front.map .char ++ tokens rest := by
  induction front with
  | nil => rfl
  | cons c front ih =>
    rw [List.mem_cons, not_or] at visible
    rw [List.cons_append, tokens_cons (Ne.symm visible.1), ih visible.2]
    rfl

theorem shown?_chars (chars : List Char) :
    (chars.map Token.char).filterMap Token.shown? = chars := by
  rw [List.filterMap_map]
  exact List.filterMap_some

/-- Characters change no style; a style that is on does not go beyond a line. -/
theorem spansClosed_chars {styled : Bool} {chars : List Char}
    (inside : styled = true → '\n' ∉ chars) (rest : List Token) :
    spansClosed styled (chars.map .char ++ rest) = spansClosed styled rest := by
  induction chars with
  | nil => rfl
  | cons c chars ih =>
    have here : (!(styled && c == '\n')) = true := by
      cases styled with
      | false => rfl
      | true =>
        have other : c ≠ '\n' := fun same => inside rfl (same ▸ List.mem_cons_self)
        simp [other]
    rw [List.map_cons, List.cons_append, spansClosed, here, Bool.true_and]
    exact ih fun on member => inside on (List.mem_cons_of_mem _ member)

/-! ### Styled texts beside plain ones -/

/-- **The styled text shows the plain one**, whatever follows, and leaves no style on at the end of
a line or of the text. There is no escape character in the plain one. -/
structure Shows (styled plain : String) : Prop where
  visible : escape ∉ plain.toList
  reads : ∃ front, (∀ rest, tokens (styled.toList ++ rest) = front ++ tokens rest) ∧
    front.filterMap Token.shown? = plain.toList ∧
    ∀ rest, spansClosed false (front ++ rest) = spansClosed false rest

namespace Shows

variable {styled plain styled' plain' : String}

theorem append (first : Shows styled plain) (second : Shows styled' plain') :
    Shows (styled ++ styled') (plain ++ plain') := by
  obtain ⟨visible, front, reads, shows, closed⟩ := first
  obtain ⟨visible', front', reads', shows', closed'⟩ := second
  refine ⟨by simp [visible, visible'], front ++ front', fun rest => ?_, ?_, fun rest => ?_⟩
  · rw [String.toList_append, List.append_assoc, reads, reads', List.append_assoc]
  · rw [List.filterMap_append, shows, shows', String.toList_append]
  · rw [List.append_assoc, closed, closed']

/-- A text without escape characters shows as it is. -/
theorem of_visible (visible : escape ∉ plain.toList) : Shows plain plain :=
  ⟨visible, plain.toList.map .char, tokens_visible visible, shown?_chars _,
    spansClosed_chars nofun⟩

/-- **A styled span shows what it holds**, if that is within a line. -/
theorem span {digits : List Char} (numeric : ∀ c ∈ digits, c.isDigit = true)
    (visible : escape ∉ plain.toList) (inside : '\n' ∉ plain.toList) :
    Shows (String.ofList (sequence digits) ++ plain ++ String.ofList (sequence resetCode))
      plain := by
  have reset : ∀ c ∈ resetCode, c.isDigit = true := by simp [resetCode]
  refine ⟨visible, .style digits :: (plain.toList.map .char ++ [.style resetCode]),
    fun rest => ?_, ?_, fun rest => ?_⟩
  · simp only [String.toList_append, String.toList_ofList, List.append_assoc]
    rw [tokens_sequence numeric, tokens_visible visible, tokens_sequence reset]
    simp
  · rw [List.filterMap_cons_none rfl, List.filterMap_append, shown?_chars]
    exact List.append_nil _
  · rw [List.cons_append, spansClosed, List.append_assoc, spansClosed_chars fun _ => inside]
    rfl

/-- Texts one after the other. -/
theorem join {α : Type} {parts : List α} {write write' : α → String}
    (each : ∀ part ∈ parts, Shows (write part) (write' part)) :
    Shows (String.join (parts.map write)) (String.join (parts.map write')) := by
  induction parts with
  | nil => exact of_visible (by simp)
  | cons part parts ih =>
    obtain ⟨here, behind⟩ := List.forall_mem_cons.mp each
    rw [List.map_cons, List.map_cons, String.join_cons, String.join_cons]
    exact here.append (ih behind)

/-- **What is shown of the styled text is the plain one**, and styles end with their lines. -/
theorem shown_eq (shows : Shows styled plain) :
    shown styled = plain ∧ escape ∉ plain.toList ∧
      spansClosed false (tokens styled.toList) = true := by
  obtain ⟨visible, front, reads, told, closed⟩ := shows
  have all : tokens styled.toList = front := by
    have last := reads []
    rwa [List.append_nil, show tokens [] = [] from rfl, List.append_nil] at last
  refine ⟨?_, visible, ?_⟩
  · rw [shown, all, told, String.ofList_toList]
  · have none := closed []
    rwa [List.append_nil, ← all] at none

end Shows

end Text.Ansi

/-! ### Listings and reports -/

open Text.Ansi

theorem Text.Clean.visible {text : String} (clean : Clean text) : Ansi.escape ∉ text.toList :=
  clean.notMem (by simp [isClean, isControl, Ansi.escape])

/-- **A clean text can be styled** with any palette code. -/
theorem Text.Clean.shows_span {text : String} (clean : Clean text) {digits : List Char}
    (numeric : ∀ c ∈ digits, c.isDigit = true) :
    Shows (String.ofList (sequence digits) ++ text ++ String.ofList (sequence resetCode)) text :=
  .span numeric clean.visible (clean.notMem (by simp [isClean, isControl]))

/-- The sequences of the colored palette. -/
theorem Text.Palette.ansi_eq : ansi = ⟨String.ofList (sequence ['3', '4']),
    String.ofList (sequence ['3', '2']), String.ofList (sequence ['2']),
    String.ofList (sequence resetCode)⟩ := by
  decide

namespace Imports

/-- **A line of a listing** shows as without colors. -/
theorem shows_line {name : String} (clean : Text.Clean name) :
    Shows (line .ansi name) (line .plain name) := by
  have keyword : Text.Clean "import" := by decide
  have semicolon : Text.Clean ";" := by decide
  have blue := keyword.shows_span (show ∀ c ∈ ['3', '4'], c.isDigit = true by simp)
  have green := clean.shows_span (show ∀ c ∈ ['3', '2'], c.isDigit = true by simp)
  have faint := semicolon.shows_span (show ∀ c ∈ ['2'], c.isDigit = true by simp)
  have blank : Shows " " " " := .of_visible (by simp [escape])
  have newline : Shows "\n" "\n" := .of_visible (by simp [escape])
  have whole := (((blue.append blank).append green).append faint).append newline
  rw [line_plain, line, Text.Palette.ansi_eq]
  simpa [String.append_assoc] using whole

/-- **A listing** shows as without colors: where its blocks are set off depends on the names. -/
theorem shows_block {names : List String} (clean : ∀ name ∈ names, Text.Clean name) :
    Shows (block .ansi names) (block .plain names) := by
  have lines : ∀ afterJava,
      Shows (linesAfter .ansi afterJava names) (linesAfter .plain afterJava names) := by
    induction names with
    | nil => exact fun _ => .of_visible (by simp [linesAfter])
    | cons name names ih =>
      obtain ⟨here, behind⟩ := List.forall_mem_cons.mp clean
      intro afterJava
      refine (Shows.append (.of_visible ?_) (shows_line here)).append (ih behind _)
      split <;> simp [escape]
  exact lines false

end Imports

/-- **A report** shows as without colors, if its values are clean. -/
theorem Report.shows_render {report : Report} (clean : ∀ row ∈ report.rows, Text.Clean row.2) :
    Shows (report.render .ansi) (report.render .plain) := by
  refine .join fun ⟨label, value⟩ member => ?_
  have valueClean : Text.Clean value := clean _ member
  rw [rows_eq, List.mem_map] at member
  obtain ⟨⟨part, _⟩, _, same⟩ := member
  cases same
  have faint := (padLabel_tells part).2.1.shows_span (show ∀ c ∈ ['2'], c.isDigit = true by simp)
  have blank : Shows " " " " := .of_visible (by simp [escape])
  have newline : Shows "\n" "\n" := .of_visible (by simp [escape])
  have whole := ((faint.append blank).append (.of_visible valueClean.visible)).append newline
  show Shows (row .ansi part.label value) (row .plain part.label value)
  rw [row_plain, rowLine, row, Text.Palette.ansi_eq]
  exact whole

/-! ### Every moment -/

namespace Session

/-- **Colors add escape sequences and nothing else.** Take any session that proper actions lead to
from a new one. Under any options the imports have a listing with colors and one without, and any
handle that was issued has a report. What is shown of the colored text is the plain one; in the
plain one there is no escape character, and in the colored one every style ends with its line. -/
theorem colors_only_add_escapes {s : Session} (reached : initial.Leads s) :
    (∀ options : ListingOptions, ∃ colored plain,
      s.imports.render s.registry { options with palette := .ansi } = .ok colored ∧
      s.imports.render s.registry { options with palette := .plain } = .ok plain ∧
      shown colored = plain ∧ escape ∉ plain.toList ∧
        spansClosed false (tokens colored.toList) = true) ∧
    ∀ id, s.registry.Issued id → ∃ report, s.registry.report id = .ok report ∧
      shown (report.render .ansi) = report.render .plain ∧
      escape ∉ (report.render .plain).toList ∧
        spansClosed false (tokens (report.render .ansi).toList) = true := by
  have sound := (reached.sound sound_initial).1
  refine ⟨fun options => ?_, fun id issued => ?_⟩
  · obtain ⟨order, listed, ascending, inside⟩ := sound.listed_ok options
    obtain ⟨names, named, _, rendered⟩ :=
      sound.render_ok listed ascending fun id member => ((inside id).mp member).1
    have clean : ∀ name ∈ names, Text.Clean name := by
      intro name member
      obtain ⟨id, _, told⟩ := exists_of_mem_right named member
      obtain ⟨type, typed, answer⟩ := bind_eq_ok_iff.mp told
      cases answer
      exact (sound.registry.legal_typeOf typed).clean_fullName
    exact ⟨_, _, rendered .ansi, rendered .plain, (Imports.shows_block clean).shown_eq⟩
  · obtain ⟨type, typed⟩ := sound.registry.typeOf_total issued
    have clean := (sound.registry.legal_typeOf typed).clean_report
    exact ⟨_, sound.registry.report_ok typed, (Report.shows_render clean).shown_eq⟩

/-- A class, imported and reported on. -/
theorem colors_only_add_escapes_one_class :
    let asked := initial.after [.reference "a.B"]
    let s := (Action.extend [⟨18⟩]).after asked
    initial.Leads s ∧ s.registry.Issued ⟨18⟩ ∧
    (∃ colored, s.imports.render s.registry { palette := .ansi } = .ok colored ∧
      shown colored = "import a.B;\n" ∧ spansClosed false (tokens colored.toList) = true) ∧
    ∃ report, s.registry.report ⟨18⟩ = .ok report ∧
      shown (report.render .ansi) = report.render .plain ∧
      escape ∉ (report.render .plain).toList ∧
      spansClosed false (tokens (report.render .ansi).toList) = true := by
  intro asked s
  have typed : asked.registry.typeOf ⟨18⟩ = .ok (.rawClass (.topLevel "a" "B")) := by
    subst asked; cbv
  have uncolored : s.imports.render s.registry {} = .ok "import a.B;\n" := by
    subst s asked; cbv
  have reached : initial.Leads asked := Leads.refl.requests _
  have sound := (reached.sound sound_initial).1
  have issued := sound.registry.issued_of_typeOf typed
  have proper : (Action.extend [⟨18⟩]).Proper asked := by simpa [Action.Proper] using issued
  have registry : s.registry = asked.registry := Action.registry_after_extend sound proper
  have leads : initial.Leads s := reached.step _ proper
  have issued' : s.registry.Issued ⟨18⟩ := by rwa [registry]
  obtain ⟨listing, reports⟩ := colors_only_add_escapes leads
  obtain ⟨colored, plain, rendered, rendered', same, _, closed⟩ := listing {}
  cases uncolored.symm.trans rendered'
  exact ⟨leads, issued', ⟨colored, rendered, same, closed⟩, reports _ issued'⟩

end Session

end JavaTypes
