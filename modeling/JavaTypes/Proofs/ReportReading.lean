/-
**A report can be read back.**

A report is shown as rows or as a JSON record. Its values are clean, so a row ends where its line
ends, a string of the record ends at the next double quote, and what stands between two strings
tells a field from a value. So either text gives the whole report back, with the parts that the type
does not have; and two texts of one form are the same exactly if the types are.

* `Report.Part`, `Report.parts`, `Report.ofParts?`: a report as a list of its parts.
* `Report.lines_render`, `Report.readText?_render`: reading the rows.
* `Text.Json.read_pretty`, `Report.readJson?_json`: reading the record.
* `Session.reports_lossless`: what the reports of issued handles tell.
-/

import JavaTypes.Proofs.Characters

namespace JavaTypes

/-! ### Parts of a report -/

namespace Report

/-- What a report says something about. -/
inductive Part where
  | kind
  | fullName
  | binaryName
  | simpleName
  | descriptor
  | package
  | argument
  | element
  | boxed
  | unboxed
  | erasure
  deriving DecidableEq, Repr

namespace Part

def all : List Part := [kind, fullName, binaryName, simpleName, descriptor, package, argument,
  element, boxed, unboxed, erasure]

theorem mem_all (part : Part) : part ∈ all := by
  cases part <;> decide

/-- What is checked for each part holds of every part. -/
theorem of_all {check : Part → Bool} (each : all.all check = true) (part : Part) :
    check part = true :=
  List.all_eq_true.mp each part part.mem_all

/-- The label of the rows for a part. -/
def label : Part → String
  | kind => "kind"
  | fullName => "full name"
  | binaryName => "binary name"
  | simpleName => "name"
  | descriptor => "descriptor"
  | package => "package"
  | argument => "argument"
  | element => "element"
  | boxed => "boxed"
  | unboxed => "unboxed"
  | erasure => "erasure"

/-- The name of the field for a part. -/
def field : Part → String
  | kind => "kind"
  | fullName => "full_name"
  | binaryName => "binary_name"
  | simpleName => "name"
  | descriptor => "descriptor"
  | package => "package"
  | argument => "type_arguments"
  | element => "element_type"
  | boxed => "boxed"
  | unboxed => "unboxed"
  | erasure => "erasure"

end Part

/-- The parts of a report with their values; only type arguments may be several. -/
def parts (report : Report) : List (Part × String) :=
  [(Part.kind, report.kind), (Part.fullName, report.fullName),
    (Part.binaryName, report.binaryName), (Part.simpleName, report.simpleName),
    (Part.descriptor, report.descriptor)] ++
  report.package.toList.map (fun value => (Part.package, value)) ++
  report.typeArguments.map (fun value => (Part.argument, value)) ++
  report.elementType.toList.map (fun value => (Part.element, value)) ++
  [(Part.boxed, report.boxed), (Part.unboxed, report.unboxed), (Part.erasure, report.erasure)]

/-- The values of a part. -/
def valuesOf (part : Part) (parts : List (Part × String)) : List String :=
  parts.filterMap fun (other, value) => if other = part then some value else none

/-- The report that has these parts. -/
def ofParts? (parts : List (Part × String)) : Option Report := do
  return {
    kind := ← (valuesOf .kind parts).head?
    fullName := ← (valuesOf .fullName parts).head?
    binaryName := ← (valuesOf .binaryName parts).head?
    simpleName := ← (valuesOf .simpleName parts).head?
    descriptor := ← (valuesOf .descriptor parts).head?
    package := (valuesOf .package parts).head?
    typeArguments := valuesOf .argument parts
    elementType := (valuesOf .element parts).head?
    boxed := ← (valuesOf .boxed parts).head?
    unboxed := ← (valuesOf .unboxed parts).head?
    erasure := ← (valuesOf .erasure parts).head? }

theorem valuesOf_append (part : Part) (first second : List (Part × String)) :
    valuesOf part (first ++ second) = valuesOf part first ++ valuesOf part second :=
  List.filterMap_append

theorem valuesOf_map (part other : Part) (values : List String) :
    valuesOf part (values.map ((other, ·))) = if other = part then values else [] := by
  rw [valuesOf, List.filterMap_map]
  by_cases same : other = part
  · rw [if_pos same]
    simp [same]
  · rw [if_neg same]
    simp [same]

/-- **Its parts tell a report.** -/
theorem ofParts?_parts (report : Report) : ofParts? report.parts = some report := by
  simp only [ofParts?, parts, valuesOf_append, valuesOf_map]
  obtain ⟨_, _, _, _, _, package, _, element, _, _, _⟩ := report
  cases package <;> cases element <;> simp [valuesOf]

/-- The rows of a report are its parts by their labels. -/
theorem rows_eq (report : Report) :
    report.rows = report.parts.map fun (part, value) => (part.label, value) := by
  rw [rows, parts]
  simp only [List.map_append, List.map_map]
  rfl

/-! ### Reading rows -/

/-- The part and the value of a line. -/
def readLine? (line : List Char) : Option (Part × String) :=
  (Part.all.find? fun part => (padLabel part.label).toList == line.take labelWidth).map
    fun part => (part, String.ofList (line.drop (labelWidth + 1)))

/-- The report with these rows. -/
def readText? (text : String) : Option Report :=
  ofParts? ((text.toList.splitOn '\n').filterMap readLine?)

/-- The line for a part: its label in its column, a blank, the value. -/
def rowLine (label value : String) : String := padLabel label ++ " " ++ value

theorem row_plain (label value : String) :
    row .plain label value = rowLine label value ++ "\n" := by
  simp [row, rowLine, Text.Palette.plain, String.append_assoc]

/-- Every label fits into its column, is clean, and is told by what stands there. -/
theorem padLabel_tells (part : Part) : (padLabel part.label).toList.length = labelWidth ∧
    Text.Clean (padLabel part.label) ∧ (Part.all.find? fun other =>
      (padLabel other.label).toList == (padLabel part.label).toList) = some part := by
  have checked := part.of_all (show Part.all.all (fun part =>
    (padLabel part.label).toList.length == labelWidth &&
      (padLabel part.label).toList.all Text.isClean &&
        (Part.all.find? fun other =>
          (padLabel other.label).toList == (padLabel part.label).toList) == some part) = true by
    decide)
  simpa [Text.Clean, and_assoc] using checked

/-- **A line tells its part and its value.** -/
theorem readLine?_rowLine (part : Part) (value : String) :
    readLine? (rowLine part.label value).toList = some (part, value) := by
  obtain ⟨wide, _, found⟩ := padLabel_tells part
  have line : (rowLine part.label value).toList =
      (padLabel part.label).toList ++ ' ' :: value.toList := by
    simp [rowLine]
  rw [readLine?, line, ← wide, List.take_left, found, List.drop_length_add_append, List.drop_one,
    List.tail_cons, String.ofList_toList]
  rfl

end Report

/-- What is in front of a separator is split off. -/
theorem splitOn_append_cons {separator : Char} {front : List Char} (plain : separator ∉ front)
    (rest : List Char) :
    (front ++ separator :: rest).splitOn separator = front :: rest.splitOn separator := by
  have others : ∀ c ∈ front, (c == separator) = false := fun c member =>
    beq_false_of_ne fun same => plain (same ▸ member)
  exact List.splitOnP_append_cons_of_forall_mem others separator (beq_self_eq_true separator) rest

/-- Lines that are each ended are split into the lines, and nothing behind the last. -/
theorem splitOn_lines {lines : List (List Char)} (plain : ∀ line ∈ lines, '\n' ∉ line) :
    (lines.flatMap (· ++ ['\n'])).splitOn '\n' = lines ++ [[]] := by
  induction lines with
  | nil => rfl
  | cons line lines ih =>
    obtain ⟨here, behind⟩ := List.forall_mem_cons.mp plain
    rw [List.flatMap_cons, List.append_assoc, List.singleton_append, splitOn_append_cons here,
      ih behind, List.cons_append]

namespace Report

/-- **Each line of the text is a row**, if the values are clean; behind the last there is
nothing. -/
theorem lines_render {report : Report} (clean : ∀ row ∈ report.rows, Text.Clean row.2) :
    (report.render .plain).toList.splitOn '\n' =
      (report.rows.map fun row => (rowLine row.1 row.2).toList) ++ [[]] := by
  have text : (report.render .plain).toList =
      (report.rows.map fun row => (rowLine row.1 row.2).toList).flatMap (· ++ ['\n']) := by
    rw [render, String.toList_join, List.flatMap_map, List.flatMap_map]
    simp [row_plain]
  rw [text]
  refine splitOn_lines fun line member => ?_
  obtain ⟨row, inside, rfl⟩ := List.mem_map.mp member
  have newline : Text.isClean '\n' = false := by simp [Text.isClean, Text.isControl]
  have value := (clean row inside).notMem newline
  rw [rows_eq, List.mem_map] at inside
  obtain ⟨⟨part, _⟩, _, rfl⟩ := inside
  simpa [rowLine, (padLabel_tells part).2.1.notMem newline] using value

/-- **The text gives the report back.** -/
theorem readText?_render {report : Report} (clean : ∀ row ∈ report.rows, Text.Clean row.2) :
    readText? (report.render .plain) = some report := by
  have empty : readLine? [] = none := by decide
  have told : ((report.render .plain).toList.splitOn '\n').filterMap readLine? = report.parts := by
    rw [lines_render clean, List.filterMap_append, rows_eq, List.map_map, List.filterMap_map,
      List.filterMap_cons_none empty, List.filterMap_nil, List.append_nil]
    have each : ∀ row ∈ report.parts, (readLine? ∘ (fun row => (rowLine row.1 row.2).toList) ∘
        fun (part, value) => (part.label, value)) row = some row := fun row _ =>
      readLine?_rowLine row.1 row.2
    rw [List.filterMap_congr each, List.filterMap_some]
  rw [readText?, told, ofParts?_parts]

end Report

/-! ### Reading JSON -/

namespace Text.Json

/-- What stands between quotes, each time with what stands before it. -/
def pairs : List (List Char) → List (String × String)
  | gap :: text :: rest => (String.ofList gap, String.ofList text) :: pairs rest
  | _ => []

/-- What stands before a value: the value of a field, or a first or later one of a list. -/
def valueGaps : List String := [": ", ": [\n    ", ",\n    "]

/-- The rows that texts in quotes amount to. A text that is no value is the name of the field that
the next values belong to. -/
def rowsFrom (field : String) : List (String × String) → List (String × String)
  | [] => []
  | (gap, text) :: rest =>
    if gap ∈ valueGaps then (field, text) :: rowsFrom field rest else rowsFrom text rest

/-- The rows of the record with these characters, behind the field. -/
def readFrom (field : String) (chars : List Char) : List (String × String) :=
  rowsFrom field (pairs (chars.splitOn '"'))

/-- The rows of a printed record: a row for each value, with the name of its field. -/
def read (text : String) : List (String × String) := readFrom "" text.toList

/-- The values of a field. -/
def Field.values : Field → List String
  | text value => [value]
  | texts values => values

/-- The rows of a record. -/
def Record.rows (record : Record) : List (String × String) :=
  record.flatMap fun (name, field) => field.values.map ((name, ·))

theorem Record.rows_append (first second : Record) :
    Record.rows (first ++ second) = first.rows ++ second.rows :=
  List.flatMap_append

theorem Record.rows_single (name : String) (values : List String) :
    Record.rows (values.map fun value => (name, .text value)) = values.map ((name, ·)) := by
  induction values with
  | nil => rfl
  | cons value values ih => exact congrArg (List.cons (name, value)) ih

/-- **A clean text stands in quotes as it is.** -/
theorem string_of_clean {text : String} (clean : Clean text) :
    string text = "\"" ++ text ++ "\"" := by
  have escapes : ∀ c ∈ text.toList, escape c = String.singleton c := by
    intro c member
    have fits := clean c member
    have visible : ¬ c.toNat < 0x20 := fun low => by
      simp [isClean, isControl, low] at fits
    unfold escape
    split <;> first | rw [if_neg visible] | simp [isClean, isControl, marks] at fits
  have joined : String.join (text.toList.map String.singleton) = text := by
    rw [← String.toList_inj, String.toList_join, List.flatMap_map]
    simp
  rw [string, List.map_congr_left escapes, joined]

section Reading

variable {gap field text name : String} {rest : List Char}

/-- The next quotes hold the text, with the gap before it. -/
theorem readFrom_string (plain : '"' ∉ gap.toList) (clean : Clean text) (rest : List Char) :
    readFrom field (gap.toList ++ ((string text).toList ++ rest)) =
      rowsFrom field ((gap, text) :: pairs (rest.splitOn '"')) := by
  have chars : gap.toList ++ ((string text).toList ++ rest) =
      gap.toList ++ '"' :: (text.toList ++ '"' :: rest) := by
    rw [string_of_clean clean]
    simp
  have quote : isClean '"' = false := by simp [isClean, marks]
  rw [readFrom, chars, splitOn_append_cons plain, splitOn_append_cons (clean.notMem quote), pairs,
    String.ofList_toList, String.ofList_toList]

/-- **Behind a gap for values comes a value** of the field. -/
theorem readFrom_value (before : gap ∈ valueGaps) (clean : Clean text) (rest : List Char) :
    readFrom field (gap.toList ++ ((string text).toList ++ rest)) =
      (field, text) :: readFrom field rest := by
  have plain : '"' ∉ gap.toList := by
    simp only [valueGaps, List.mem_cons, List.not_mem_nil, or_false] at before
    rcases before with rfl | rfl | rfl <;> simp
  rw [readFrom_string plain clean, rowsFrom, if_pos before, readFrom]

/-- **Behind any other comes the name of a field**, to which what follows belongs. -/
theorem readFrom_name (before : gap ∉ valueGaps) (plain : '"' ∉ gap.toList)
    (clean : Clean name) (rest : List Char) :
    readFrom field (gap.toList ++ ((string name).toList ++ rest)) = readFrom name rest := by
  rw [readFrom_string plain clean, rowsFrom, if_neg before, readFrom]

/-- Without quotes there are no rows. -/
theorem readFrom_of_plain {chars : List Char} (plain : '"' ∉ chars) :
    readFrom field chars = [] := by
  rw [readFrom, List.splitOn_eq_singleton plain]
  rfl

/-- The values of a list, one after the other. -/
theorem readFrom_values (before : gap ∈ valueGaps) {values : List String}
    (nonempty : values ≠ []) (clean : ∀ value ∈ values, Clean value) (rest : List Char) :
    readFrom field (gap.toList ++
      ((",\n    ".intercalate (values.map string)).toList ++ rest)) =
      values.map ((field, ·)) ++ readFrom field rest := by
  induction values generalizing gap with
  | nil => exact absurd rfl nonempty
  | cons value values ih =>
    obtain ⟨here, behind⟩ := List.forall_mem_cons.mp clean
    by_cases last : values = []
    · rw [last, List.map_singleton, String.intercalate_singleton, readFrom_value before here]
      rfl
    · have between : (",\n    ".intercalate ((value :: values).map string)).toList ++ rest =
          (string value).toList ++ (",\n    ".toList ++
            ((",\n    ".intercalate (values.map string)).toList ++ rest)) := by
        rw [List.map_cons, String.intercalate_cons_of_ne_nil (by simpa using last)]
        simp
      rw [between, readFrom_value before here, ih (by simp [valueGaps]) last behind]
      rfl

/-- What stands behind the last value of a field. -/
def Field.closing : Field → String
  | .text _ => ""
  | .texts [] => ": []"
  | .texts _ => "\n  ]"

/-- A field with its name. -/
def entry (name : String) (field : Field) : String := string name ++ ": " ++ field.pretty

/-- **A field gives its values**, one row for each. -/
theorem readFrom_entry {held : Field} (before : gap ∉ valueGaps) (plain : '"' ∉ gap.toList)
    (named : Clean name) (clean : ∀ value ∈ held.values, Clean value) (rest : List Char) :
    readFrom field (gap.toList ++ ((entry name held).toList ++ rest)) =
      held.values.map ((name, ·)) ++ readFrom name (held.closing.toList ++ rest) := by
  have opened : (entry name held).toList ++ rest =
      (string name).toList ++ ((": " ++ held.pretty).toList ++ rest) := by
    simp [entry]
  rw [opened, readFrom_name before plain named]
  cases held with
  | text value =>
    have chars : (": " ++ (Field.text value).pretty).toList ++ rest =
        ": ".toList ++ ((string value).toList ++ rest) := by
      simp [Field.pretty]
    rw [chars, readFrom_value (by simp [valueGaps]) (clean value List.mem_cons_self)]
    rfl
  | texts values =>
    cases values with
    | nil =>
      rfl
    | cons value values =>
      have chars : (": " ++ (Field.texts (value :: values)).pretty).toList ++ rest =
          ": [\n    ".toList ++ ((",\n    ".intercalate ((value :: values).map string)).toList ++
            ("\n  ]".toList ++ rest)) := by
        simp [Field.pretty]
      rw [chars, readFrom_values (by simp [valueGaps]) (List.cons_ne_nil _ _) clean]
      rfl

/-- Fields are closed in one of three ways. -/
theorem Field.closing_cases (held : Field) :
    held.closing = "" ∨ held.closing = ": []" ∨ held.closing = "\n  ]" := by
  cases held with
  | text value => exact Or.inl rfl
  | texts values =>
    cases values with
    | nil => exact Or.inr (Or.inl rfl)
    | cons value values => exact Or.inr (Or.inr rfl)

/-- What stands between a field and the next one, or the end, has no quotes, and it is no gap for
values. -/
theorem Field.gap_behind (held : Field) : held.closing ++ ",\n  " ∉ valueGaps ∧
    '"' ∉ (held.closing ++ ",\n  ").toList ∧ '"' ∉ (held.closing ++ "\n\x7d").toList := by
  rcases held.closing_cases with same | same | same <;> rw [same] <;> simp [valueGaps]

/-- The fields of a record, with commas between them. -/
def entries (fields : Record) : String :=
  ",\n  ".intercalate (fields.map fun (name, held) => entry name held)

/-- **The fields give their rows**, in order. The induction is on the fields: the gap before the
next one is what closes the one before it, and the comma. -/
theorem readFrom_entries {fields : Record} (before : gap ∉ valueGaps)
    (plain : '"' ∉ gap.toList) (nonempty : fields ≠ [])
    (named : ∀ part ∈ fields, Clean part.1)
    (clean : ∀ part ∈ fields, ∀ value ∈ part.2.values, Clean value) :
    readFrom field (gap.toList ++ ((entries fields).toList ++ "\n\x7d".toList)) =
      Record.rows fields := by
  induction fields generalizing gap field with
  | nil => exact absurd rfl nonempty
  | cons first fields ih =>
    obtain ⟨name, held⟩ := first
    obtain ⟨nameHere, namesBehind⟩ := List.forall_mem_cons.mp named
    obtain ⟨here, behind⟩ := List.forall_mem_cons.mp clean
    obtain ⟨noValue, noQuote, noQuoteLast⟩ := held.gap_behind
    by_cases last : fields = []
    · have none : readFrom name (held.closing.toList ++ "\n\x7d".toList) = [] := by
        rw [← String.toList_append]
        exact readFrom_of_plain noQuoteLast
      rw [last, entries, List.map_singleton, String.intercalate_singleton,
        readFrom_entry before plain nameHere here, none]
      rfl
    · have between : (entries ((name, held) :: fields)).toList ++ "\n\x7d".toList =
          (entry name held).toList ++
            (",\n  ".toList ++ ((entries fields).toList ++ "\n\x7d".toList)) := by
        rw [entries, List.map_cons, String.intercalate_cons_of_ne_nil (by simpa using last)]
        simp [entries]
      have next : readFrom name (held.closing.toList ++ (",\n  ".toList ++
          ((entries fields).toList ++ "\n\x7d".toList))) = Record.rows fields := by
        rw [← List.append_assoc, ← String.toList_append]
        exact ih noValue noQuote last namesBehind behind
      rw [between, readFrom_entry before plain nameHere here, next]
      rfl

/-- **A printed record gives its rows back**, if its names and values are clean. -/
theorem read_pretty {record : Record} (named : ∀ part ∈ record, Clean part.1)
    (clean : ∀ part ∈ record, ∀ value ∈ part.2.values, Clean value) :
    read record.pretty = record.rows := by
  by_cases empty : record = []
  · rw [empty]
    decide
  · have printed : record.pretty.toList =
        "\x7b\n  ".toList ++ ((entries record).toList ++ "\n\x7d".toList) := by
      cases record with
      | nil => exact absurd rfl empty
      | cons first rest => simp [Record.pretty, entries, entry]
    rw [read, printed]
    exact readFrom_entries (by simp [valueGaps]) (by simp) empty named clean

end Reading

end Text.Json

namespace Report

open Text.Json

/-- The report with these fields. -/
def readJson? (text : String) : Option Report :=
  ofParts? <| (read text).filterMap fun (name, value) =>
    (Part.all.find? (·.field == name)).map fun part => (part, value)

/-- The name of a field is clean and tells the part. -/
theorem field_tells (part : Part) :
    Text.Clean part.field ∧ Part.all.find? (·.field == part.field) = some part := by
  have checked := part.of_all (show Part.all.all (fun part => part.field.toList.all Text.isClean &&
    Part.all.find? (·.field == part.field) == some part) = true by decide)
  simpa [Text.Clean] using checked

/-- The rows of the record are the parts of the report by the names of their fields. -/
theorem rows_record (report : Report) :
    Record.rows report.record = report.parts.map fun (part, value) => (part.field, value) := by
  have several : Record.rows (if report.typeArguments.isEmpty then []
      else [("type_arguments", .texts report.typeArguments)]) =
      report.typeArguments.map fun value => (Part.argument.field, value) := by
    cases report.typeArguments with
    | nil => rfl
    | cons value values => exact List.append_nil _
  rw [record, parts]
  simp only [Record.rows_append, Record.rows_single, several, List.map_append, List.map_map]
  rfl

/-- Every field of the record is that of a part. -/
theorem exists_part {report : Report} {name : String} {held : Field}
    (member : (name, held) ∈ report.record) : ∃ part : Part, name = part.field := by
  simp only [record, List.mem_append, List.mem_cons, List.mem_map, List.not_mem_nil, or_false,
    Prod.mk.injEq] at member
  rcases member with (((fixed | ⟨_, _, rfl, _⟩) | several) | ⟨_, _, rfl, _⟩) | converted
  · rcases fixed with ⟨rfl, _⟩ | ⟨rfl, _⟩ | ⟨rfl, _⟩ | ⟨rfl, _⟩ | ⟨rfl, _⟩
    exacts [⟨.kind, rfl⟩, ⟨.fullName, rfl⟩, ⟨.binaryName, rfl⟩, ⟨.simpleName, rfl⟩,
      ⟨.descriptor, rfl⟩]
  · exact ⟨.package, rfl⟩
  · split at several
    · cases several
    · cases List.mem_singleton.mp several
      exact ⟨.argument, rfl⟩
  · exact ⟨.element, rfl⟩
  · rcases converted with ⟨rfl, _⟩ | ⟨rfl, _⟩ | ⟨rfl, _⟩
    exacts [⟨.boxed, rfl⟩, ⟨.unboxed, rfl⟩, ⟨.erasure, rfl⟩]

/-- **The JSON text gives the report back**, if the values are clean. -/
theorem readJson?_json {report : Report} (clean : ∀ row ∈ report.rows, Text.Clean row.2) :
    readJson? report.json = some report := by
  have named : ∀ entry ∈ report.record, Text.Clean entry.1 := by
    rintro ⟨name, held⟩ member
    obtain ⟨part, rfl⟩ := exists_part member
    exact (field_tells part).1
  have values : ∀ entry ∈ report.record, ∀ value ∈ entry.2.values, Text.Clean value := by
    rintro ⟨name, held⟩ member value inside
    have row : (name, value) ∈ Record.rows report.record :=
      List.mem_flatMap.mpr ⟨_, member, List.mem_map_of_mem inside⟩
    rw [rows_record, List.mem_map] at row
    obtain ⟨⟨part, _⟩, known, same⟩ := row
    cases same
    refine clean (part.label, value) ?_
    rw [rows_eq]
    exact List.mem_map.mpr ⟨(part, value), known, rfl⟩
  have each : ∀ row ∈ report.parts, ((fun (name, value) =>
      (Part.all.find? (·.field == name)).map fun part => (part, value)) ∘
        fun (part, value) => (part.field, value)) row = some row := by
    rintro ⟨part, value⟩ _
    exact congrArg (Option.map fun part => (part, value)) (field_tells part).2
  rw [readJson?, json, read_pretty named values, rows_record, List.filterMap_map,
    List.filterMap_congr each, List.filterMap_some, ofParts?_parts]

end Report

/-! ### Reports of issued handles -/

namespace Session

/-- **Reports are lossless.** Take two handles that were issued, in the same session or in different
ones. Their texts are the same exactly if the handles have the same type, and so are their JSON
texts. The values of a report are clean, so that each line of its text is a row: the label in a
column of twelve characters, a blank, the value. And either text gives the whole report back, with
the parts that are absent. -/
theorem reports_lossless (calls calls' : List Call) (a b : Handle)
    (issued : (initial.after calls).registry.Issued a)
    (issued' : (initial.after calls').registry.Issued b) :
    let r := (initial.after calls).registry
    let r' := (initial.after calls').registry
    ∃ report report' : Report, r.report a = .ok report ∧ r'.report b = .ok report' ∧
      (report.render .plain = report'.render .plain ↔ r.typeOf a = r'.typeOf b) ∧
      (report.json = report'.json ↔ r.typeOf a = r'.typeOf b) ∧
      (∀ row ∈ report.rows, Text.Clean row.2) ∧
      ((report.render .plain).toList.splitOn '\n' = (report.rows.map fun row =>
          (Report.padLabel row.1 ++ " " ++ row.2).toList) ++ [[]] ∧
        ∀ row ∈ report.rows, (Report.padLabel row.1).length = 12) ∧
      Report.readText? (report.render .plain) = some report ∧
      Report.readJson? report.json = some report := by
  intro r r'
  have sound : r.Sound := sound_after_initial calls
  have sound' : r'.Sound := sound_after_initial calls'
  obtain ⟨type, typed⟩ := sound.typeOf_total issued
  obtain ⟨type', typed'⟩ := sound'.typeOf_total issued'
  have legal := sound.legal_typeOf typed
  have legal' := sound'.legal_typeOf typed'
  have clean := legal.clean_report
  have clean' := legal'.clean_report
  -- a report tells the binary name, and that tells the type
  have same_type : type.report = type'.report ↔ r.typeOf a = r'.typeOf b := by
    rw [typed, typed', Except.ok.injEq]
    refine ⟨fun same => ?_, congrArg JavaType.report⟩
    exact JavaType.binaryName_injective legal legal' (congrArg Report.binaryName same)
  refine ⟨type.report, type'.report, sound.report_ok typed, sound'.report_ok typed', ?_, ?_, clean,
    ⟨Report.lines_render clean, fun row member => ?_⟩, Report.readText?_render clean,
    Report.readJson?_json clean⟩
  · rw [← same_type]
    refine ⟨fun same => ?_, congrArg (Report.render .plain)⟩
    rw [← Option.some_inj, ← Report.readText?_render clean, ← Report.readText?_render clean', same]
  · rw [← same_type]
    refine ⟨fun same => ?_, congrArg Report.json⟩
    rw [← Option.some_inj, ← Report.readJson?_json clean, ← Report.readJson?_json clean', same]
  · rw [Report.rows_eq, List.mem_map] at member
    obtain ⟨⟨part, _⟩, _, rfl⟩ := member
    exact (Report.padLabel_tells part).1

/-- An array with the same elements under different handles of two sessions. -/
theorem reports_lossless_two_sessions :
    let r := (initial.after [.reference "a.B", .array ⟨18⟩]).registry
    let r' := (initial.after [.reference "c.D", .reference "a.B", .array ⟨19⟩]).registry
    r.Issued ⟨19⟩ ∧ r'.Issued ⟨20⟩ ∧ ∃ report report' : Report,
      r.report ⟨19⟩ = .ok report ∧ r'.report ⟨20⟩ = .ok report' ∧
      report.render .plain = report'.render .plain ∧ report.json = report'.json ∧
      Report.readText? (report.render .plain) = some report ∧
      Report.readJson? report.json = some report := by
  intro r r'
  have typed : r.typeOf ⟨19⟩ = .ok (.array (.rawClass (.topLevel "a" "B"))) := by subst r; cbv
  have typed' : r'.typeOf ⟨20⟩ = .ok (.array (.rawClass (.topLevel "a" "B"))) := by subst r'; cbv
  have issued := (sound_after_initial _).issued_of_typeOf typed
  have issued' := (sound_after_initial _).issued_of_typeOf typed'
  obtain ⟨report, report', here, there, texts, records, _, _, read, readRecord⟩ :=
    reports_lossless [.reference "a.B", .array ⟨18⟩]
      [.reference "c.D", .reference "a.B", .array ⟨19⟩] ⟨19⟩ ⟨20⟩ issued issued'
  have same : r.typeOf ⟨19⟩ = r'.typeOf ⟨20⟩ := typed.trans typed'.symm
  exact ⟨issued, issued', report, report', here, there, texts.mpr same, records.mpr same, read,
    readRecord⟩

end Session

end JavaTypes
