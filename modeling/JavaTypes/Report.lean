/-
**Everything that is known about one type.**

A report holds the names of a type, its parts and the types it converts to, all of them by full
name. It is shown as aligned rows or as a JSON record.

* `Registry.report`: the report on a handle.
* `Report.rows`, `Report.render`: the labelled rows, and the text they make.
* `Report.record`: the fields for JSON.
-/

import JavaTypes.Registry
import JavaTypes.Text.Json
import JavaTypes.Text.Palette

namespace JavaTypes

/-- The report on a type. -/
structure Report where
  /-- The sort of type: `primitive`, `class`, `parameterized` or `array`. -/
  kind : String
  fullName : String
  binaryName : String
  simpleName : String
  descriptor : String
  /-- The package of a class; it may be empty. -/
  package : Option String
  typeArguments : List String
  elementType : Option String
  boxed : String
  unboxed : String
  erasure : String
  deriving DecidableEq, Repr

/-- The word for a sort of type. -/
def Shape.kindName : Shape → String
  | primitive _ => "primitive"
  | rawClass .. => "class"
  | parameterized .. => "parameterized"
  | array _ => "array"

/-- The report on a handle. -/
def Registry.report (r : Registry) (id : Handle) : Except Fault Report := do
  let shape ← r.shape id
  let elementType ← match shape with
    | .array element => pure (some (← r.fullName element))
    | _ => pure none
  return {
    kind := shape.kindName
    fullName := ← r.fullName id
    binaryName := ← r.binaryName id
    simpleName := ← r.simpleName id
    descriptor := ← r.descriptor id
    package := ← r.packageName id
    typeArguments := ← (← r.typeArguments id).mapM r.fullName
    elementType
    boxed := ← r.fullName (← r.boxed id)
    unboxed := ← r.fullName (← r.unboxed id)
    erasure := ← r.fullName (← r.erasure id) }

namespace Report

/-- The labelled values of a report. A part that the type does not have has no row; each type
argument has its own. -/
def rows (report : Report) : List (String × String) :=
  [("kind", report.kind), ("full name", report.fullName), ("binary name", report.binaryName),
    ("name", report.simpleName), ("descriptor", report.descriptor)] ++
  report.package.toList.map (("package", ·)) ++
  report.typeArguments.map (("argument", ·)) ++
  report.elementType.toList.map (("element", ·)) ++
  [("boxed", report.boxed), ("unboxed", report.unboxed), ("erasure", report.erasure)]

/-- The width of the column of labels. -/
def labelWidth : Nat := 12

/-- The label, filled up with blanks to the width of its column. -/
def padLabel (label : String) : String :=
  label ++ String.ofList (List.replicate (labelWidth - label.length) ' ')

/-- One row: the styled label, a blank, the value. -/
def row (palette : Text.Palette) (label value : String) : String :=
  palette.label ++ padLabel label ++ palette.reset ++ " " ++ value ++ "\n"

/-- The report as rows of text. -/
def render (palette : Text.Palette) (report : Report) : String :=
  String.join <| report.rows.map fun (label, value) => row palette label value

/-- The report as a JSON record. A part that the type does not have has no field. -/
def record (report : Report) : Text.Json.Record :=
  [("kind", .text report.kind), ("full_name", .text report.fullName),
    ("binary_name", .text report.binaryName), ("name", .text report.simpleName),
    ("descriptor", .text report.descriptor)] ++
  report.package.toList.map (fun package => ("package", .text package)) ++
  (if report.typeArguments.isEmpty then []
    else [("type_arguments", .texts report.typeArguments)]) ++
  report.elementType.toList.map (fun element => ("element_type", .text element)) ++
  [("boxed", .text report.boxed), ("unboxed", .text report.unboxed),
    ("erasure", .text report.erasure)]

/-- The report as JSON text. -/
def json (report : Report) : String := report.record.pretty

end Report

end JavaTypes
