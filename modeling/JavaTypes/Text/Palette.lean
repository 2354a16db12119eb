/-
**Styles of terminal output.**

A palette holds the escape sequence that opens each style and the one that closes it. In the plain
palette all of them are empty, so a text is styled by the same code whether colors are on or off.
-/

namespace JavaTypes.Text

/-- The sequences that open the styles of a text, and the one that ends a styled span. -/
structure Palette where
  /-- Opens the `import` keyword. -/
  keyword : String
  /-- Opens a qualified class name. -/
  className : String
  /-- Opens a label of a report, and the semicolon after an import. -/
  label : String
  /-- Ends the span that an opening sequence began. -/
  reset : String
  deriving DecidableEq, Repr

namespace Palette

/-- No styles at all. -/
def plain : Palette := ⟨"", "", "", ""⟩

/-- ANSI sequences: blue keywords, green names, faint labels. -/
def ansi : Palette := ⟨"\x1b[34m", "\x1b[32m", "\x1b[2m", "\x1b[0m"⟩

/-- The palette for output with or without colors. -/
def ofBool (colored : Bool) : Palette := if colored then ansi else plain

end Palette

end JavaTypes.Text
