import ComponentFlow.Text.Span

/-!
# Blanks

Blank characters and the removal of blanks at the ends of a text. All trimming in the library is
done here, on lists of characters; `trimmed` is the same on strings.
-/

namespace ComponentFlow.Text

/-- The blank characters: spaces of every width, tabs, line and page breaks, information
separators. -/
def blankSpans : List Span :=
  [(9, 13), (28, 32), (133, 133), (160, 160), (5760, 5760), (8192, 8202), (8232, 8233),
   (8239, 8239), (8287, 8287), (12288, 12288)]

/-- Whether a character is blank. -/
def isBlank (c : Char) : Bool :=
  inSpans blankSpans c.toNat

/-- Drops blanks at the start. -/
def trimStart (s : List Char) : List Char :=
  s.dropWhile isBlank

/-- Drops blanks at the end. -/
def trimEnd (s : List Char) : List Char :=
  (s.reverse.dropWhile isBlank).reverse

/-- Drops blanks at both ends. -/
def trim (s : List Char) : List Char :=
  trimEnd (trimStart s)

/-- Drops blanks at both ends of a string. -/
def trimmed (s : String) : String :=
  String.ofList (trim s.toList)

end ComponentFlow.Text
