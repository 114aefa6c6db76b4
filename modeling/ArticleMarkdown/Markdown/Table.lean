import ArticleMarkdown.Document.Node
import ArticleMarkdown.Fragment.Resolve

/-!
# Tables

Tables become pipe tables whose first row is the header. A cell is one line: block separators in
it become line break tags, and pipes are escaped.
-/

namespace ArticleMarkdown.Table

/-- The text of a cell while it is written, and which separators wait for the next text. -/
structure CellLayout where
  written : Text
  pendingBlock : Bool
  pendingInline : Bool
  deriving DecidableEq, Repr

namespace CellLayout

/-- An empty cell. -/
def start : CellLayout := ⟨[], false, false⟩

/-- The cell after one more token. -/
def write (cell : CellLayout) : Token → CellLayout
  | .blockBreak => { cell with pendingBlock := true }
  | .inlineBreak => { cell with pendingInline := true }
  | .text t =>
    let t := t.map fun c => if Text.isLineBreak c then ' ' else c
    if Text.isBlank t && (cell.pendingBlock || cell.written.isEmpty) then cell
    else if cell.pendingBlock && !cell.written.isEmpty then
      ⟨Text.trimEnd cell.written ++ "<br />".toList ++ Text.trimStart t, false, false⟩
    else
      let needsSpace := cell.pendingInline && !cell.written.isEmpty &&
        cell.written.getLast? != some ' ' && t.head? != some ' '
      ⟨cell.written ++ (if needsSpace then [' '] else []) ++ t, false, false⟩

end CellLayout

/-- The text of a cell on one line, before pipes are escaped. -/
def cellLine (content : Fragment) : Text :=
  Text.trim ((content.trim.tokens.foldl CellLayout.write CellLayout.start).written)

/-- Text with its pipes escaped. -/
def escapePipes (t : Text) : Text :=
  Text.replaceChar '|' ['\\', '|'] t

/-- The text of a cell. -/
def cellText (content : Fragment) : Text :=
  escapePipes (cellLine content)

/-- The alignment that a header cell asks for, as it is written below the header. -/
def delimiter (attributes : List Attribute) : Text :=
  let align := (Attribute.find? attributes "align").map fun a => Text.lower (Text.trim a)
  if align == some "right".toList then "---:".toList
  else if align == some "left".toList then ":---".toList
  else ":---:".toList

/-- A cell: its text and the attributes of its element. -/
structure Cell where
  text : Text
  attributes : List Attribute
  deriving DecidableEq, Repr

/-- A row of cells. -/
abbrev Row := List Cell

/-- The number of columns, at least one. -/
def columns (rows : List Row) : Nat :=
  max ((rows.map List.length).foldl max 0) 1

/-- Texts filled up to a number of columns. -/
def pad (columns : Nat) (texts : List Text) : List Text :=
  texts ++ List.replicate (columns - texts.length) []

/-- A line of a table. -/
def line (columns : Nat) (row : Row) : Text :=
  "| ".toList ++ Text.join " | ".toList (pad columns (row.map Cell.text)) ++ " |".toList

/-- The line below the header. -/
def delimiterLine (columns : Nat) (header : Row) : Text :=
  let delimiters := header.map (delimiter ∘ Cell.attributes)
  let padded := delimiters ++ List.replicate (columns - delimiters.length) (delimiter [])
  '|' :: Text.join ['|'] padded ++ ['|']

/-- The lines of a table with a header and further rows. -/
def lines (header : Row) (rows : List Row) : List Text :=
  let columns := columns (header :: rows)
  line columns header :: delimiterLine columns header :: rows.map (line columns)

/-- The fragment of a table with the given rows; nothing when there are none. -/
def fragment? : List Row → Option Fragment
  | [] => none
  | header :: rows => some (Fragment.blockText (Text.join ['\n'] (lines header rows)))

/-- Whether an element groups the rows of a table. -/
def isRowGroup (name : String) : Bool :=
  name == "thead" || name == "tbody" || name == "tfoot"

/-- Whether an element is a cell. -/
def isCell (name : String) : Bool :=
  name == "td" || name == "th"

end ArticleMarkdown.Table
