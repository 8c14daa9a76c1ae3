import Telemetry.Text.Columns
/-!
# Telemetry.Text.Table

**Ruled tables** in box-drawing characters. A column is as wide as its widest line,
with one space on either side; cells are left-aligned, and a cell of several lines
makes its row that high. A double rule stands under the header and a dashed rule
between rows.
-/

namespace Telemetry.Text

/-- The lines of a text, split at line feeds. -/
def splitLines : List Char → List (List Char)
  | [] => [[]]
  | c :: cs =>
    match splitLines cs with
    | line :: rest => if c = '\n' then [] :: line :: rest else (c :: line) :: rest
    | [] => [[c]]

/-- A header and rows, all of one length. -/
structure Table where
  header : List String
  rows : List (List String)

namespace Table

/-- A line of the frame: its left end, filling, crossing and right end. -/
structure Rule where
  left : Char
  fill : Char
  cross : Char
  right : Char

def topRule : Rule := ⟨'┌', '─', '┬', '┐'⟩
def headerRule : Rule := ⟨'╞', '═', '╪', '╡'⟩
def rowRule : Rule := ⟨'├', '╌', '┼', '┤'⟩
def bottomRule : Rule := ⟨'└', '─', '┴', '┘'⟩

/-- The lines of each cell of a row. -/
abbrev Cells := List (List (List Char))

def cellLines (row : List String) : Cells := row.map fun s => splitLines s.toList

/-- The width of each cell: that of its widest line. -/
def cellWidths (cells : Cells) : List Nat :=
  cells.map fun lines => (lines.map lineWidth).foldl max 0

/-- The width of each column. -/
def columnWidths (rows : List Cells) : List Nat :=
  rows.foldl (fun widths cells =>
    (widths.zip (cellWidths cells)).map fun (a, b) => max a b)
    (cellWidths (rows.headD []))

def joinWith (cross : Char) : List (List Char) → List Char
  | [] => []
  | [part] => part
  | part :: rest => part ++ cross :: joinWith cross rest

def renderRule (rule : Rule) (widths : List Nat) : List Char :=
  rule.left :: joinWith rule.cross (widths.map fun w => List.replicate (w + 2) rule.fill)
    ++ [rule.right]

/-- A line of a cell between its spaces, filled up to the width of the column. -/
def renderCell (width : Nat) (line : List Char) : List Char :=
  ' ' :: line ++ List.replicate (width - lineWidth line + 1) ' '

/-- The lines of a row, as many as its highest cell has. -/
def renderRow (widths : List Nat) (cells : Cells) : List (List Char) :=
  let height := (cells.map List.length).foldl max 1
  (List.range height).map fun i =>
    '│' :: joinWith '┆' ((widths.zip cells).map fun (w, lines) =>
      renderCell w (lines.getD i [])) ++ ['│']

/-- The lines of the rows, with a rule between neighbours. -/
def renderRows (widths : List Nat) : List Cells → List (List Char)
  | [] => []
  | [cells] => renderRow widths cells
  | cells :: rest =>
    renderRow widths cells ++ renderRule rowRule widths :: renderRows widths rest

/-- The text of a table, without a line feed after its last line. -/
def render (t : Table) : String :=
  let header := cellLines t.header
  let rows := t.rows.map cellLines
  let widths := columnWidths (header :: rows)
  let lines := renderRule topRule widths :: renderRow widths header
    ++ renderRule headerRule widths :: renderRows widths rows
    ++ [renderRule bottomRule widths]
  String.ofList (joinWith '\n' lines)

end Table

end Telemetry.Text
