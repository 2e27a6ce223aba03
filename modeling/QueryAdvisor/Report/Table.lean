import QueryAdvisor.Response
import QueryAdvisor.Text.Columns
import QueryAdvisor.Text.Pieces

/-!
# Suggestions as a table

Each column is as wide as its widest line and a blank on either side; a cell
may have several lines, and a row is as tall as its tallest cell. Width is
counted in terminal columns.
-/

namespace QueryAdvisor.Table

/-- A cell: its lines. -/
abbrev Cell := List (List Char)

/-- The cell of a text, broken where its lines end. -/
def cell (s : String) : Cell :=
  Text.pieces '\n' s.toList

/-- The width of the widest line. -/
def cellWidth (c : Cell) : Nat :=
  c.foldl (fun w line => max w (Text.columns line)) 0

/-- The widths of the columns of rows that all have `count` cells. -/
def widths (count : Nat) (rows : List (List Cell)) : List Nat :=
  (List.range count).map fun i =>
    rows.foldl (fun w row => max w (cellWidth (row.getD i []))) 0

/-- A line of a cell with the blanks up to a width and one on either side. -/
def padded (width : Nat) (line : List Char) : List Char :=
  ' ' :: (line ++ List.replicate (width - Text.columns line + 1) ' ')

/-- Pieces between a left border, inner borders and a right border. -/
def framed (left inner right : Char) (pieces : List (List Char)) : String :=
  String.ofList (left :: ((pieces.intersperse [inner]).flatten ++ [right]))

/-- A border across all columns. -/
def border (left fill inner right : Char) (ws : List Nat) : String :=
  framed left inner right (ws.map fun w => List.replicate (w + 2) fill)

/-- The lines of a row. -/
def rowLines (ws : List Nat) (row : List Cell) : List String :=
  let height := row.foldl (fun h c => max h c.length) 0
  (List.range height).map fun i =>
    framed '│' '┆' '│' (List.zipWith (fun w c => padded w (c.getD i [])) ws row)

/-- The lines of rows with a border between each two. -/
def bodyLines (ws : List Nat) (rows : List (List Cell)) : List String :=
  ((rows.map (rowLines ws)).intersperse [border '├' '╌' '┼' '┤' ws]).flatten

/-- A table with a heading. -/
def render (heading : List Cell) (rows : List (List Cell)) : String :=
  let ws := widths heading.length (heading :: rows)
  String.intercalate "\n"
    ([border '┌' '─' '┬' '┐' ws] ++ rowLines ws heading ++ [border '╞' '═' '╪' '╡' ws]
      ++ bodyLines ws rows ++ [border '└' '─' '┴' '┘' ws])

/-- The row of a suggestion. -/
def suggestionRow (number : Nat) (s : Suggestion) : List Cell :=
  [cell (String.ofList (Nat.toDigits 10 number)), cell s.severity.name,
    cell (s.title ++ "\n" ++ s.description), cell s.recommendation]

end QueryAdvisor.Table

namespace QueryAdvisor

/-- Suggestions as a table. -/
def suggestionTable (suggestions : List Suggestion) : String :=
  Table.render [Table.cell "#", Table.cell "Severity", Table.cell "Finding", Table.cell "Recommendation"]
    (suggestions.mapIdx fun i s => Table.suggestionRow (i + 1) s)

end QueryAdvisor
