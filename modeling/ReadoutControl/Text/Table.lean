import ReadoutControl.Text.Blank
import ReadoutControl.Text.Width

set_option autoImplicit false

/-!
Tables drawn with lines. A cell may hold several lines of text; all cells of a row are as high as
the highest, and all cells of a column as wide as the widest.
-/

namespace ReadoutControl.Text

/-- The characters of a line across a table. -/
structure Rule where
  left : Char
  line : Char
  crossing : Char
  right : Char

namespace Rule

def top : Rule := ⟨'┌', '─', '┬', '┐'⟩

def underHeader : Rule := ⟨'╞', '═', '╪', '╡'⟩

def betweenRows : Rule := ⟨'├', '╌', '┼', '┤'⟩

def bottom : Rule := ⟨'└', '─', '┴', '┘'⟩

/-- The line over columns of the given widths, each with a blank on both sides. -/
def draw (r : Rule) (widths : List Nat) : List Char :=
  r.left :: [r.crossing].intercalate (widths.map fun w => List.replicate (w + 2) r.line) ++
    [r.right]

end Rule

/-- A cell as its lines. -/
def cellLines (cell : String) : List (List Char) := splitAt (· = '\n') cell.toList

/-- A line filled up with blanks to a width. -/
def padded (width : Nat) (line : List Char) : List Char :=
  line ++ List.replicate (width - Text.width line) ' '

def columnWidth (column : List String) : Nat :=
  (column.flatMap cellLines).foldl (fun widest line => max widest (Text.width line)) 0

/-- A line of text of a row, from the lines that the cells have at that height. -/
def drawLine (widths : List Nat) (lines : List (List Char)) : List Char :=
  let cells := (widths.zip lines).map fun (w, line) => ' ' :: padded w line ++ [' ']
  '│' :: ['┆'].intercalate cells ++ ['│']

/-- A row as its lines; what a cell lacks in height is blank. -/
def drawRow (widths : List Nat) (row : List String) : List (List Char) :=
  let cells := row.map cellLines
  let height := cells.foldl (fun highest lines => max highest lines.length) 0
  (List.range height).map fun i => drawLine widths (cells.map fun lines => lines.getD i [])

/-- A table with a header. -/
def table (header : List String) (rows : List (List String)) : String :=
  let widths := (List.range header.length).map fun i =>
    columnWidth ((header :: rows).map fun row => row.getD i "")
  let body := [Rule.betweenRows.draw widths].intercalate (rows.map (drawRow widths))
  let lines := [Rule.top.draw widths] ++ drawRow widths header ++
    [Rule.underHeader.draw widths] ++ body ++ [Rule.bottom.draw widths]
  String.ofList (['\n'].intercalate lines)

end ReadoutControl.Text
