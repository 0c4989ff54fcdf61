/-!
# Tables

Tables drawn with ASCII characters. Every column is as wide as its widest line, with one blank on
each side; a cell may have several lines. A double rule stands under the header and a rule with
column marks between rows.
-/

namespace CriticalDamage.Table

/-- The lines of a text. -/
def cellLines (s : String) : List String :=
  (s.toList.splitOn '\n').map String.ofList

/-- The width of the widest line of a cell. -/
def cellWidth (s : String) : Nat := ((cellLines s).map String.length).foldl max 0

/-- The width of each column. -/
def widths (rows : List (List String)) : List Nat :=
  rows.foldl (fun ws row => (ws.zip row).map fun p => max p.1 (cellWidth p.2))
    (match rows with
      | row :: _ => row.map fun _ => 0
      | [] => [])

/-- A text with blanks up to the given width. -/
def padded (width : Nat) (s : String) : String :=
  s ++ String.ofList (List.replicate (width - s.length) ' ')

/-- The lines of a row. -/
def rowLines (ws : List Nat) (row : List String) : List String :=
  let cells := row.map cellLines
  let height := (cells.map List.length).foldl max 0
  (List.range height).map fun i =>
    "|" ++ "|".intercalate ((ws.zip cells).map fun p =>
      " " ++ padded p.1 ((p.2[i]?).getD "") ++ " ") ++ "|"

/-- A rule across the table: its ends, its line and the marks between columns. -/
def rule (ends line mark : Char) (ws : List Nat) : String :=
  String.singleton ends ++
    (String.singleton mark).intercalate (ws.map fun w =>
      String.ofList (List.replicate (w + 2) line)) ++
    String.singleton ends

/-- The lines of a table. -/
def lines (header : List String) (rows : List (List String)) : List String :=
  let ws := widths (header :: rows)
  let body := (rows.map (rowLines ws)).intersperse [rule '|' '-' '+' ws]
  [rule '+' '-' '+' ws] ++ rowLines ws header ++ [rule '+' '=' '=' ws] ++ body.flatten ++
    [rule '+' '-' '+' ws]

end CriticalDamage.Table
