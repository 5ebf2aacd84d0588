/-!
# Columns

A cell that is shorter than its column is filled with spaces; a longer one keeps all its
characters and pushes the rest of the line to the right.
-/

namespace PageScan.Text

/-- Fills a cell on the right. -/
def padRight (width : Nat) (cell : String) : String :=
  cell ++ String.ofList (List.replicate (width - cell.length) ' ')

/-- Fills a cell on the left. -/
def padLeft (width : Nat) (cell : String) : String :=
  String.ofList (List.replicate (width - cell.length) ' ') ++ cell

end PageScan.Text
