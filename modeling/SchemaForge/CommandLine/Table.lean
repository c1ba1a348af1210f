import SchemaForge.Text.Search
import SchemaForge.Text.Width

/-! Tables in plain text, each column as wide as its widest line, with a rule below the first row. -/

namespace SchemaForge.CommandLine.Table

abbrev Row := List (List String)

def row (cells : List String) : Row := cells.map fun cell => Text.piecesAt '\n' cell

def cellWidth (lines : List String) : Nat := (lines.map Text.columns).foldl max 0

def widen : List Nat → List Nat → List Nat
  | a :: as, b :: bs => max a b :: widen as bs
  | [], bs => bs
  | as, [] => as

def widths (rows : List Row) : List Nat := rows.foldl (fun ws r => widen ws (r.map cellWidth)) []

def spaces (n : Nat) : String := String.ofList (List.replicate n ' ')

def padded (width : Nat) (text : String) : String := text ++ spaces (width - Text.columns text)

def rowLine (ws : List Nat) (r : Row) (i : Nat) : String :=
  String.join ((r.zip ws).map fun (cell, width) => "| " ++ padded width (cell[i]?.getD "") ++ " ") ++
    "|"

def height (r : Row) : Nat := (r.map List.length).foldl max 0

def rowLines (ws : List Nat) (r : Row) : List String :=
  (List.range (height r)).map (rowLine ws r)

def rule (ws : List Nat) : String :=
  String.join (ws.map fun width => "|" ++ String.ofList (List.replicate (width + 2) '-')) ++ "|"

def lines (heading : List String) (body : List (List String)) : List String :=
  let heading := row heading
  let body := body.map row
  let ws := widths (heading :: body)
  rowLines ws heading ++ rule ws :: body.flatMap (rowLines ws)

def text (heading : List String) (body : List (List String)) : String :=
  String.intercalate "\n" (lines heading body)

end SchemaForge.CommandLine.Table
