import ClientForge.Document.Basic
import ClientForge.Json.Value
import ClientForge.Number.Binary64
import ClientForge.Report.Markup
import ClientForge.Report.Terminal

namespace ClientForge

inductive TableForm
  | json
  | plain
  | boxed
deriving DecidableEq, Repr

structure Table where
  headers : List String
  rows : List (List String)
  title : Option String
deriving DecidableEq, Repr

namespace Table

def plain (t : Table) : String := "\n".intercalate ((t.headers :: t.rows).map ("\t".intercalate ·))

def recordEntries (headers row : List String) : Entries :=
  Entries.ofList ((headers.zip row).map fun (h, cell) => (.text h, .text cell))

def jsonEntry : Scalar × Document → String
  | (.text k, .text v) => "    " ++ Json.quoted k ++ ": " ++ Json.quoted v
  | _ => ""

def jsonRecord (entries : Entries) : String :=
  if entries.isEmpty then "  \x7b\x7d"
  else "  \x7b\n" ++ ",\n".intercalate (entries.map jsonEntry) ++ "\n  \x7d"

def json (t : Table) : String :=
  if t.rows.isEmpty then "[]"
  else "[\n" ++ ",\n".intercalate (t.rows.map fun row => jsonRecord (recordEntries t.headers row)) ++ "\n]"

def columns (t : Table) : Nat := ((t.headers :: t.rows).map List.length).foldl max 0

def cell (row : List String) (k : Nat) : String := row.getD k ""

end Table

namespace Box

def needed (s : List Char) : Nat := ((Text.lines s).map Text.cells).foldl max 0

def cellWidth (room : Nat) (cell : StyledText) : Nat := if room ≤ 2 then room else min room (needed cell.chars + 2)

def columnWidth (room : Nat) (cells : List StyledText) : Nat := (cells.map (cellWidth room)).foldl max 0

def reduced (excess most : Nat) : List (Nat × Bool) → List Nat
  | [] => []
  | (width, chosen) :: rest =>
    if chosen then
      let part := min most (Binary64.divRound excess (((width, chosen) :: rest).filter (·.2)).length)
      (width - part) :: reduced (excess - part) most rest
    else width :: reduced excess most rest

def collapsed (room : Nat) : Nat → List Nat → List Nat
  | 0, widths => widths
  | fuel + 1, widths =>
    let excess := widths.foldr (· + ·) 0 - room
    if excess = 0 then widths
    else
      let widest := widths.foldl max 0
      let next := (widths.filter (· ≠ widest)).foldl max 0
      collapsed room fuel (reduced excess (min excess (widest - next)) (widths.map fun w => (w, w = widest)))

def widths (room : Nat) (columns : List (List StyledText)) : List Nat :=
  let wanted := columns.map fun cells => max 1 (columnWidth room cells)
  let all := wanted.foldr (· + ·) 0
  if all ≤ room then wanted
  else (collapsed room all wanted).zip columns |>.map fun (width, cells) => columnWidth width cells

def border (left crossing right fill : Char) (widths : List Nat) : StyledLine :=
  [⟨left :: [crossing].intercalate (widths.map fun w => List.replicate w fill) ++ [right], {}⟩]

def cellLines (width : Nat) (style : Style) (cell : StyledText) : List StyledLine :=
  if width ≤ 2 then []
  else
    (cell.wrapped (width - 2) .left .ellipsis).map fun line =>
      let inner := StyledLine.fitted (width - 2) {} line.segments
      StyledLine.fitted width style (StyledLine.styled style (⟨[' '], {}⟩ :: inner ++ [⟨[' '], {}⟩]))

def shaped (width height : Nat) (style : Style) (above : Bool) (lines : List StyledLine) : List StyledLine :=
  let missing := List.replicate (height - lines.length) [⟨StyledText.blanks width, style⟩]
  if above then missing ++ lines else lines ++ missing

def rowLines (side : Char) (style : Style) (isHeader : Bool) (widths : List Nat) (cells : List StyledText) :
    List StyledLine :=
  let cells := (widths.zip cells).map fun (width, cell) => (width, cellLines width style cell)
  let height := (cells.map (·.2.length)).foldl max 0
  let cells :=
    if height = 0 then cells.map fun (width, _) => [[⟨StyledText.blanks width, {}⟩]]
    else cells.map fun (width, lines) => shaped width height style isHeader lines
  let edge : StyledLine := [⟨[side], {}⟩]
  (List.range (max 1 height)).map fun k =>
    edge ++ edge.intercalate (cells.map fun lines => lines.getD k []) ++ edge

def headerStyle : Style := { on := [.bold], colour := some ⟨"cyan", .numbered 6⟩ }

def titleStyle : Style := { on := [.italic] }

def titleLines (width : Nat) (title : String) : Except Malformed (List StyledLine) := do
  let t ← Markup.shown title.toList (some titleStyle)
  return (t.wrapped width .centred .fold).map (·.segments)

def inside (room columns : Nat) : Nat := room - (columns + 1)

def lines (t : Table) (room : Nat) : Except Malformed (List StyledLine) := do
  let rows ← (t.headers :: t.rows).mapM fun row =>
    (List.range t.columns).mapM fun k => Markup.shown (Table.cell row k).toList none
  let columns := (List.range t.columns).map fun k => rows.map fun row => row.getD k ⟨[], none, []⟩
  let widths := widths (inside room t.columns) columns
  let title ← match t.title with
    | some title => if title = "" then pure [] else titleLines (widths.foldr (· + ·) t.columns + 1) title
    | none => pure []
  let body := rows.tail.flatMap (rowLines '│' {} false widths)
  return title ++ [border '┏' '┳' '┓' '━' widths]
    ++ rowLines '┃' headerStyle true widths (rows.headD [])
    ++ [border '┡' '╇' '┩' '━' widths] ++ body ++ [border '└' '┴' '┘' '─' widths]

def text (t : Table) (terminal : Terminal) : Except Malformed String := do
  if terminal.columns = 0 then return ""
  if t.columns = 0 then return "\n"
  return terminal.print (← lines t terminal.columns)

end Box

end ClientForge
