import ClientForge.Report.StyledText
import ClientForge.Text.Numeral
import ClientForge.World

namespace ClientForge

/-- Without a range of colours no style is shown at all. A terminal that is `plain` shows styles but no colours. -/
structure Terminal where
  columns : Nat
  range : Option ColourRange
  plain : Bool
deriving DecidableEq, Repr

namespace Terminal

def count? (e : Environment) (name : String) : Option Nat := do
  let value ← e.get? name
  if value.toList.all fun c => (Text.decimalValue? c).isSome then Text.digits? 10 value.toList else none

def isSimple (e : Environment) : Bool := ((e.get? "TERM").getD "").toLower ∈ ["dumb", "unknown"]

def isAskedFor (e : Environment) : Bool :=
  match (e.get? "TTY_COMPATIBLE").getD "" with
  | "0" => false
  | "1" => true
  | _ => (e.given? "FORCE_COLOR").isSome

def defaultColumns : Nat := 80

def rangeOf (e : Environment) : ColourRange :=
  let depth := ((e.get? "COLORTERM").getD "").stripped.toLower
  let kind := ((e.get? "TERM").getD "").stripped.toLower
  if depth = "truecolor" || depth = "24bit" then .all
  else if (kind.pieces '-').getLast? ∈ [some "256color", some "kitty"] then .many
  else .few

def ofEnvironment (e : Environment) (isTerminal colours : Bool) : Terminal where
  columns :=
    if isTerminal && isSimple e && (count? e "LINES").isNone then defaultColumns
    else (count? e "COLUMNS").getD defaultColumns
  range := if isTerminal && !isSimple e then some (rangeOf e) else none
  plain := !colours

def sent (t : Terminal) (s : Segment) : List Char :=
  let style := if t.plain then s.style.withoutColours else s.style
  let codes := (t.range.map style.codes).getD []
  if s.chars.isEmpty || codes.isEmpty then s.chars
  else "\x1b[".toList ++ (";".intercalate (codes.map toString)).toList ++ 'm' :: s.chars ++ "\x1b[0m".toList

end Terminal

abbrev StyledLine := List Segment

namespace StyledLine

def cells (line : StyledLine) : Nat := line.foldr (fun s n => Text.cells s.chars + n) 0

def cropped (room : Nat) : StyledLine → StyledLine
  | [] => []
  | s :: rest =>
    let taken := Text.cells s.chars
    if taken < room then s :: cropped (room - taken) rest else [{ s with chars := Text.fitted room s.chars }]

def fitted (room : Nat) (style : Style) (line : StyledLine) : StyledLine :=
  if cells line < room then line ++ [⟨StyledText.blanks (room - cells line), style⟩]
  else if room < cells line then cropped room line
  else line

def styled (style : Style) (line : StyledLine) : StyledLine :=
  line.map fun s => { s with style := s.style.laidOver style }

end StyledLine

def Terminal.print (t : Terminal) (lines : List StyledLine) : String :=
  if t.columns = 0 then ""
  else
    .ofList (lines.flatMap fun line =>
      (if t.columns < line.cells then line.cropped t.columns else line).flatMap t.sent ++ ['\n'])

end ClientForge
