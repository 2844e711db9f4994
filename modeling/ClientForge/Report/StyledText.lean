import ClientForge.Report.Style
import ClientForge.Text.CellWidth

/-!
Text of which parts have a style, and how it is laid out in lines of a given width.
-/

namespace ClientForge

structure Span where
  start : Nat
  stop : Nat
  style : Style
deriving DecidableEq, Repr

/-- A text with a style for all of it, and styles for parts of it. Of two spans over one part the later one counts. -/
structure StyledText where
  chars : List Char
  style : Option Style := none
  spans : List Span := []
deriving DecidableEq, Repr

structure Segment where
  chars : List Char
  style : Style := {}
deriving DecidableEq, Repr

inductive Justification
  | ragged
  | left
  | centred
deriving DecidableEq, Repr

inductive Overflow
  | fold
  | ellipsis
deriving DecidableEq, Repr

namespace StyledText

def isDropped (c : Char) : Bool := ['\x07', '\x08', '\x0b', '\x0c', '\x0d'].contains c

def clean (s : List Char) : List Char := s.filter fun c => !isDropped c

def ofChars (s : List Char) (style : Option Style) : StyledText := ⟨clean s, style, []⟩

def length (t : StyledText) : Nat := t.chars.length

def blanks (n : Nat) : List Char := List.replicate n ' '

def Span.within? (start stop : Nat) (s : Span) : Option Span :=
  let first := max s.start start
  let last := min s.stop stop
  if first < last then some ⟨first - start, last - start, s.style⟩ else none

def slice (t : StyledText) (start stop : Nat) : StyledText :=
  ⟨(t.chars.take stop).drop start, t.style, t.spans.filterMap (Span.within? start stop)⟩

def piecesFrom (t : StyledText) (start : Nat) : List Nat → List StyledText
  | [] => [t.slice start t.length]
  | cut :: rest => t.slice start cut :: t.piecesFrom cut rest

def divided (t : StyledText) (cuts : List Nat) : List StyledText := if cuts.isEmpty then [t] else t.piecesFrom 0 cuts

def placesBehind (c : Char) (s : List Char) : List Nat :=
  (s.zipIdx.filter (·.1 = c)).map (·.2 + 1)

def kept (t : StyledText) (n : Nat) : StyledText :=
  { t with
    chars := t.chars.take n
    spans := (t.spans.filter (·.start < n)).map fun s => { s with stop := min s.stop n } }

def lines (t : StyledText) : List StyledText :=
  (t.divided (placesBehind '\n' t.chars)).map fun line =>
    if line.chars.getLast? = some '\n' then line.kept (line.length - 1) else line

def widened (n : Nat) (t : StyledText) : StyledText :=
  { t with
    chars := t.chars ++ blanks n
    spans := t.spans.map fun s => if t.length ≤ s.stop then { s with stop := s.stop + n } else s }

def joined (style : Option Style) (pieces : List StyledText) : StyledText :=
  let add (t piece : StyledText) : StyledText :=
    let shift (s : Span) : Span := ⟨s.start + t.length, s.stop + t.length, s.style⟩
    let whole := (piece.style.map fun style => Span.mk 0 piece.length style).toList
    { t with chars := t.chars ++ piece.chars, spans := t.spans ++ (whole ++ piece.spans).map shift }
  pieces.foldl add ⟨[], style, []⟩

def tabStop : Nat := 8

def filledTabs (column : Nat) : List StyledText → List StyledText
  | [] => []
  | piece :: rest =>
    if piece.chars.getLast? = some '\t' then
      let piece := { piece with chars := piece.chars.dropLast ++ [' '] }
      let column := column + Text.cells piece.chars
      let fill := (tabStop - column % tabStop) % tabStop
      widened fill piece :: filledTabs (column + fill) rest
    else piece :: filledTabs (column + Text.cells piece.chars) rest

def withoutTabs (t : StyledText) : StyledText :=
  if t.chars.contains '\t' then
    let pieces := t.divided (placesBehind '\t' t.chars)
    let pieces := if t.chars.getLast? = some '\t' then pieces.dropLast else pieces
    joined t.style (filledTabs 0 pieces)
  else t

def chunks : List Char → List (List Char)
  | [] => []
  | [c] => [[c]]
  | c :: d :: rest =>
    match chunks (d :: rest) with
    | [] => [[c]]
    | w :: ws => if Text.isBlank c && !Text.isBlank d then [c] :: w :: ws else (c :: w) :: ws

def words (s : List Char) : List (List Char) :=
  match chunks (s.dropWhile Text.isBlank) with
  | [] => []
  | w :: ws => (s.takeWhile Text.isBlank ++ w) :: ws

structure Breaking where
  place : Nat
  used : Nat
  cuts : List Nat

def Breaking.fold (b : Breaking) (start : Nat) : List (List Char) → Breaking
  | [] => b
  | part :: rest =>
    let cuts := if start = 0 then b.cuts else b.cuts ++ [start]
    fold { b with cuts, used := Text.cells part } (start + part.length) rest

def Breaking.add (room : Nat) (overflow : Overflow) (b : Breaking) (word : List Char) : Breaking :=
  let needed := Text.cells (Text.stripEnd word)
  let next := b.place + word.length
  let cuts := if b.place = 0 then b.cuts else b.cuts ++ [b.place]
  if b.used + needed ≤ room then { b with place := next, used := b.used + Text.cells word }
  else if room < needed then
    match overflow with
    | .fold => { b.fold b.place (Text.chopped room word) with place := next }
    | .ellipsis => ⟨next, Text.cells word, cuts⟩
  else if b.used = 0 || b.place = 0 then { b with place := next }
  else ⟨next, Text.cells word, cuts⟩

def breaks (room : Nat) (overflow : Overflow) (s : List Char) : List Nat :=
  ((words s).foldl (Breaking.add room overflow) ⟨0, 0, []⟩).cuts

def trimmed (room : Nat) (t : StyledText) : StyledText :=
  let blank := t.length - (Text.stripEnd t.chars).length
  t.kept (t.length - min blank (t.length - room))

def truncated (room : Nat) (overflow : Overflow) (t : StyledText) : StyledText :=
  if Text.cells t.chars ≤ room then t
  else
    let chars := match overflow with
      | .fold => Text.fitted room t.chars
      | .ellipsis => Text.fitted (room - 1) t.chars ++ ['…']
    { ({ t with chars } : StyledText).kept chars.length with chars }

def filledRight (room : Nat) (t : StyledText) : StyledText :=
  { t with chars := t.chars ++ blanks (room - Text.cells t.chars) }

def filledLeft (n : Nat) (t : StyledText) : StyledText :=
  { t with
    chars := blanks n ++ t.chars
    spans := t.spans.map fun s => { s with start := s.start + n, stop := s.stop + n } }

def justified (room : Nat) (how : Justification) (overflow : Overflow) (t : StyledText) : StyledText :=
  match how with
  | .ragged => t.truncated room overflow
  | .left => (t.truncated room overflow).filledRight room
  | .centred =>
    let t := (t.kept (Text.stripEnd t.chars).length).truncated room overflow
    (t.filledLeft ((room - Text.cells t.chars) / 2)).filledRight room

def wrapped (room : Nat) (how : Justification) (overflow : Overflow) (t : StyledText) : List StyledText :=
  t.lines.flatMap fun line =>
    let line := line.withoutTabs
    (line.divided (breaks room overflow line.chars)).map fun part => (part.trimmed room).justified room how overflow

def seams (length : Nat) (spans : List Span) : List Nat :=
  ((0 :: length :: spans.flatMap fun s => [s.start, s.stop]).mergeSort).eraseDups

def styleAt (spans : List Span) (place : Nat) : Style :=
  (spans.filter fun s => s.start ≤ place && place < s.stop).foldl (fun style s => s.style.laidOver style) {}

def segments (t : StyledText) : List Segment :=
  let spans := (t.style.map fun style => Span.mk 0 t.length style).toList ++ t.spans
  if spans.isEmpty then [⟨t.chars, {}⟩]
  else
    let seams := seams t.length spans
    (seams.zip seams.tail).map fun (start, stop) => ⟨(t.chars.take stop).drop start, styleAt spans start⟩

end StyledText

end ClientForge
