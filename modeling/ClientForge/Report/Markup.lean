import ClientForge.Report.Emoji
import ClientForge.Report.Literal
import ClientForge.Report.Style
import ClientForge.Report.StyledText

/-!
Text with tags in brackets that tell the style of what stands between them.
-/

namespace ClientForge.Markup

structure Tag where
  name : List Char
  value : Option (List Char)
deriving DecidableEq, Repr

inductive Piece
  | text (s : List Char)
  | tag (t : Tag)
deriving DecidableEq, Repr

def startsTag (c : Char) : Bool := ('a' ≤ c && c ≤ 'z') || c = '#' || c = '/' || c = '@'

def tag? (s : List Char) : Option (List Char × List Char) :=
  match s with
  | c :: rest =>
    let inside := rest.takeWhile fun d => d ≠ '[' && d ≠ ']'
    match startsTag c, rest.drop inside.length with
    | true, ']' :: after => some (c :: inside, after)
    | _, _ => none
  | [] => none

def ofInside (s : List Char) : Tag :=
  let name := s.takeWhile (· ≠ '=')
  match s.drop name.length with
  | _ :: value => ⟨name, some value⟩
  | [] => ⟨name, none⟩

/-- Cuts a text into tags and what stands between them. Half of the backslashes before a tag stay, and an odd one
makes it mere text. `before` is the text since the last tag, backwards, and `fuel` bounds the number of steps. -/
def pieces : Nat → List Char → List Char → List Piece
  | 0, before, s => [.text (before.reverse ++ s)]
  | _, before, [] => [.text before.reverse]
  | fuel + 1, before, c :: rest =>
    let slashes := (c :: rest).takeWhile (· = '\\')
    match (c :: rest).drop slashes.length with
    | '[' :: inner =>
      match tag? inner with
      | some (inside, after) =>
        let head := [.text before.reverse, .text (slashes.take (slashes.length / 2))]
        if slashes.length % 2 = 1 then head ++ .text ('[' :: inside ++ [']']) :: pieces fuel [] after
        else head ++ .tag (ofInside inside) :: pieces fuel [] after
      | none => pieces fuel ('[' :: slashes ++ before) inner
    | after => if slashes.isEmpty then pieces fuel (c :: before) rest else pieces fuel (slashes ++ before) after

def unescaped : List Char → List Char
  | '\\' :: '[' :: rest => '[' :: unescaped rest
  | c :: rest => c :: unescaped rest
  | [] => []

structure Opened where
  start : Nat
  tag : Tag
deriving DecidableEq, Repr

def isActionChar (c : Char) : Bool := c.isAlphanum || c = '_' || c = '.' || '\u00aa' ≤ c

def arguments (s : List Char) : List Char :=
  let name := s.takeWhile isActionChar
  match s.drop name.length with
  | [] => ['(', ')']
  | '(' :: rest => if rest.getLast? = some ')' && !rest.contains '\n' then '(' :: rest else s
  | _ => s

def styleOf (t : Tag) : Except Malformed Style :=
  match t.name, t.value with
  | '@' :: _, some value =>
    if value.isEmpty || Literal.isLiteral (arguments (Text.strip value)) then .ok {} else .error .unreadableAction
  | '@' :: _, none => .ok {}
  | name, some value => Theme.style (name ++ ' ' :: value)
  | name, none => Theme.style name

def close? (name : List Char) : List Opened → Option (Opened × List Opened)
  | [] => none
  | o :: rest =>
    if o.tag.name = name then some (o, rest) else (close? name rest).map fun (found, others) => (found, o :: others)

structure Progress where
  chars : List Char := []
  opened : List Opened := []
  spans : List Span := []

def Progress.end (p : Progress) (o : Opened) (others : List Opened) : Except Malformed Progress := do
  return { p with opened := others, spans := ⟨o.start, p.chars.length, ← styleOf o.tag⟩ :: p.spans }

def Progress.add (p : Progress) : Piece → Except Malformed Progress
  | .text s => .ok { p with chars := p.chars ++ StyledText.clean (Emoji.shown (unescaped s)) }
  | .tag t =>
    match t.name with
    | '/' :: name => do
      let name := Text.strip name
      if name.isEmpty then
        match p.opened with
        | [] => throw .unopenedTag
        | o :: others => p.end o others
      else
        match close? (← Style.normalForm name) p.opened with
        | some (o, others) => p.end o others
        | none => throw .unopenedTag
    | name => do
      let name ← Style.normalForm name
      return { p with opened := ⟨p.chars.length, { t with name }⟩ :: p.opened }

def Progress.finish (p : Progress) : Except Malformed Progress :=
  p.opened.foldlM (fun p o =>
    match o.tag.name with
    | '@' :: _ => .ok { p with spans := ⟨o.start, p.chars.length, {}⟩ :: p.spans }
    | _ => p.end o []) p

def shown (s : List Char) (style : Option Style) : Except Malformed StyledText := do
  if s.contains '[' then
    let p ← (pieces (s.length + 1) [] s).foldlM Progress.add {}
    let p ← p.finish
    return ⟨p.chars, style, p.spans.mergeSort fun a b => a.start ≤ b.start⟩
  else return .ofChars (Emoji.shown s) style

end ClientForge.Markup
