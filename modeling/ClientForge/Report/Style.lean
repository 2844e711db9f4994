import ClientForge.Report.Colour
import ClientForge.Text.Pieces

namespace ClientForge

inductive Look
  | bold
  | dim
  | italic
  | underline
  | blink
  | quickBlink
  | reverse
  | conceal
  | strike
  | doubleUnderline
  | frame
  | encircle
  | overline
deriving DecidableEq, Repr

namespace Look

def all : List Look := [.bold, .dim, .italic, .underline, .blink, .quickBlink, .reverse, .conceal, .strike,
  .doubleUnderline, .frame, .encircle, .overline]

def name : Look → String
  | .bold => "bold"
  | .dim => "dim"
  | .italic => "italic"
  | .underline => "underline"
  | .blink => "blink"
  | .quickBlink => "blink2"
  | .reverse => "reverse"
  | .conceal => "conceal"
  | .strike => "strike"
  | .doubleUnderline => "underline2"
  | .frame => "frame"
  | .encircle => "encircle"
  | .overline => "overline"

def shortName? : Look → Option String
  | .bold => some "b"
  | .dim => some "d"
  | .italic => some "i"
  | .underline => some "u"
  | .reverse => some "r"
  | .conceal => some "c"
  | .strike => some "s"
  | .doubleUnderline => some "uu"
  | .overline => some "o"
  | _ => none

def named? (word : String) : Option Look := all.find? fun l => l.name = word || l.shortName? = some word

def code : Look → Nat
  | .bold => 1
  | .dim => 2
  | .italic => 3
  | .underline => 4
  | .blink => 5
  | .quickBlink => 6
  | .reverse => 7
  | .conceal => 8
  | .strike => 9
  | .doubleUnderline => 21
  | .frame => 51
  | .encircle => 52
  | .overline => 53

end Look

structure Style where
  on : List Look := []
  off : List Look := []
  colour : Option Colour := none
  ground : Option Colour := none
  link : Option String := none
deriving DecidableEq, Repr

namespace Style

def switched (s : Style) (l : Look) (isOn : Bool) : Style :=
  { s with
    on := if isOn then l :: s.on.erase l else s.on.erase l
    off := if isOn then s.off.erase l else l :: s.off.erase l }

def laidOver (upper lower : Style) : Style where
  on := upper.on ++ lower.on.filter fun l => l ∉ upper.on && l ∉ upper.off
  off := upper.off ++ lower.off.filter fun l => l ∉ upper.on && l ∉ upper.off
  colour := upper.colour.or lower.colour
  ground := upper.ground.or lower.ground
  link := upper.link.or lower.link

def withWord (s : Style) (word : String) : Except Malformed (Option Style) :=
  match Look.named? word with
  | some l => .ok (some (s.switched l true))
  | none => do return (← Colour.named word).map fun c => { s with colour := some c }

def withPair (s : Style) (first second : String) : Except Malformed (Option Style) :=
  match first with
  | "on" => do return (← Colour.named second).map fun c => { s with ground := some c }
  | "not" => .ok ((Look.named? second).map fun l => s.switched l false)
  | _ => .ok (some { s with link := some second })

def further (s : Style) : List String → Except Malformed (Option Style)
  | [] => .ok (some s)
  | word :: rest =>
    if word.toLower ∈ ["on", "not", "link"] then
      match rest with
      | [] => .ok none
      | next :: rest => do
        match ← s.withPair word.toLower next with
        | some s => further s rest
        | none => return none
    else do
      match ← s.withWord word.toLower with
      | some s => further s rest
      | none => return none

def wordsOf (s : List Char) : List String :=
  (Text.pieces ' ' (s.map fun c => if Text.isBlank c then ' ' else c)).filterMap fun w =>
    if w.isEmpty then none else some (.ofList w)

def described (s : List Char) : Except Malformed (Option Style) :=
  if Text.strip s = "none".toList then .ok (some {}) else further {} (wordsOf s)

def words (s : Style) : List String :=
  (Look.all.filterMap fun l =>
      if l ∈ s.on then some l.name else if l ∈ s.off then some ("not " ++ l.name) else none)
    ++ (s.colour.map (·.name)).toList
    ++ (match s.ground with | some c => ["on", c.name] | none => [])
    ++ (match s.link with | some "" => [] | some address => ["link", address] | none => [])

def description (s : Style) : String := if s.words.isEmpty then "none" else " ".intercalate s.words

def normalForm (s : List Char) : Except Malformed (List Char) := do
  match ← described s with
  | some style => return style.description.toList
  | none => return (Text.strip s).map Char.toLower

def codes (range : ColourRange) (s : Style) : List Nat :=
  (Look.all.filter (· ∈ s.on)).map Look.code
    ++ ((s.colour.map fun c => (c.paint.within range).codes false).getD [])
    ++ ((s.ground.map fun c => (c.paint.within range).codes true).getD [])

def withoutColours (s : Style) : Style := { s with colour := none, ground := none }

end Style

end ClientForge

namespace ClientForge.Theme

def entries : List (String × List String) := [
  ("not b not d not i not u not blink not blink2 not r not c not s default on default", ["reset"]),
  ("not dim", ["bright"]),
  ("bold", ["strong", "repr.brace", "repr.comma", "repr.tag_start", "repr.tag_end", "repr.attrib_equal",
    "json.brace", "table.header", "table.footer"]),
  ("bold reverse", ["code"]),
  ("italic", ["emphasize", "table.title"]),
  ("italic yellow", ["inspect.attr", "scope.key"]),
  ("dim italic yellow", ["inspect.attr.dunder", "scope.key.special"]),
  ("bold red", ["inspect.callable", "inspect.error", "live.ellipsis", "logging.level.error", "repr.error",
    "traceback.title"]),
  ("italic bright_cyan", ["inspect.async_def", "inspect.def", "inspect.class"]),
  ("cyan", ["inspect.help", "progress.remaining"]),
  ("dim", ["inspect.doc", "logging.level.notset", "log.path"]),
  ("green", ["inspect.value.border", "logging.level.debug", "progress.filesize", "progress.filesize.total",
    "progress.download", "progress.spinner", "status.spinner"]),
  ("not dim red", ["layout.tree.row"]),
  ("not dim blue", ["layout.tree.column"]),
  ("bold yellow", ["logging.keyword"]),
  ("blue", ["logging.level.info", "scope.border", "iso8601.date"]),
  ("yellow", ["logging.level.warning", "repr.ellipsis", "progress.elapsed", "iso8601.timezone"]),
  ("bold reverse red", ["logging.level.critical"]),
  ("dim cyan", ["log.time"]),
  ("dim green", ["repr.indent"]),
  ("not bold not italic green", ["repr.str", "json.str"]),
  ("bold bright_green", ["repr.ipv4", "repr.ipv6", "repr.eui48", "repr.eui64"]),
  ("bold bright_magenta", ["repr.tag_name"]),
  ("default", ["repr.tag_contents"]),
  ("not italic yellow", ["repr.attrib_name"]),
  ("not italic magenta", ["repr.attrib_value"]),
  ("bold not italic cyan", ["repr.number", "repr.number_complex", "json.number"]),
  ("italic bright_green", ["repr.bool_true", "json.bool_true"]),
  ("italic bright_red", ["repr.bool_false", "json.bool_false"]),
  ("italic magenta", ["repr.none", "json.null"]),
  ("not bold not italic underline bright_blue", ["repr.url"]),
  ("not bold bright_yellow", ["repr.uuid"]),
  ("bold magenta", ["repr.call", "prompt.choices"]),
  ("magenta", ["repr.path", "progress.percentage", "iso8601.time"]),
  ("bright_magenta", ["repr.filename"]),
  ("bright_green", ["rule.line"]),
  ("bold blue", ["json.key"]),
  ("bold cyan", ["prompt.default"]),
  ("red", ["prompt.invalid", "prompt.invalid.choice", "scope.equals", "traceback.border", "progress.data.speed"]),
  ("dim italic", ["table.caption"]),
  ("italic red", ["traceback.error"]),
  ("bright_red", ["traceback.border.syntax_error"]),
  ("bold bright_red", ["traceback.exc_type", "traceback.offset"]),
  ("grey23", ["bar.back"]),
  ("rgb(249,38,114)", ["bar.complete", "bar.pulse"]),
  ("rgb(114,156,31)", ["bar.finished"])]

def descriptionOf? (name : String) : Option String := (entries.find? (·.2.contains name)).map (·.1)

def style (s : List Char) : Except Malformed Style := do
  return (← Style.described ((descriptionOf? (.ofList s)).map String.toList |>.getD s)).getD {}

end ClientForge.Theme
