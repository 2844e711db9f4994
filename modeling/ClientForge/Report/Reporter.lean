import ClientForge.Report.Table

namespace ClientForge

/-- `interactive` holds if the results go to a terminal. Reports in colours are sent to `reports`, and tables in boxes
to `results`. -/
structure Reporter where
  form : TableForm
  colours : Bool
  quiet : Bool
  verbose : Bool
  interactive : Bool
  reports : Terminal
  results : Terminal
deriving DecidableEq, Repr

namespace Reporter

def coloursAllowed (e : Environment) : Bool := (e.get? "NO_COLOR").isNone && e.get? "TERM" ≠ some "dumb"

def ofWorld (w : World) (form : Option TableForm) (noColours quiet verbose : Bool) : Reporter :=
  let colours := !noColours && coloursAllowed w.environment
  { form := form.getD (if w.interactive && colours then .boxed else .plain)
    colours, quiet, verbose, interactive := w.interactive
    reports := .ofEnvironment w.environment (Terminal.isAskedFor w.environment) colours
    results := .ofEnvironment w.environment true colours }

def sent (r : Reporter) (style : Style) (t : StyledText) : String :=
  r.reports.print ((t.wrapped r.reports.columns .ragged .fold).map fun line => StyledLine.styled style line.segments)

def message (r : Reporter) (style : Style) (s : String) : String :=
  if r.colours then r.sent style (.ofChars (Emoji.shown s.toList) none) else s ++ "\n"

def progress (r : Reporter) (s : String) : String :=
  if !r.quiet && (r.interactive || r.verbose) then r.message { on := [.dim] } s else ""

def success (r : Reporter) (s : String) : String :=
  if r.quiet then "" else r.message { colour := some ⟨"green", .numbered 2⟩ } s

def detail (r : Reporter) (s : String) : String := if r.verbose then r.message { on := [.dim] } s!"[debug] {s}" else ""

def error (r : Reporter) (s : String) : Except Malformed String :=
  if r.colours then do
    return r.sent {} (← Markup.shown s!"[bold red]Error:[/bold red] {s}".toList none)
  else .ok s!"Error: {s}\n"

def table (r : Reporter) (t : Table) : Except Malformed String :=
  match r.form with
  | .json => .ok (t.json ++ "\n")
  | .plain => .ok (t.plain ++ "\n")
  | .boxed => Box.text t r.results

end Reporter

end ClientForge
