import ClientForge.Options.Basic
import ClientForge.Options.Coercion

namespace ClientForge

inductive Flag
  | dryRun
  | json
  | plain
  | noColours
  | quiet
  | verbose
  | version
  | help
deriving DecidableEq, Repr

inductive Switch
  | takes (setting : Setting)
  | flag (f : Flag)
deriving DecidableEq, Repr

inductive LineFault
  | unknownSwitch (name : String)
  | missingValue (setting : Setting)
  | valueOfFlag (name : String)
  | notInteger (text : String)
  | unexpected (argument : String)
deriving DecidableEq, Repr

structure Line where
  flags : List Flag
  values : List (Setting × String)
  others : List String
deriving DecidableEq, Repr

namespace Line

def empty : Line := ⟨[], [], []⟩

def long? (name : String) : Option Switch :=
  match name with
  | "input" => some (.takes .input)
  | "output" => some (.takes .output)
  | "import-style" => some (.takes .importStyle)
  | "package-name" => some (.takes .packageName)
  | "jobs" => some (.takes .jobs)
  | "dry-run" => some (.flag .dryRun)
  | "json" => some (.flag .json)
  | "plain" => some (.flag .plain)
  | "no-color" => some (.flag .noColours)
  | "quiet" => some (.flag .quiet)
  | "verbose" => some (.flag .verbose)
  | "version" => some (.flag .version)
  | "help" => some (.flag .help)
  | _ => none

def short? (c : Char) : Option Switch :=
  match c with
  | 'i' => some (.takes .input)
  | 'o' => some (.takes .output)
  | 's' => some (.takes .importStyle)
  | 'j' => some (.takes .jobs)
  | 'n' => some (.flag .dryRun)
  | 'q' => some (.flag .quiet)
  | 'v' => some (.flag .verbose)
  | _ => none

def group : List Char → Except LineFault (List Flag × Option (Setting × List Char))
  | [] => .ok ([], none)
  | c :: rest =>
    match short? c with
    | none => .error (.unknownSwitch s!"-{c}")
    | some (.takes s) => .ok ([], some (s, rest))
    | some (.flag f) => (group rest).map fun (flags, last) => (f :: flags, last)

inductive Word
  | other
  | rest
  | flags (flags : List Flag)
  | value (flags : List Flag) (setting : Setting) (value : String)
  | awaiting (flags : List Flag) (setting : Setting)
deriving DecidableEq, Repr

def longWord (name : List Char) : Except LineFault Word :=
  let key := String.ofList (name.takeWhile (· ≠ '='))
  let attached := name.contains '='
  let value := String.ofList ((name.dropWhile (· ≠ '=')).drop 1)
  match long? key with
  | none => .error (.unknownSwitch s!"--{key}")
  | some (.flag f) => if attached then .error (.valueOfFlag key) else .ok (.flags [f])
  | some (.takes s) => .ok (if attached then .value [] s value else .awaiting [] s)

def word (argument : String) : Except LineFault Word :=
  match argument.toList with
  | ['-', '-'] => .ok .rest
  | '-' :: '-' :: name => longWord name
  | '-' :: c :: name => (group (c :: name)).map fun
    | (flags, none) => .flags flags
    | (flags, some (s, [])) => .awaiting flags s
    | (flags, some (s, attached)) => .value flags s (.ofList attached)
  | _ => .ok .other

def add (line : Line) (flags : List Flag) (values : List (Setting × String)) : Line :=
  { line with flags := line.flags ++ flags, values := line.values ++ values }

def read (line : Line) : List String → Except LineFault Line
  | [] => .ok line
  | argument :: rest => do
    match ← word argument with
    | .other => read { line with others := line.others ++ [argument] } rest
    | .rest => return { line with others := line.others ++ rest }
    | .flags flags => read (line.add flags []) rest
    | .value flags s value => read (line.add flags [(s, value)]) rest
    | .awaiting flags s =>
      match rest with
      | value :: rest => read (line.add flags [(s, value)]) rest
      | [] => throw (.missingValue s)

def has (line : Line) (f : Flag) : Bool := line.flags.contains f

def value? (line : Line) (s : Setting) : Option String := (line.values.reverse.find? (·.1 = s)).map (·.2)

def settingValue (s : Setting) (text : String) : Except LineFault Json.Value :=
  if s = .jobs then
    match Coercion.integerOfText text with
    | .ok n => .ok (.int n)
    | .error _ => .error (.notInteger text)
  else .ok (.text (Text.points text))

def layer (line : Line) : Except LineFault Layer := do
  let given := Setting.all.filterMap fun s => (line.value? s).map (s, ·)
  let layer ← given.mapM fun (s, text) => (settingValue s text).map (s, ·)
  match line.others with
  | [] => return layer
  | argument :: _ => throw (.unexpected argument)

end Line

inductive Request
  | help
  | version
  | generate (line : Line) (layer : Layer)
deriving Repr

def Request.ofArguments (arguments : List String) : Except LineFault Request := do
  let line ← Line.empty.read arguments
  match line.flags.find? fun f => f = .help || f = .version with
  | some .help => return .help
  | some _ => return .version
  | none => return .generate line (← line.layer)

namespace Command

def programName : String := "sdking"

def programVersion : String := "0.3.0"

def switchLines : List (String × String) := [
  ("-i, --input TEXT", "OpenAPI spec: file path, URL, or '-' for stdin."),
  ("-o, --output TEXT", "Directory to write the SDK package to."),
  ("-s, --import-style TEXT", "How generated modules import each other: relative (default) or absolute."),
  ("--package-name TEXT", "Root package for absolute imports (default: output directory name)."),
  ("-j, --jobs INTEGER", "Parallel writer threads (default: 4)."),
  ("-n, --dry-run", "List the files that would be written, write nothing."),
  ("--json", "JSON output format for --dry-run."),
  ("--plain", "Plain text output for --dry-run."),
  ("--no-color", "Disable color output."),
  ("-q, --quiet", "Suppress non-essential output."),
  ("-v, --verbose", "Enable debug output."),
  ("--version", "Show version and exit."),
  ("--help", "Show this message and exit.")]

def usageLine : String := s!"Usage: {programName} [OPTIONS]\n"

def switchLine (switch meaning : String) : String :=
  "  " ++ switch ++ .ofList (List.replicate (25 - switch.length) ' ') ++ meaning ++ "\n"

def helpText : String :=
  usageLine ++ "\nGenerate a client SDK package from an OpenAPI spec.\n\nOptions:\n"
    ++ String.join (switchLines.map fun (switch, meaning) => switchLine switch meaning)

end Command

def LineFault.message : LineFault → String
  | .unknownSwitch name => s!"No such option: {name}"
  | .missingValue setting => s!"Option for '{setting.key}' requires an argument."
  | .valueOfFlag name => s!"Option '--{name}' does not take a value."
  | .notInteger text => s!"Invalid value for '--jobs' / '-j': '{text}' is not a valid integer."
  | .unexpected argument => s!"Got unexpected extra argument ({argument})"

def LineFault.report (fault : LineFault) : String :=
  Command.usageLine ++ s!"Try '{Command.programName} --help' for help.\n\nError: " ++ fault.message ++ "\n"

end ClientForge
