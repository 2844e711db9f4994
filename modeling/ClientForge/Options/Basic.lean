import ClientForge.Code.ImportTable
import ClientForge.Json.Reader
import ClientForge.Json.Value
import ClientForge.World

/-!
What a run can be told, and where it is told: on the command line, by variables, in the file of the project.
-/

namespace ClientForge

inductive Setting
  | input
  | output
  | importStyle
  | packageName
  | jobs
deriving DecidableEq, Repr

namespace Setting

def key : Setting → String
  | .input => "input"
  | .output => "output"
  | .importStyle => "import_style"
  | .packageName => "package_name"
  | .jobs => "jobs"

def all : List Setting := [.input, .output, .importStyle, .packageName, .jobs]

def variableName? : Setting → Option String
  | .importStyle => some "SDKING_IMPORT_STYLE"
  | .packageName => some "SDKING_PACKAGE_NAME"
  | _ => none

end Setting

abbrev Layer := List (Setting × Json.Value)

namespace Layer

def get? (l : Layer) (s : Setting) : Option Json.Value :=
  (l.find? (·.1 = s)).bind fun e => if e.2.isNull then none else some e.2

def ofEnvironment (e : Environment) : Layer :=
  Setting.all.filterMap fun s => (s.variableName?.bind e.given?).map fun v => (s, .text (Text.points v))

def ofMembers (members : Json.Members) : Layer := Setting.all.filterMap fun s => (members.get? s.key).map (s, ·)

end Layer

structure Options where
  input : List Text.CodePoint
  output : List Text.CodePoint
  style : ImportStyle
  package : Option (List Text.CodePoint)
  jobs : Nat
deriving DecidableEq, Repr

namespace Options

def value (o : Options) : Json.Value := .map [
  (Text.points "input", .text o.input),
  (Text.points "output", .text o.output),
  (Text.points "import_style", .text (Text.points o.style.name)),
  (Text.points "package_name", (o.package.map Json.Value.text).getD .null),
  (Text.points "jobs", .int o.jobs)]

end Options

end ClientForge

namespace ClientForge.Project

def fileName : String := "sdking.json"

def unknownKeys (members : Json.Members) : List (List Text.CodePoint) :=
  ((members.map (·.1)).filter fun name => !Setting.all.any (Text.points ·.key = name)).mergeSort
    fun s t => !t.lex s fun m n => m.val < n.val

def readJson (path content : String) : Except Failure Json.Value :=
  match Json.readValue content with
  | .ok v => .ok v
  | .error (.fault fault) => .error (.config path (.badJson fault))
  | .error (.tooManyDigits count) => .error (.config path (.tooManyDigits count))
  | .error .tooDeep => .error (.malformed .endless)

def settings (path : String) (bytes : List UInt8) : Except Failure Json.Members := do
  let content ← (World.textOf bytes).mapError fun fault => .config path (.undecodable fault)
  match ← readJson path content with
  | .map members =>
    if (unknownKeys members).isEmpty then return members
    else throw (.config path (.unknownKeys ((unknownKeys members).map Text.ofPoints)))
  | _ => throw (.config path .notObject)

def load (w : World) : Except Failure (Option Json.Members) := do
  match ← w.read fileName with
  | none => return none
  | some bytes => some <$> settings (w.directory ++ [fileName]).text bytes

end ClientForge.Project
