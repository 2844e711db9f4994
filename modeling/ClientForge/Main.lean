import ClientForge.Command.Run

/-!
The program itself: it looks at the world around it, runs, and puts into place what the run leaves.
-/

namespace ClientForge.Program

def variableNames : List String :=
  ["HOME", "XDG_DATA_HOME", "NO_COLOR", "TERM", "COLUMNS", "LINES", "COLORTERM", "FORCE_COLOR", "TTY_COMPATIBLE",
    "SDKING_IMPORT_STYLE", "SDKING_PACKAGE_NAME"]

def readEnvironment : IO Environment :=
  variableNames.filterMapM fun name => return (← IO.getEnv name).map (name, ·)

def entryAt? (p : Path) : IO (Option FileEntry) := do
  let place := (← IO.currentDir) / p.text
  if ← place.isDir then return some .directory
  if ← place.pathExists then return some (.file (← IO.FS.readBinFile place).toList)
  return none

def look (t : FileTree) (p : Path) : IO FileTree :=
  (FileTree.steps p).foldlM (fun t step => return match ← entryAt? step with
    | some entry => t.set step entry
    | none => t) t

def lookAlong (t : FileTree) (base : Path) (name : String) : IO FileTree := do
  let names := Path.names name
  let start := if Path.isAbsolute name then [] else base
  (List.range (names.length + 1)).foldlM (fun t k => look t ((names.take k).foldl Path.step start)) t

partial def readAll (stream : IO.FS.Stream) (found : ByteArray) : IO ByteArray := do
  let more ← stream.read 65536
  if more.isEmpty then return found else readAll stream (found ++ more)

def readTime : IO String := do
  let (_, path) ← IO.FS.createTempFile
  let seconds := (← path.metadata).modified.sec.toNat
  IO.FS.removeFile path
  let d := Date.ofDays (seconds / 86400)
  let second := seconds % 86400
  return .ofList (Text.padded 4 d.year ++ Text.padded 2 d.month ++ Text.padded 2 d.day ++ '-' ::
    (Text.padded 2 (second / 3600) ++ Text.padded 2 (second / 60 % 60) ++ Text.padded 2 (second % 60)))

def readWorld : IO World := do
  let directory := Path.names (← IO.currentDir).toString
  return {
    files := ← look ⟨[]⟩ (directory ++ [Project.fileName])
    directory
    environment := ← readEnvironment
    system := "Linux"
    input := []
    request := fun _ => .failure "requests are not available"
    interactive := ← (← IO.getStdout).isTty
    token := .ofList (Text.hexDigits 8 (← IO.rand 0 0xFFFFFFFF))
    time := ← readTime }

def withSource (w : World) (arguments : List String) : IO World := do
  match Request.ofArguments arguments with
  | .ok (.generate _ layer) =>
    match Options.resolve w layer with
    | .ok options =>
      match Source.ofText (Text.ofPoints options.input) with
      | .input => return { w with input := (← readAll (← IO.getStdin) .empty).toList }
      | .file name => return { w with files := ← lookAlong w.files w.directory name }
      | .address _ => return w
    | .error _ => return w
  | _ => return w

def changes (before after : FileTree) : List (Path × FileEntry) :=
  after.entries.filter fun (p, entry) => before.get? p ≠ some entry

def apply (token : String) : Path × FileEntry → IO Unit
  | (p, .directory) => IO.FS.createDirAll p.text
  | (p, .file content) => do
    let temporary := (FileTree.temporary token p).text
    IO.FS.writeBinFile temporary ⟨content.toArray⟩
    IO.FS.rename temporary p.text

/-- Runs once to learn which paths are to change, and once more with what stands at them. -/
def perform (arguments : List String) : IO UInt32 := do
  let w ← withSource (← readWorld) arguments
  let touched := (changes w.files (Command.run w arguments).files).map (·.1)
  let w := { w with files := ← touched.foldlM look w.files }
  let outcome := Command.run w arguments
  (changes w.files outcome.files).forM (apply w.token)
  IO.print outcome.output
  IO.eprint outcome.report
  return outcome.status.toNat.toUInt32

end ClientForge.Program

def main (arguments : List String) : IO UInt32 := ClientForge.Program.perform arguments
