import ClientForge.Api.Reading
import ClientForge.Code.Printing
import ClientForge.Command.DataDirectory
import ClientForge.Command.Line
import ClientForge.Options.Resolution
import ClientForge.Package.Modules
import ClientForge.Package.Writing
import ClientForge.Report.Reporter
import ClientForge.Source.Loading

/-!
A whole run: from the command line to the files, the reports, and the status that the run ends with.
-/

namespace ClientForge.Command

structure Progress where
  files : FileTree
  output : String
  report : String

/-- A part of a run. What is done before a failure stays done. -/
abbrev Run := ExceptT Failure (StateM Progress)

def tell (s : String) : Run Unit := modify fun p => { p with report := p.report ++ s }

def print (s : String) : Run Unit := modify fun p => { p with output := p.output ++ s }

def listing (api : Api) (artifacts : List Artifact) : Table where
  headers := ["path", "lines", "imports"]
  rows := artifacts.map fun a =>
    [a.path, toString (a.content.toList.count '\n'), toString a.references.length]
  title := some s!"{api.info.title} {api.info.version}"

def readApi (w : World) (r : Reporter) (options : Options) : Run Api := do
  let input := Text.ofPoints options.input
  tell (r.progress s!"Loading {input}")
  let document ← liftExcept (Source.load w (.ofText input))
  let version ← liftExcept (checkedVersion document)
  let api ← liftExcept (Api.ofDocument version document)
  tell (r.detail
    s!"Parsed OpenAPI {api.version}: {api.operations.length} operations, {api.schemas.size} schemas")
  return api

def build (r : Reporter) (options : Options) (api : Api) : Run (List Artifact) := do
  tell (r.progress "Generating SDK")
  let package := options.package.map Text.ofPoints
  if r.verbose then
    tell (String.join ((Package.notes options.style package api).map r.detail))
  let modules ← liftExcept (Package.modules options.style package api)
  return modules.map (·.artifact)

def write (w : World) (r : Reporter) (options : Options) (artifacts : List Artifact) : Run Unit := do
  let output := Text.ofPoints options.output
  tell (r.progress s!"Writing {artifacts.length} files to {output}")
  let p ← get
  let (files, result) := Package.write p.files w.token w.directory output artifacts
  set { p with files }
  let written ← liftExcept result
  tell (r.detail s!"Wrote {written.length} files to {(Path.resolve w.directory output).text}")

def generate (w : World) (r : Reporter) (layer : Layer) (dryRun : Bool) : Run Unit := do
  let options ← liftExcept (Options.resolve w layer)
  tell (r.detail s!"Options: {options.value.literal}")
  let api ← readApi w r options
  let artifacts ← build r options api
  if dryRun then print (← liftExcept ((r.table (listing api artifacts)).mapError Failure.malformed))
  else
    write w r options artifacts
    tell (r.success
      s!"Generated {artifacts.length} files for {api.info.title} {api.info.version} in {Text.ofPoints options.output}")

structure Outcome where
  status : Int
  output : String
  report : String
  files : FileTree

def Progress.ended (p : Progress) (status : Int) (report : String) : Outcome :=
  ⟨status, p.output, p.report ++ report, p.files⟩

def logName (w : World) : String := "crash-" ++ w.time ++ ".log"

def crash (w : World) (r : Reporter) (p : Progress) (cause : Malformed) : Outcome :=
  match DataDirectory.location w with
  | .error _ => p.ended 1 ""
  | .ok l =>
    let logs := l.append ["logs"]
    match DataDirectory.make p.files logs with
    | (files, .error _) => { p with files }.ended 1 ""
    | (files, .ok ()) =>
      let log := logs.append [logName w]
      { p with files := files.set log.path (.file (Text.encodeUtf8 (cause.message ++ "\n"))) }.ended 1
        ((r.error s!"Unexpected error. Debug log: {log.text}").toOption.getD "")

def finish (w : World) (r : Reporter) (p : Progress) : Except Failure Unit → Outcome
  | .ok () => p.ended 0 ""
  | .error (.malformed cause) => crash w r p cause
  | .error f =>
    match r.error f.message with
    | .ok report => p.ended f.exitCode report
    | .error cause => crash w r p cause

def reporter (w : World) (line : Line) : Reporter :=
  let form := if line.has .json then some .json else if line.has .plain then some .plain else none
  .ofWorld w form (line.has .noColours) (line.has .quiet) (line.has .verbose)

def start (w : World) : Progress := ⟨w.files, "", ""⟩

def run (w : World) (arguments : List String) : Outcome :=
  match Request.ofArguments arguments with
  | .error fault => (start w).ended 2 fault.report
  | .ok .help => ⟨0, helpText, "", w.files⟩
  | .ok .version => ⟨0, s!"{programName} {programVersion}\n", "", w.files⟩
  | .ok (.generate line layer) =>
    let r := reporter w line
    let (result, p) := (generate w r layer (line.has .dryRun)).run (start w)
    finish w r p result

def cancelled (w : World) : Outcome := (start w).ended 130 "\nCancelled.\n"

def broken (w : World) (cause : Malformed) : Outcome :=
  crash w (.ofWorld w none false false false) (start w) cause

end ClientForge.Command
