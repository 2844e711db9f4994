import ClientForge.Naming.Identifier
import ClientForge.Options.Basic
import ClientForge.Options.Coercion

/-!
Which of the given settings count: those of the command line before those of variables, and these before those of the
project. What none of them gives has a default.
-/

namespace ClientForge.Options

def isWord : List Char → Bool
  | [] => false
  | c :: rest => Naming.isWordChar c && !c.isDigit && rest.all Naming.isWordChar

def isPackageName (s : String) : Bool :=
  let body := if s.toList.getLast? = some '\n' then s.toList.dropLast else s.toList
  (Text.pieces '.' body).all isWord

def pick (layers : List Layer) (s : Setting) : Json.Value := (layers.findSome? (·.get? s)).getD .null

def required (layers : List Layer) (s : Setting) (fault : UsageFault) :
    Except Failure (List Text.CodePoint) :=
  let v := pick layers s
  if v.isGiven then .ok v.display else .error (.usage fault)

def importStyle (v : Json.Value) : Except Failure ImportStyle :=
  if !v.isGiven then .ok .relative
  else
    let known := match v with
      | .text name => (Text.text? name).bind ImportStyle.ofName?
      | _ => none
    match known with
    | some style => .ok style
    | none => .error (.usage (.importStyle (Text.ofPoints v.display)))

def nameFault? (name : List Text.CodePoint) : Option Malformed :=
  if name.any Text.isUnencodable then some .halfInPath
  else if name.any (·.val = 0) then some .nullInPath
  else none

def pathFault? (path : List Text.CodePoint) : Option Malformed :=
  (path.splitBy fun a _ => a ≠ Text.codePoint '/').findSome? nameFault?

/-- The name that a package has by the directory it is written to. -/
def packageOfOutput (directory : Path) (output : List Text.CodePoint) : Except Failure (List Text.CodePoint) :=
  match pathFault? output with
  | some fault => .error (.malformed fault)
  | none => .ok (Text.points (Path.resolve directory (Text.ofPoints output)).name)

def rootPackage (directory : Path) (output : List Text.CodePoint) (v : Json.Value) :
    Except Failure (List Text.CodePoint) := do
  let name ← if v.isGiven then
      match v with
      | .text name => pure name
      | _ => throw (.malformed .notText)
    else packageOfOutput directory output
  if (Text.text? name).any isPackageName then return name else throw (.usage (.packageName (Text.ofPoints name)))

def anyPackage (v : Json.Value) : Except Failure (Option (List Text.CodePoint)) :=
  match v with
  | .null => .ok none
  | .text name => .ok (some name)
  | _ => .error (.usage (.option .notText))

def defaultJobs : Nat := 4

def integer (v : Json.Value) : Except OptionFault Int :=
  match v with
  | .text s => (Text.text? s).elim (.error .brokenText) Coercion.integerOfText
  | v => Coercion.integer v.document

def jobCount (v : Json.Value) : Except OptionFault Nat := do
  if v.isNull then return defaultJobs
  let n ← integer v
  if n < 1 then throw .belowOne else return n.toNat

def ofLayers (directory : Path) (layers : List Layer) : Except Failure Options := do
  let input ← required layers .input .noInput
  let output ← required layers .output .noOutput
  let style ← importStyle (pick layers .importStyle)
  let given := pick layers .packageName
  let package ← match style with
    | .absolute => some <$> rootPackage directory output given
    | .relative => anyPackage given
  let jobs ← (jobCount (pick layers .jobs)).mapError fun fault => .usage (.option fault)
  return { input, output, style, package, jobs }

def resolve (w : World) (line : Layer) : Except Failure Options := do
  let project ← Project.load w
  ofLayers w.directory [line, .ofEnvironment w.environment, .ofMembers (project.getD [])]

end ClientForge.Options
