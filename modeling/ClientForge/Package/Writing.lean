import ClientForge.Code.Basic
import ClientForge.Failure

namespace ClientForge.Package

/-- Where an artifact goes: strictly below the root, wherever its path leads. -/
def target (root : Path) (path : String) : Except Failure Path :=
  if path.toList.contains '\x00' then .error (.malformed .nullInPath)
  else if Path.isBelow root (Path.resolve root path) then .ok (Path.resolve root path)
  else .error (.output (.escapes path root.text))

def outputRoot (directory : Path) (output : String) : Except Failure Path :=
  if output.toList.contains '\x00' then .error (.malformed .nullInPath) else .ok (Path.resolve directory output)

def writeBelow (files : FileTree) (token : String) (root : Path) (contents : List (Path × List UInt8)) :
    FileTree × Option FileFault :=
  match files.makeDirectories (.ofPath root) with
  | (files, some fault) => (files, some fault)
  | (files, none) => files.replaceFiles token contents

def blocked (root : Path) : FileFault → Failure
  | .tooDeep => .malformed .endless
  | fault => .output (.blocked root.text fault)

def write (files : FileTree) (token : String) (directory : Path) (output : String) (artifacts : List Artifact) :
    FileTree × Except Failure (List Path) :=
  let places : Except Failure (Path × List Path) := do
    let root ← outputRoot directory output
    return (root, ← artifacts.mapM fun a => target root a.path)
  match places with
  | .error fault => (files, .error fault)
  | .ok (root, targets) =>
    let contents := targets.zip (artifacts.map fun a => Text.encodeUtf8 a.content)
    match writeBelow files token root contents with
    | (files, none) => (files, .ok targets)
    | (files, some fault) => (files, .error (blocked root fault))

end ClientForge.Package
