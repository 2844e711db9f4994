import ClientForge.Failure
import ClientForge.World

namespace ClientForge.DataDirectory

def followsVariable (system : String) : Bool := system = "Linux" || system.endsWith "BSD"

def usualHome : String := "/root"

def home (e : Environment) : Except Malformed String :=
  let found := (e.get? "HOME").getD usualHome
  let trimmed := String.ofList (found.toList.reverse.dropWhile (· = '/')).reverse
  if trimmed.startsWith "~" then .error .noHome
  else .ok (if trimmed = "" then "/" else trimmed)

def location (w : World) : Except Malformed Location :=
  let below (base : String) (names : List String) : Location := (Location.ofText w.directory base).append names
  if followsVariable w.system then
    match w.environment.given? "XDG_DATA_HOME" with
    | some base => .ok (below base ["sdking"])
    | none => do return below (← home w.environment) [".local", "share", "sdking"]
  else do return below (← home w.environment) [".sdking"]

def make (files : FileTree) (l : Location) : FileTree × Except Failure Unit :=
  match files.makeDirectories l with
  | (files, none) => (files, .ok ())
  | (files, some fault) => (files, .error (.ofFile fault))

end ClientForge.DataDirectory
