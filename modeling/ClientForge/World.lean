import ClientForge.Files.Tree
import ClientForge.Text.Pieces
import ClientForge.Text.Utf8

/-!
What a run finds around it: files, variables, input, and what addresses answer.
-/

namespace ClientForge

abbrev Environment := List (String × String)

namespace Environment

def get? (e : Environment) (name : String) : Option String := (e.find? (·.1 = name)).map (·.2)

def given? (e : Environment) (name : String) : Option String := (e.get? name).filter (· ≠ "")

end Environment

inductive Reply
  | answer (status : Nat) (mediaType : Option String) (body : List UInt8)
  | failure (reason : String)
  | badAddress
  | cookieConflict
  | brokenStream
  | unexplained
deriving DecidableEq, Repr

/-- `interactive` holds if the results go to a terminal. `token` tells temporary files from others, and `time` names
the second in which the run takes place. -/
structure World where
  files : FileTree
  directory : Path
  environment : Environment
  system : String
  input : List UInt8
  request : String → Reply
  interactive : Bool
  token : String
  time : String

namespace World

def textOf (bytes : List UInt8) : Except Text.Utf8Fault String :=
  (Text.decodeUtf8 bytes).map fun s => .ofList (Text.unifyBreaks s.toList)

def read (w : World) (name : String) : Except FileFault (Option (List UInt8)) :=
  w.files.read (.ofText w.directory name)

end World

end ClientForge
