import ClientForge.Json.Reader
import ClientForge.Yaml.Value

namespace ClientForge

inductive Format
  | unknown
  | json
  | yaml
deriving DecidableEq, Repr

namespace Content

def mappingOnly (d : Document) : Except Failure Document :=
  match d.opened with
  | .map _ => .ok d
  | _ => .error (.description (.notMapping (topName d)))

def readYaml (jsonFault : Option Json.Fault) (content : String) : Except Failure Document :=
  match Yaml.read content with
  | .ok d => mappingOnly d
  | .error .unreadable => .error (.description (.unreadable jsonFault))
  | .error (.malformed fault) => .error (.malformed fault)

def read (format : Format) (content : String) : Except Failure Document :=
  if format = .yaml then readYaml none content
  else match Json.read content with
    | .ok d => mappingOnly d
    | .error (.fault fault) =>
      if format = .json then .error (.description (.badJson fault)) else readYaml (some fault) content
    | .error (.tooManyDigits _) => .error (.malformed .tooManyDigits)
    | .error .tooDeep => .error (.malformed .endless)

end Content

end ClientForge
