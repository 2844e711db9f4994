namespace ClientForge

inductive Method
  | get
  | put
  | post
  | delete
  | options
  | head
  | patch
  | trace
deriving DecidableEq, Repr, Inhabited

namespace Method

def name : Method → String
  | .get => "get"
  | .put => "put"
  | .post => "post"
  | .delete => "delete"
  | .options => "options"
  | .head => "head"
  | .patch => "patch"
  | .trace => "trace"

def all : List Method := [.get, .put, .post, .delete, .options, .head, .patch, .trace]

def ofName? (name : String) : Option Method := all.find? (·.name = name)

def wireName (m : Method) : String := m.name.toUpper

end Method

inductive ParameterLocation
  | path
  | query
  | header
  | cookie
deriving DecidableEq, Repr, Inhabited

namespace ParameterLocation

def name : ParameterLocation → String
  | .path => "path"
  | .query => "query"
  | .header => "header"
  | .cookie => "cookie"

def ofName? (name : String) : Option ParameterLocation :=
  [ParameterLocation.path, .query, .header, .cookie].find? (·.name = name)

end ParameterLocation

end ClientForge
