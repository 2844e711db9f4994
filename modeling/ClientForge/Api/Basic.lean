import ClientForge.Api.Vocabulary
import ClientForge.Schema.Registry

/-!
An interface: what its document says about it, its servers, its operations and its named schemas.
-/

namespace ClientForge

structure Info where
  title : String
  version : String
  description : Option String
deriving DecidableEq, Repr, Inhabited

structure Server where
  url : String
  description : Option String
deriving DecidableEq, Repr

structure Parameter where
  name : String
  location : ParameterLocation
  required : Bool
  description : Option String
  deprecated : Bool
  schema : Schema
deriving Repr

structure RequestBody where
  required : Bool
  description : Option String
  contentTypes : List String
  schema : Option Schema
deriving Repr

structure Response where
  status : String
  description : Option String
  contentTypes : List String
  schema : Option Schema
deriving Repr

namespace Response

def isSuccess (r : Response) : Bool := r.status.toList.head? = some '2'

def isJson (r : Response) : Bool := r.contentTypes.any (·.mentions "json")

end Response

structure Operation where
  path : String
  method : Method
  operationId : Option String
  summary : Option String
  description : Option String
  tags : List String
  parameters : List Parameter
  requestBody : Option RequestBody
  responses : List Response
  deprecated : Bool
deriving Repr

namespace Operation

def location (o : Operation) : String := s!"{o.method.wireName} {o.path}"

def bare (method : Method) (path : String) (operationId : Option String) : Operation where
  path := path
  method := method
  operationId := operationId
  summary := none
  description := none
  tags := []
  parameters := []
  requestBody := none
  responses := []
  deprecated := false

end Operation

structure Api where
  info : Info
  servers : List Server
  operations : List Operation
  schemas : Registry
  version : String
deriving Repr

end ClientForge
