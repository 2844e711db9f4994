import ClientForge.Address.Host
import ClientForge.Document.Text
import ClientForge.Files.Tree
import ClientForge.Json.Fault
import ClientForge.Text.Utf8

/-!
Why a run ends without its result: the causes, their wording, and the status that a process ends with.
-/

namespace ClientForge

inductive FailureKind
  | general
  | usage
  | description
  | reference
  | conflict
  | routeConflict
  | aliasConflict
  | output
  | config
deriving DecidableEq, Repr

namespace FailureKind

def broader? : FailureKind → Option FailureKind
  | .general => none
  | .reference => some .description
  | .routeConflict => some .conflict
  | .aliasConflict => some .conflict
  | _ => some .general

def exitCode : FailureKind → Int
  | .general => 1
  | .usage => 2
  | .description => 7
  | .reference => 7
  | .conflict => 8
  | .routeConflict => 8
  | .aliasConflict => 8
  | .output => 9
  | .config => 1

def ancestry (kind : FailureKind) : List FailureKind :=
  match kind with
  | .general => [.general]
  | .reference => [.reference, .description, .general]
  | .routeConflict => [.routeConflict, .conflict, .general]
  | .aliasConflict => [.aliasConflict, .conflict, .general]
  | k => [k, .general]

end FailureKind

inductive RecordKind
  | info
  | server
  | operation
  | parameter
  | requestBody
  | response
  | referenceSchema
  | arraySchema
  | enumSchema
  | allOfSchema
  | oneOfSchema
  | anyOfSchema
  | primitiveSchema
  | untypedSchema
  | classDefinition
  | module
deriving DecidableEq, Repr

inductive FieldKind
  | description
  | format
  | url
  | operationId
  | summary
  | tags
  | contentTypes
  | doc
  | path
  | future
  | imports
  | deferredImports
  | exports
  | classes
  | adapters
  | operations
  | assigns
  | rebuild
  | references
deriving DecidableEq, Repr

/-- A value of the wrong shape at a place where the shape is taken on trust, or where a record refuses it. -/
inductive Malformed
  | notIterable
  | notMapping
  | unhashableKey
  | keyNotText
  | notText
  | rejected (record : RecordKind) (fields : List FieldKind)
  | notNumber
  | tooManyDigits
  | numberTooLarge
  | emptyNumber
  | notTruthValue
  | notMoment
  | noSuchDay
  | noSuchCharacter
  | endless
  | unknownSymbol
  | unknownMethod
  | nullInPath
  | halfInPath
  | address (fault : Address.AddressFault)
  | cookieConflict
  | brokenStream
  | unexplainedReply
  | headerNotAscii
  | noByteOrder
  | strictCoding
  | unopenedTag
  | unreadableAction
  | noHome
  | undecodable (fault : Text.Utf8Fault)
  | file (fault : FileFault)
deriving DecidableEq, Repr

def Malformed.message : Malformed → String
  | .notIterable => "a value holds no items"
  | .notMapping => "a value is no mapping"
  | .unhashableKey => "a value cannot be a key"
  | .keyNotText => "a key is no text"
  | .notText => "a value is no text"
  | .rejected _ _ => "a record refuses a value"
  | .notNumber => "a text spells no number"
  | .tooManyDigits => "a number has too many digits"
  | .numberTooLarge => "a number is too large"
  | .emptyNumber => "a number has no digits"
  | .notTruthValue => "a text spells no truth value"
  | .notMoment => "a text spells no moment"
  | .noSuchDay => "the calendar has no such day"
  | .noSuchCharacter => "there is no character of that number"
  | .endless => "a value holds itself"
  | .unknownSymbol => "a symbol is not known"
  | .unknownMethod => "a method is not known"
  | .nullInPath => "a path holds a null character"
  | .halfInPath => "a path holds half of a surrogate pair"
  | .address _ => "no request can be made for an address"
  | .cookieConflict => "a reply sets a cookie twice"
  | .brokenStream => "the body of a reply cannot be read"
  | .unexplainedReply => "a request fails without a cause"
  | .headerNotAscii => "a header of a reply is no ASCII text"
  | .noByteOrder => "a text does not tell the order of its bytes"
  | .strictCoding => "a way of writing data cannot pass over faults"
  | .unopenedTag => "a message closes a tag that is not open"
  | .unreadableAction => "a message names an action with unreadable arguments"
  | .noHome => "the directory of the user is not known"
  | .undecodable fault => fault.message
  | .file fault => fault.message

def topName (d : Document) : String := if d.isNull then "empty document" else d.kindName

inductive DescriptionFault
  | noInput
  | status (code : Int) (url : String)
  | unreachable (url reason : String)
  | missingFile (path : String)
  | emptyFile (path : String)
  | badJson (fault : Json.Fault)
  | unreadable (jsonFault : Option Json.Fault)
  | notMapping (found : String)
  | swagger (version : String)
  | noVersion
  | version (found : String)
  | missing (field : String)
  | notObject (field : String)
  | pathsNotObject
  | externalReference (ref : String)
  | missingKey (ref key : String)
  | badIndex (ref index : String)
  | noWayInto (ref kind : String)
  | schemaReference (found : String)
  | schemasNotMapping
deriving DecidableEq, Repr

def schemaReferenceStart : String := "#/components/schemas/"

def DescriptionFault.message : DescriptionFault → String
  | .noInput => "No input received from stdin"
  | .status code url => s!"HTTP {code} fetching spec from {url}"
  | .unreachable url reason => s!"Failed to fetch spec from {url}: {reason}"
  | .missingFile path => s!"Spec file not found: {path}"
  | .emptyFile path => s!"Spec file is empty: {path}"
  | .badJson fault => s!"Invalid JSON: {fault.message}"
  | .unreadable none => "Failed to parse spec as JSON or YAML"
  | .unreadable (some fault) => s!"Failed to parse spec as JSON or YAML\n  JSON error: {fault.message}"
  | .notMapping found => s!"Spec must be a JSON/YAML object (got {found})"
  | .swagger found => s!"Swagger {found} is not supported. Only OpenAPI 3.0.x and 3.1.x are supported. " ++
      "Consider converting with https://converter.swagger.io"
  | .noVersion => "Missing 'openapi' field. Is this an OpenAPI 3.x document?"
  | .version found => s!"Unsupported OpenAPI version: {found}. Only OpenAPI 3.0.x and 3.1.x are supported."
  | .missing field => s!"Missing '{field}' field"
  | .notObject field => s!"'{field}' must be an object"
  | .pathsNotObject => "'paths' must be an object mapping URL paths to path items"
  | .externalReference ref => s!"External $ref not supported: {ref}. Only internal references (#/...) are handled."
  | .missingKey ref key => s!"Cannot resolve $ref '{ref}': key '{key}' not found"
  | .badIndex ref index => s!"Cannot resolve $ref '{ref}': invalid array index '{index}'"
  | .noWayInto ref kind => s!"Cannot resolve $ref '{ref}': cannot navigate into {kind}"
  | .schemaReference found => s!"Unsupported schema $ref {found}: only '{schemaReferenceStart}<Name>' " ++
      "references are allowed inside schemas"
  | .schemasNotMapping => "'components.schemas' must be a mapping of name to schema"

inductive Conflict
  | definedTwice (path name first second : String)
  | classTwice (name first second : String)
  | pathTwice (path : String)
deriving DecidableEq, Repr

def Conflict.message : Conflict → String
  | .definedTwice path name first second => s!"{path} defines '{name}' twice: {first} and {second}"
  | .classTwice name first second => s!"Model class '{name}' is generated by both {first} and {second}"
  | .pathTwice path => s!"Two generated modules share the path {path}"

inductive RouteConflict
  | exportedTwice (path symbol first second : String)
  | reservedModule (symbol : String)
  | definedTwice (path name first second : String)
deriving DecidableEq, Repr

def RouteConflict.message : RouteConflict → String
  | .exportedTwice path symbol first second => s!"Route '{path}' exports '{symbol}' twice: {first} and {second}"
  | .reservedModule symbol => s!"Top-level path segment '{symbol}' clashes with the generated routes.{symbol} module"
  | .definedTwice path name first second => s!"{path} defines '{name}' twice: {first} and {second}"

inductive AliasConflict
  | sameId (id first second : String)
  | sameSymbol (firstId first secondId second symbol : String)
deriving DecidableEq, Repr

def AliasConflict.message : AliasConflict → String
  | .sameId id first second => s!"Duplicate operationId '{id}': declared by {first} and {second}"
  | .sameSymbol firstId first secondId second symbol =>
    s!"operationIds '{firstId}' ({first}) and '{secondId}' ({second}) both map to alias '{symbol}'"

inductive OptionFault
  | notText
  | brokenText
  | notInteger
  | unreadableInteger
  | integerTooLong
  | fractional
  | notFinite
  | belowOne
deriving DecidableEq, Repr

def OptionFault.message : OptionFault → String
  | .notText => "Input should be a valid string"
  | .brokenText => "Input should be a valid string, unable to parse raw data as a unicode string"
  | .notInteger => "Input should be a valid integer"
  | .unreadableInteger => "Input should be a valid integer, unable to parse string as an integer"
  | .integerTooLong => "Unable to parse input string as an integer, exceeded maximum size"
  | .fractional => "Input should be a valid integer, got a number with a fractional part"
  | .notFinite => "Input should be a finite number"
  | .belowOne => "Input should be greater than or equal to 1"

inductive UsageFault
  | noInput
  | noOutput
  | importStyle (found : String)
  | packageName (found : String)
  | noPackageName
  | option (fault : OptionFault)
deriving DecidableEq, Repr

def UsageFault.message : UsageFault → String
  | .noInput => "No input spec given. Pass --input (file, URL or '-') or set it in sdking.json"
  | .noOutput => "No output directory given. Pass --output or set it in sdking.json"
  | .importStyle found => s!"Unknown import style '{found}'. Choose one of: relative, absolute"
  | .packageName found => s!"'{found}' is not a valid Python package name; pass --package-name"
  | .noPackageName => "Absolute imports need a package name (--package-name)"
  | .option fault => s!"Invalid options: {fault.message}"

inductive ConfigFault
  | badJson (fault : Json.Fault)
  | tooManyDigits (count : Nat)
  | undecodable (fault : Text.Utf8Fault)
  | notObject
  | unknownKeys (keys : List String)
deriving DecidableEq, Repr

def ConfigFault.message : ConfigFault → String
  | .badJson fault => fault.message
  | .tooManyDigits count => s!"Exceeds the limit ({Text.maxDecimals} digits) for integer string conversion: " ++
      s!"value has {count} digits; use sys.set_int_max_str_digits() to increase the limit"
  | .undecodable fault => fault.message
  | .notObject => "expected a JSON object"
  | .unknownKeys keys => "unknown keys " ++ ", ".intercalate keys

inductive OutputFault
  | escapes (artifact root : String)
  | blocked (root : String) (fault : FileFault)
deriving DecidableEq, Repr

def OutputFault.message : OutputFault → String
  | .escapes artifact root => s!"Artifact path '{artifact}' escapes the output directory {root}"
  | .blocked root fault => s!"Cannot write to {root}: {fault.message}"

inductive Failure
  | usage (fault : UsageFault)
  | description (fault : DescriptionFault)
  | reference (schema : String)
  | conflict (fault : Conflict)
  | routeConflict (fault : RouteConflict)
  | aliasConflict (fault : AliasConflict)
  | output (fault : OutputFault)
  | config (path : String) (fault : ConfigFault)
  | malformed (fault : Malformed)
deriving DecidableEq, Repr

namespace Failure

def kind? : Failure → Option FailureKind
  | .usage _ => some .usage
  | .description _ => some .description
  | .reference _ => some .reference
  | .conflict _ => some .conflict
  | .routeConflict _ => some .routeConflict
  | .aliasConflict _ => some .aliasConflict
  | .output _ => some .output
  | .config _ _ => some .config
  | .malformed _ => none

def message : Failure → String
  | .usage fault => fault.message
  | .description fault => fault.message
  | .reference schema => s!"Unresolved schema reference '{schemaReferenceStart}{schema}'"
  | .conflict fault => fault.message
  | .routeConflict fault => fault.message
  | .aliasConflict fault => fault.message
  | .output fault => fault.message
  | .config path fault => s!"Invalid project config at {path}: {fault.message}"
  | .malformed fault => fault.message

def exitCode (f : Failure) : Int := (f.kind?.getD .general).exitCode

end Failure

def Failure.ofFile : FileFault → Failure
  | .tooDeep => .malformed .endless
  | fault => .malformed (.file fault)

instance : MonadLift (Except Malformed) (Except Failure) := ⟨Except.mapError .malformed⟩

instance : MonadLift (Except FileFault) (Except Failure) := ⟨Except.mapError .ofFile⟩

instance : MonadLift (Except DescriptionFault) (Except Failure) := ⟨Except.mapError .description⟩

end ClientForge
