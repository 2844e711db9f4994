import ClientForge.Code.Basic
import ClientForge.Failure

/-!
The library names that generated code uses, and the imports of one module, collected while the module is made. Names
from one module stand in one statement.
-/

namespace ClientForge.Library

def sources : List (String × List String) := [
  ("datetime", ["date", "datetime"]),
  ("typing", ["Annotated", "Any", "Literal", "Optional", "TYPE_CHECKING", "Union"]),
  ("uuid", ["UUID"]),
  ("pydantic", ["AnyUrl", "BaseModel", "BeforeValidator", "ConfigDict", "EmailStr", "Field", "RootModel",
    "TypeAdapter"]),
  ("pydantic_core", ["to_jsonable_python"])]

def symbols : List String := sources.flatMap (·.2)

def groupOf (source : String) : Int :=
  if source ∈ ["datetime", "typing", "uuid"] then Import.standard else Import.thirdParty

def isCapital (name : String) : Bool := name.toList.any Char.isUpper && !name.toList.any Char.isLower

def comesBefore (a b : String) : Bool :=
  if isCapital a = isCapital b then a ≤ b else isCapital a

def statement? (used : List String) (source : String × List String) : Option Import :=
  let names := (used.eraseDups.filter (· ∈ source.2)).mergeSort comesBefore
  if names.isEmpty then none else some ⟨.dotted source.1, names.map (⟨·, none⟩), groupOf source.1⟩

def imports (used : List String) : List Import := sources.filterMap (statement? used)

def importsOf (used : List String) : Except Malformed (List Import) :=
  if used.all (· ∈ symbols) then .ok (imports used) else .error .unknownSymbol

end ClientForge.Library

namespace ClientForge

inductive ImportStyle
  | relative
  | absolute
deriving DecidableEq, Repr, Inhabited

def ImportStyle.name : ImportStyle → String
  | .relative => "relative"
  | .absolute => "absolute"

def ImportStyle.ofName? (name : String) : Option ImportStyle :=
  [ImportStyle.relative, .absolute].find? (·.name = name)

inductive ModuleNaming
  | relative
  | fromRoot (package : String)
deriving DecidableEq, Repr

def commonLength : List String → List String → Nat
  | a :: as, b :: bs => if a = b then commonLength as bs + 1 else 0
  | _, _ => 0

def ModuleNaming.nameOf (naming : ModuleNaming) (package target : List String) : ModuleName :=
  match naming with
  | .fromRoot root => .inPackage root target
  | .relative =>
    let common := commonLength package target
    .relative (package.length - common + 1) (target.drop common)

structure OwnImport where
  source : ModuleName
  deferred : Bool
  names : List ImportedName
deriving DecidableEq, Repr

structure ImportTable where
  naming : ModuleNaming
  package : List String
  symbols : List String
  libraries : List String
  own : List OwnImport
  references : List ModulePath
deriving Repr

namespace ImportTable

def start (naming : ModuleNaming) (path : ModulePath) : ImportTable := ⟨naming, path.package, [], [], [], []⟩

def add {α : Type} [DecidableEq α] (items : List α) (item : α) : List α :=
  if item ∈ items then items else items ++ [item]

theorem mem_add {α : Type} [DecidableEq α] (items : List α) (item a : α) :
    a ∈ add items item ↔ a ∈ items ∨ a = item := by
  unfold add
  split
  · rename_i h
    constructor
    · exact Or.inl
    · rintro (h' | rfl) <;> assumption
  · simp

def use (t : ImportTable) (symbols : List String) : ImportTable :=
  { t with symbols := symbols.foldl add t.symbols }

def useLibrary (t : ImportTable) (name : String) : ImportTable := { t with libraries := add t.libraries name }

def addNames (own : List OwnImport) (source : ModuleName) (deferred : Bool) (names : List ImportedName) :
    List OwnImport :=
  match own with
  | [] => [⟨source, deferred, names.foldl add []⟩]
  | i :: rest =>
    if i.source = source ∧ i.deferred = deferred then { i with names := names.foldl add i.names } :: rest
    else i :: addNames rest source deferred names

def addFrom (t : ImportTable) (folder : List String) (target : ModulePath) (deferred : Bool)
    (names : List ImportedName) : ImportTable :=
  { t with
    own := addNames t.own (t.naming.nameOf t.package folder) deferred names
    references := add t.references target }

def takeNames (t : ImportTable) (target : ModulePath) (names : List String) (deferred : Bool) : ImportTable :=
  if names.isEmpty then t else t.addFrom target.dotted target deferred (names.map (⟨·, none⟩))

def takeModule (t : ImportTable) (target : ModulePath) (asName : Option String) : ImportTable :=
  let parts := target.dotted
  let name := parts.getLast?.getD ""
  t.addFrom parts.dropLast target false [⟨name, asName.filter (· ≠ name)⟩]

def deferredImports (t : ImportTable) : List Import :=
  (t.own.filter (·.deferred)).map fun i => ⟨i.source, i.names, Import.own⟩

def imports (t : ImportTable) : List Import :=
  let symbols := t.symbols ++ if t.own.any (·.deferred) then ["TYPE_CHECKING"] else []
  t.libraries.map (⟨.dotted ·, [], Import.thirdParty⟩) ++ Library.imports symbols
    ++ (t.own.filter (!·.deferred)).map fun i => ⟨i.source, i.names, Import.own⟩

def into (t : ImportTable) (m : Module) : Module :=
  { m with imports := t.imports, deferred := t.deferredImports, references := t.references }

end ImportTable

end ClientForge
