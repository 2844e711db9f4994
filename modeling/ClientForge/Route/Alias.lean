import ClientForge.Route.Tree

namespace ClientForge

structure AliasEntry where
  operationId : String
  symbol : String
  package : List String
  function : String
  location : String
deriving DecidableEq, Repr

structure AliasTable where
  entries : List AliasEntry
deriving DecidableEq, Repr

namespace AliasTable

def packages (t : AliasTable) : List (List String) := (t.entries.map (·.package)).eraseDups

def symbols (t : AliasTable) : List String := t.entries.map (·.symbol)

end AliasTable

namespace Route

def idOf? (o : Operation) : Option String := o.operationId.filter (· ≠ "")

def aliasOf (o : Operation) (id : String) : AliasEntry where
  operationId := id
  symbol := Naming.identifier id
  package := packageOf o.path
  function := functionName o.method
  location := o.location

def aliasConflict? (before : List AliasEntry) (e : AliasEntry) : Option AliasConflict :=
  match before.find? (·.operationId == e.operationId), before.find? (·.symbol == e.symbol) with
  | some first, _ => some (.sameId e.operationId first.location e.location)
  | none, some first => some (.sameSymbol first.operationId first.location e.operationId e.location e.symbol)
  | none, none => none

def aliasesAfter (before : List AliasEntry) : List Operation → Except Failure (List AliasEntry)
  | [] => .ok before
  | o :: rest =>
    match idOf? o with
    | none => aliasesAfter before rest
    | some id =>
      let e := aliasOf o id
      match aliasConflict? before e with
      | some fault => .error (.aliasConflict fault)
      | none => aliasesAfter (before ++ [e]) rest

def aliases (operations : List Operation) : Except Failure AliasTable := AliasTable.mk <$> aliasesAfter [] operations

def withoutAlias (before : List AliasEntry) : List Operation → List String
  | [] => []
  | o :: rest =>
    match idOf? o with
    | none => o.location :: withoutAlias before rest
    | some id =>
      let e := aliasOf o id
      if (aliasConflict? before e).isSome then [] else withoutAlias (before ++ [e]) rest

end Route

end ClientForge
