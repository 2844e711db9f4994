import ClientForge.Text.Pieces

namespace ClientForge

abbrev Path := List String

namespace Path

def names (s : String) : List String := (s.pieces '/').filter fun n => n ≠ "" && n ≠ "."

def isAbsolute (s : String) : Bool := s.toList.head? = some '/'

def step (p : Path) (name : String) : Path := if name = ".." then p.dropLast else p ++ [name]

def resolve (base : Path) (s : String) : Path := (names s).foldl step (if isAbsolute s then [] else base)

def text (p : Path) : String := "/" ++ "/".intercalate p

def name (p : Path) : String := p.getLast?.getD ""

def parent (p : Path) : Path := p.dropLast

def isBelow (base p : Path) : Bool := base.isPrefixOf p && p ≠ base

def ending (name : String) : String :=
  let reversed := name.toList.reverse
  let tail := reversed.takeWhile (· ≠ '.')
  if tail.isEmpty || tail.length + 1 ≥ reversed.length then "" else .ofList ('.' :: tail.reverse)

end Path

structure Location where
  opening : String
  start : Path
  names : List String
deriving Repr

namespace Location

def openingOf (s : String) : String :=
  if !Path.isAbsolute s then ""
  else if (s.toList.takeWhile (· = '/')).length = 2 then "//"
  else "/"

def ofText (base : Path) (s : String) : Location :=
  ⟨openingOf s, if Path.isAbsolute s then [] else base, Path.names s⟩

def append (l : Location) (names : List String) : Location := { l with names := l.names ++ names }

def ofPath (p : Path) : Location := ⟨"/", [], p⟩

def text (l : Location) : String :=
  let s := l.opening ++ "/".intercalate l.names
  if s = "" then "." else s

def path (l : Location) : Path := l.names.foldl Path.step l.start

/-- The most bytes that a name may have, and the number of bytes that a written path has to stay below. -/
def maxName : Nat := 255

def maxText : Nat := 4096

def isTooLong (l : Location) : Bool := maxText ≤ l.text.utf8ByteSize

end Location

end ClientForge
