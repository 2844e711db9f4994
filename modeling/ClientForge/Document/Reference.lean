import ClientForge.Document.Access
import ClientForge.Failure
import ClientForge.Text.Pieces

/-!
Pointers, which are references of the form `#/a/b` to a place inside a document, and the expansion of references.
-/

namespace ClientForge.Pointer

def unescape : List Char → List Char
  | [] => []
  | '~' :: '1' :: rest => '/' :: unescape rest
  | '~' :: '0' :: rest => '~' :: unescape rest
  | c :: rest => c :: unescape rest

def segments? (ref : String) : Option (List String) :=
  match ref.toList with
  | '#' :: '/' :: rest => some ((Text.pieces '/' rest).map fun s => .ofList (unescape s))
  | _ => none

/-- The number that a segment spells. One with too many digits spells none, unless the number is beyond every list. -/
def number? (segment : List Char) : Option Int :=
  (Text.readInt? 10 segment).filter fun n =>
    Text.decimalCount segment ≤ Text.maxDecimals || Nat.pow 10 Text.maxDecimals ≤ n.natAbs

def item? (items : List Document) (index : Int) : Option Document :=
  if 0 ≤ index then items[index.toNat]?
  else if index + items.length < 0 then none else items[(index + items.length).toNat]?

def step (ref : String) (d : Document) (segment : String) : Except DescriptionFault Document :=
  match d.opened with
  | .map entries => (Entries.get? entries segment).elim (.error (.missingKey ref segment)) .ok
  | .list items =>
    ((number? segment.toList).bind (item? items)).elim (.error (.badIndex ref segment)) .ok
  | d => .error (.noWayInto ref d.kindName)

def follow (ref : String) : List String → Document → Except DescriptionFault Document
  | [], d => .ok d
  | segment :: more, d => do follow ref more (← step ref d segment)

def lookup (ref : String) (root : Document) : Except DescriptionFault Document :=
  match segments? ref with
  | none => .error (.externalReference ref)
  | some segments => follow ref segments root

end ClientForge.Pointer

namespace ClientForge.Document

def reference? (kept : List String) (entries : Entries) : Option String :=
  match Entries.get? entries "$ref" with
  | some (.scalar (.text ref)) => if kept.any fun start => start.toList.isPrefixOf ref.toList then none else some ref
  | _ => none

mutual

def references (kept : List String) : Document → List String
  | .map entries => (reference? kept entries).toList ++ entryReferences kept entries
  | .list items => itemReferences kept items
  | .knot _ whole => references kept whole
  | _ => []

def entryReferences (kept : List String) : List (Scalar × Document) → List String
  | [] => []
  | (_, d) :: rest => references kept d ++ entryReferences kept rest

def itemReferences (kept : List String) : List Document → List String
  | [] => []
  | d :: rest => references kept d ++ itemReferences kept rest

end

def tooDeep {α : Type} : Except Failure α := .error (.malformed .endless)

/-! A value is replaced inside of `holders`, the values that hold it and themselves, by their labels. `room` is how
deep its parts may still stand: a part of a value takes two of it, and what a reference points to takes one. No value
is looked at without room. -/

mutual

/-- Puts `target room ref` into the place of each reference `ref` for which it is given. Only lists and mappings are
gone through, and one that holds itself never ends; everything else stays as it is. -/
def replaceReferences (kept : List String) (target : Nat → String → Option (Except Failure Document)) (room : Nat)
    (holders : List (Nat × Document)) : Document → Except Failure Document
  | .map entries =>
    if room = 0 then tooDeep
    else match reference? kept entries with
      | some ref => (target (room - 1) ref).getD (.ok (close holders (.map entries)))
      | none => .map <$> replaceInEntries kept target (room - 2) holders entries
  | .list items => if room = 0 then tooDeep else .list <$> replaceInItems kept target (room - 2) holders items
  | .knot label whole =>
    let same := close holders (.knot label whole)
    if room = 0 then tooDeep
    else match whole, reference? kept (whole.entries.toOption.getD []) with
      | .pair _ _, _ => .ok same
      | _, some ref => (target (room - 1) ref).getD (.ok same)
      | _, none => replaceReferences kept target room ((label, same) :: holders) whole
  | .again _ => tooDeep
  | d => if room = 0 then tooDeep else .ok (close holders d)

def replaceInEntries (kept : List String) (target : Nat → String → Option (Except Failure Document)) (room : Nat)
    (holders : List (Nat × Document)) : List (Scalar × Document) → Except Failure (List (Scalar × Document))
  | [] => .ok []
  | (k, d) :: rest => do
    let d ← replaceReferences kept target room holders d
    return (k, d) :: (← replaceInEntries kept target room holders rest)

def replaceInItems (kept : List String) (target : Nat → String → Option (Except Failure Document)) (room : Nat)
    (holders : List (Nat × Document)) : List Document → Except Failure (List Document)
  | [] => .ok []
  | d :: rest => do
    let d ← replaceReferences kept target room holders d
    return d :: (← replaceInItems kept target room holders rest)

end

/-- Replaces the references that are still open, each inside of fewer than `fuel` others. Inside what a reference
points to it is open no more, so `fuel` beyond the number of open references is enough. -/
def unfold (root : Document) (kept : List String) :
    Nat → Nat → List String → Document → Except Failure Document
  | 0, _, _, _ => tooDeep
  | fuel + 1, room, openRefs, d =>
    replaceReferences kept (fun room ref =>
      if ref ∈ openRefs then
        some (do unfold root kept fuel room (openRefs.erase ref) (← Pointer.lookup ref root))
      else none) room [] d

def resolveIn (room : Nat) (root : Document) (kept : List String) (d : Document) : Except Failure Document :=
  let refs := (references kept root).eraseDups
  unfold root kept (refs.length + 1) room refs d

/-- How deep a value may stand for its references to be replaced, counted as `replaceReferences` does. Only here and
where a text is read is depth limited: schemas, types and routes are made of any depth that is let pass. -/
def maxRoom : Nat := 990

def resolve (kept : List String) (d : Document) : Except Failure Document :=
  if maxRoom < 2 * d.depth then tooDeep else resolveIn maxRoom d kept d

end ClientForge.Document
