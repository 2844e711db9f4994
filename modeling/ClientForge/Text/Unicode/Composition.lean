import ClientForge.Text.Numeral
import ClientForge.Text.Pieces
import ClientForge.Text.Unicode.Marks
import ClientForge.Text.Unicode.Pairs

namespace ClientForge.Text

def tableNumbers (table : String) : List Nat :=
  ((pieces ' ' (table.map fun c => if c = '\n' then ' ' else c).toList).filter (!·.isEmpty)).filterMap (digits? 16)

def triples : List Nat → List (Nat × Nat × Nat)
  | a :: b :: c :: rest => (a, b, c) :: triples rest
  | _ => []

def twins : List Nat → List (Nat × Nat)
  | a :: b :: rest => (a, b) :: twins rest
  | _ => []

def joinedPairs : List (Nat × Nat × Nat) := triples (tableNumbers pairTable)

def parts : List (Nat × List Nat) :=
  (joinedPairs ++ triples (tableNumbers splitTable)).map (fun (c, a, b) => (c, [a, b])) ++
    (twins (tableNumbers singleTable)).map fun (c, a) => (c, [a])

def firstSyllable : Nat := 0xac00

def firstInitial : Nat := 0x1100

def firstVowel : Nat := 0x1161

def noFinal : Nat := 0x11a7

def isSyllable (n : Nat) : Bool := firstSyllable ≤ n && n < firstSyllable + 19 * 21 * 28

def syllableParts (n : Nat) : List Nat :=
  let index := n - firstSyllable
  let final := index % 28
  [firstInitial + index / 588, firstVowel + index % 588 / 28] ++ (if final = 0 then [] else [noFinal + final])

def decomposed : Nat → Nat → List Nat
  | 0, n => [n]
  | rounds + 1, n =>
    if isSyllable n then syllableParts n
    else match parts.find? (·.1 = n) with
      | some (_, [a, b]) => decomposed rounds a ++ [b]
      | some (_, [a]) => decomposed rounds a
      | _ => [n]

def insertMark (mark : Nat) : List Nat → List Nat
  | [] => [mark]
  | n :: rest => if combiningClass n ≤ combiningClass mark then n :: insertMark mark rest else mark :: n :: rest

def orderedAfter (marks : List Nat) : List Nat → List Nat
  | [] => marks
  | n :: rest =>
    if combiningClass n = 0 then marks ++ n :: orderedAfter [] rest
    else orderedAfter (insertMark n marks) rest

def composition? (a b : Nat) : Option Nat :=
  if firstInitial ≤ a && a < firstInitial + 19 && firstVowel ≤ b && b < firstVowel + 21 then
    some (firstSyllable + ((a - firstInitial) * 21 + (b - firstVowel)) * 28)
  else if isSyllable a && (a - firstSyllable) % 28 = 0 && noFinal < b && b < noFinal + 28 then some (a + (b - noFinal))
  else (joinedPairs.find? (·.2 = (a, b))).map (·.1)

def composedAfter (start : Nat) (marks : List Nat) : List Nat → List Nat
  | [] => start :: marks.reverse
  | n :: rest =>
    let isNear := match marks with
      | [] => true
      | mark :: _ => combiningClass mark < combiningClass n
    match if isNear then composition? start n else none with
    | some both => composedAfter both marks rest
    | none =>
      if combiningClass n = 0 then start :: marks.reverse ++ composedAfter n [] rest
      else composedAfter start (n :: marks) rest

def composed (s : List Nat) : List Nat :=
  let apart := orderedAfter [] (s.flatMap (decomposed 4))
  let marks := apart.takeWhile (combiningClass · ≠ 0)
  match apart.drop marks.length with
  | [] => marks
  | n :: rest => marks ++ composedAfter n [] rest

def isComposed (s : List Nat) : Bool := composed s = s

end ClientForge.Text
