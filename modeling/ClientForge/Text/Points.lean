/-!
Texts in which half of a surrogate pair may stand alone, as the numbers of their characters and halves, and sets of
characters as runs of such numbers.
-/

namespace ClientForge.Text

/-- The number of a character or of one half of a surrogate pair. -/
abbrev CodePoint := Fin 0x110000

def codePoint (c : Char) : CodePoint := ⟨c.toNat, by
  have h := c.valid
  simp only [UInt32.isValidChar, Nat.isValidChar] at h
  simp only [Char.toNat]
  omega⟩

def points (s : String) : List CodePoint := s.toList.map codePoint

def char? (n : CodePoint) : Option Char := if h : n.val.isValidChar then some (Char.ofNatAux n h) else none

def text? (s : List CodePoint) : Option String := (s.mapM char?).map .ofList

def ofPoints (s : List CodePoint) : String := .ofList (s.map fun n => (char? n).getD '\ufffd')

/-- Halves of pairs have no bytes in UTF-8, those apart that stand for a byte which is no text. -/
def isUnencodable (n : CodePoint) : Bool := !n.val.isValidChar && !(0xDC80 ≤ n.val && n.val < 0xDD00)

abbrev Runs := List (Nat × Nat)

def Runs.holds (runs : Runs) (n : Nat) : Bool := runs.any fun (first, last) => first ≤ n && n ≤ last

end ClientForge.Text
