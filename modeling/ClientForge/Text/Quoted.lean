import ClientForge.Text.Numeral
import ClientForge.Text.Pieces
import ClientForge.Text.Points
import ClientForge.Text.Printable

/-!
Text in code: as a string literal on one line, and as a documentation block between triple quotes.
-/

namespace ClientForge.Text

def escape (quote c : Char) : List Char :=
  if c = '\\' || c = quote then ['\\', c]
  else if c = '\n' then ['\\', 'n']
  else if c = '\r' then ['\\', 'r']
  else if c = '\t' then ['\\', 't']
  else if isPrintable c then [c]
  else if c.toNat < 0x100 then '\\' :: 'x' :: hexDigits 2 c.toNat
  else if c.toNat < 0x10000 then '\\' :: 'u' :: hexDigits 4 c.toNat
  else '\\' :: 'U' :: hexDigits 8 c.toNat

def quoteWith (quote : Char) (s : List Char) : List Char := quote :: (s.flatMap (escape quote) ++ [quote])

def escapePoint (quote : Char) (n : CodePoint) : List Char :=
  if n.val.isValidChar then escape quote (Char.ofNat n) else '\\' :: 'u' :: hexDigits 4 n

theorem escapePoint_codePoint (quote c : Char) : escapePoint quote (codePoint c) = escape quote c := by
  have hvalid : c.toNat.isValidChar := c.valid
  simp [escapePoint, codePoint, hvalid]

def shown (s : List Char) : List Char :=
  quoteWith (if s.contains '\'' && !s.contains '"' then '"' else '\'') s

def shownPoints (s : List CodePoint) : List Char :=
  let quote := if s.contains (codePoint '\'') && !s.contains (codePoint '"') then '"' else '\''
  quote :: (s.flatMap (escapePoint quote) ++ [quote])

/-- The form written into code: double quotes, unless the text holds one. -/
def quotedPoints (s : List CodePoint) : List Char :=
  let quote := if s.contains (codePoint '"') then '\'' else '"'
  quote :: (s.flatMap (escapePoint quote) ++ [quote])

def quoted (s : List Char) : List Char := quotedPoints (s.map codePoint)

end ClientForge.Text

namespace String

def quoted (s : String) : String := .ofList (ClientForge.Text.quoted s.toList)

def shown (s : String) : String := .ofList (ClientForge.Text.shown s.toList)

end String

namespace ClientForge.Text

def doubleBackslashes (s : List Char) : List Char := s.flatMap fun c => if c = '\\' then ['\\', '\\'] else [c]

def escapeTripleQuotes : List Char → List Char
  | [] => []
  | '"' :: '"' :: '"' :: rest => '\\' :: '"' :: '\\' :: '"' :: '\\' :: '"' :: escapeTripleQuotes rest
  | c :: rest => c :: escapeTripleQuotes rest

def escapeFinalQuote (line : List Char) : List Char :=
  match line.reverse with
  | '"' :: body => if (body.takeWhile (· = '\\')).length % 2 = 1 then line else body.reverse ++ ['\\', '"']
  | _ => line

def tripleQuote : List Char := ['"', '"', '"']

/-- A text of one line stands between the quotes; any other has the closing quotes on a line of their own. -/
def docstring (s : List Char) : List Char :=
  match (lines (escapeTripleQuotes (doubleBackslashes (strip s)))).map stripEnd with
  | [line] => tripleQuote ++ escapeFinalQuote line ++ tripleQuote
  | ls => tripleQuote ++ ['\n'].intercalate ls ++ '\n' :: tripleQuote

def indentRest (s : List Char) : List Char :=
  match lines (s ++ ['\n']) with
  | [] => []
  | line :: more =>
    ['\n'].intercalate (line :: more.map fun l => if l.isEmpty then l else [' ', ' ', ' ', ' '] ++ l)

end ClientForge.Text

namespace String

def docstring (s : String) : String := .ofList (ClientForge.Text.docstring s.toList)

def indentRest (s : String) : String := .ofList (ClientForge.Text.indentRest s.toList)

end String
