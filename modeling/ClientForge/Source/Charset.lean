import ClientForge.Address.Punycode
import ClientForge.Failure
import ClientForge.Text.Charset.Pages
import ClientForge.Text.Charset.PairPage
import ClientForge.Text.Numeral
import ClientForge.Text.Utf16

/-!
The ways to write text in bytes that a reply may name, and how such bytes are read. What is not well formed is read as
replacement characters.
-/

namespace ClientForge.Text

def letterEscapes : List (Char × Char) := [('\\', '\\'), ('\'', '\''), ('"', '"'), ('a', '\x07'), ('b', '\x08'),
  ('f', '\x0c'), ('n', '\n'), ('r', '\r'), ('t', '\t'), ('v', '\x0b')]

def escapedNumber : Nat → Nat → List Char → Option Nat × List Char
  | 0, value, s => (some value, s)
  | count + 1, value, c :: rest =>
    match if c.toNat < 0x80 then digitValue? 16 c else none with
    | some digit => escapedNumber count (value * 16 + digit) rest
    | none => (none, c :: rest)
  | _ + 1, _, [] => (none, [])

def escapeLength? (isRaw : Bool) (c : Char) : Option Nat :=
  if c = 'u' then some 4
  else if c = 'U' then some 8
  else if c = 'x' && !isRaw then some 2
  else none

def isOctal (c : Char) : Bool := '0' ≤ c && c ≤ '7'

def escapeAt (isRaw : Bool) : List Char → List Char × List Char
  | [] => ([if isRaw then '\\' else '\ufffd'], [])
  | c :: rest =>
    match escapeLength? isRaw c with
    | some count =>
      let (n, rest) := escapedNumber count 0 rest
      ([((n.filter (· ≤ 0x10ffff)).map Char.ofNat).getD '\ufffd'], rest)
    | none =>
      if isRaw then (['\\', c], rest)
      else if c = '\n' then ([], rest)
      else if isOctal c then
        let digits := c :: (rest.take 2).takeWhile isOctal
        ([Char.ofNat ((digits? 8 digits).getD 0)], rest.drop (digits.length - 1))
      else if c = 'N' then
        match rest.head?, (rest.drop 1).takeWhile (· ≠ '}') with
        | some '{', name => if name.length + 1 < rest.length && name ≠ [] then (['\ufffd'], rest.drop (name.length + 2))
          else (['\ufffd'], if name = [] then rest.drop 1 else [])
        | _, _ => (['\ufffd'], rest)
      else match letterEscapes.find? (·.1 = c) with
        | some (_, char) => ([char], rest)
        | none => (['\\', c], rest)

def decodeEscapesFrom (isRaw : Bool) : Nat → List Char → List Char
  | 0, _ => []
  | _ + 1, [] => []
  | fuel + 1, c :: rest =>
    if c = '\\' then
      let (chars, rest) := escapeAt isRaw rest
      chars ++ decodeEscapesFrom isRaw fuel rest
    else c :: decodeEscapesFrom isRaw fuel rest

def decodeEscapes (isRaw : Bool) (bytes : List UInt8) : List Char :=
  decodeEscapesFrom isRaw bytes.length (bytes.map fun b => Char.ofNat b.toNat)

end ClientForge.Text

namespace ClientForge

/-- `unit` needs a mark of the order of bytes, which a text in UTF-8 cannot have. `coding` is for data and not for text,
`letters` exchanges letters of a text, and with `unusable` nothing can be read. -/
inductive Charset
  | page (p : Text.Page)
  | pairs (p : Text.PairPage)
  | gb18030
  | utf7
  | punycode
  | escapes (isRaw : Bool)
  | utf8 (dropsMark : Bool)
  | utf16 (highFirst : Bool)
  | utf32 (highFirst : Bool)
  | unit (width : Nat)
  | coding
  | letters
  | unusable

namespace Charset

def firstPages : List Text.Page := [
  ⟨"ascii", ["646", "ansi_x3.4_1968", "ansi_x3.4_1986", "ansi_x3_4_1968", "cp367", "csascii", "ibm367", "iso646_us",
    "iso_646.irv_1991", "iso_ir_6", "us", "us_ascii"], 128, ""⟩,
  ⟨"iso2022_jp", ["csiso2022jp", "iso2022jp", "iso_2022_jp"], 128, ""⟩,
  ⟨"iso2022_kr", ["csiso2022kr", "iso2022kr", "iso_2022_kr"], 128, ""⟩,
  ⟨"hz", ["hz_gb", "hz_gb_2312", "hzgb"], 128, ""⟩,
  ⟨"latin_1", ["8859", "charmap", "cp819", "csisolatin1", "ibm819", "iso8859", "iso8859_1", "iso_8859_1",
    "iso_8859_1_1987", "iso_ir_100", "l1", "latin", "latin1"], 256, ""⟩]

def others : List (String × List String × Charset) := [
  ("gb18030", ["gb18030_2000"], .gb18030),
  ("utf_7", ["u7", "unicode_1_1_utf_7", "utf7"], .utf7),
  ("utf_8", ["cp65001", "u8", "utf", "utf8", "utf8_ucs2", "utf8_ucs4"], .utf8 false),
  ("utf_8_sig", [], .utf8 true),
  ("utf_16", ["u16", "utf16"], .unit 2),
  ("utf_16_le", ["unicodelittleunmarked", "utf_16le"], .utf16 false),
  ("utf_16_be", ["unicodebigunmarked", "utf_16be"], .utf16 true),
  ("utf_32", ["u32", "utf32"], .unit 4),
  ("utf_32_le", ["utf_32le"], .utf32 false),
  ("utf_32_be", ["utf_32be"], .utf32 true),
  ("punycode", [], .punycode),
  ("unicode_escape", [], .escapes false),
  ("raw_unicode_escape", [], .escapes true),
  ("base64_codec", ["base64", "base_64"], .coding),
  ("bz2_codec", ["bz2"], .coding),
  ("hex_codec", ["hex"], .coding),
  ("quopri_codec", ["quopri", "quoted_printable", "quotedprintable"], .coding),
  ("uu_codec", ["uu"], .coding),
  ("zlib_codec", ["zip", "zlib"], .coding),
  ("rot_13", ["rot13"], .letters),
  ("idna", [], .unusable),
  ("undefined", [], .unusable)]

def all : List (String × List String × Charset) :=
  (firstPages ++ Text.alphabetPages ++ Text.olderPages).map (fun p => (p.name, p.others, .page p)) ++
    Text.PairPage.all.map (fun p => (p.name, p.others, .pairs p)) ++ others

def normalized (name : String) : String :=
  let words := Text.pieces '_' (name.toList.map fun c => if c.isAlphanum || c = '.' then c.toLower else '_')
  "_".intercalate ((words.filter fun w => !w.isEmpty).map .ofList)

def named? (name : String) : Option Charset :=
  let name := normalized name
  let plain := name.map fun c => if c = '.' then '_' else c
  let found := all.find? (fun (_, others, _) => others.contains name)
    <|> all.find? (fun (_, others, _) => others.contains plain)
    <|> all.find? (·.1 = name)
  found.map (·.2.2)

def mark : List UInt8 := [0xef, 0xbb, 0xbf]

def decodePunycode (bytes : List UInt8) : Except Malformed (List Char) :=
  let (plain, digits) := Punycode.split (bytes.map fun b => Char.ofNat b.toNat)
  match digits.findIdx? (0x80 ≤ ·.toNat), digits.find? (0x80 ≤ ·.toNat) with
  | some i, some c => .error (.undecodable ⟨.badStart, i, 1, UInt8.ofNat c.toNat⟩)
  | _, _ =>
    let text := plain.map fun c => if c.toNat < 0x80 then c else Text.replacement
    .ok ((Punycode.decodeFrom (.start (text.map Char.toNat)) 0 1 0 (digits.map Char.toLower)).1.map Char.ofNat)

def decode (charset : Charset) (bytes : List UInt8) : Except Malformed (List Char) :=
  let utf8 (bytes : List UInt8) := Text.decodeUtf8Leniently (bytes.length + 1) bytes
  match charset with
  | .page p => .ok (p.decode bytes)
  | .pairs p => .ok (p.decode bytes)
  | .gb18030 => .ok (Text.decodeGb18030 bytes)
  | .utf7 => .ok (Text.decodeUtf7 bytes)
  | .punycode => decodePunycode bytes
  | .escapes isRaw => .ok (Text.decodeEscapes isRaw bytes)
  | .utf8 dropsMark => .ok (utf8 (if dropsMark && mark.isPrefixOf bytes then bytes.drop 3 else bytes))
  | .utf16 highFirst => .ok (Text.decodeUtf16 highFirst bytes)
  | .utf32 highFirst => .ok (Text.decodeUtf32 highFirst bytes)
  | .unit width => if width ≤ bytes.length then .error .noByteOrder else .ok [Text.replacement]
  | .coding => .error .strictCoding
  | .letters => .error .notText
  | .unusable => .error .noByteOrder

end Charset

end ClientForge
