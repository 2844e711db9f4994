import ClientForge.Address.Host
import ClientForge.Source.Charset
import ClientForge.Source.Content
import ClientForge.Source.MediaType
import ClientForge.World

/-!
Getting the description of an interface from where it is: a file, an address, or the input of the run.
-/

namespace ClientForge

inductive Source
  | input
  | address (url : String)
  | file (name : String)
deriving DecidableEq, Repr

namespace Source

def ofText (s : String) : Source :=
  if s = "-" then .input
  else if s.startsWith "http://" || s.startsWith "https://" then .address s
  else .file s

def formatOfName (name : String) : Format :=
  match (Path.ending ((Path.names name).getLast?.getD "")).toLower with
  | ".json" => .json
  | ".yaml" => .yaml
  | ".yml" => .yaml
  | _ => .unknown

def formatOfMediaType (mediaType : String) : Format :=
  if mediaType.mentions "json" then .json
  else if mediaType.mentions "yaml" || mediaType.mentions "yml" then .yaml
  else .unknown

def readBytes (format : Format) (vacant : DescriptionFault) (bytes : List UInt8) : Except Failure Document := do
  let content ← (World.textOf bytes).mapError fun fault => .malformed (.undecodable fault)
  if content.isVacant then throw (.description vacant)
  Content.read format content

def bodyText (mediaType : String) (body : List UInt8) : Except Malformed String :=
  let charset := ((MediaType.charset? mediaType).bind Charset.named?).getD (.utf8 false)
  if body.isEmpty then .ok "" else .ofList <$> charset.decode body

def readReply (url : String) : Reply → Except Failure Document
  | .failure reason => .error (.description (.unreachable url reason))
  | .badAddress => .error (.malformed (.address .illFormed))
  | .cookieConflict => .error (.malformed .cookieConflict)
  | .brokenStream => .error (.malformed .brokenStream)
  | .unexplained => .error (.malformed .unexplainedReply)
  | .answer status mediaType body => do
    let mediaType := mediaType.getD ""
    if mediaType.toList.any (0x80 ≤ ·.toNat) then throw (.malformed .headerNotAscii)
    if status < 200 || 300 ≤ status then throw (.description (.status status url))
    Content.read (formatOfMediaType mediaType) (← bodyText mediaType body)

def load (w : World) : Source → Except Failure Document
  | .input => readBytes .unknown .noInput w.input
  | .address url => do
    (Address.check url).mapError fun fault => .malformed (.address fault)
    readReply url (w.request url)
  | .file name => do
    match ← w.read name with
    | none => throw (.description (.missingFile name))
    | some bytes => readBytes (formatOfName name) (.emptyFile name) bytes

end Source

end ClientForge
