import Flowd.Component.Droppers

namespace Flowd

/-! EmailParser: raw mails become JSON with headers and bodies. -/

namespace EmailParser

structure EmailParserConfig where
  extractHeaders : List String
  preferTextBody : Bool
  includeHtmlBody : Bool

structure BodyPart where
  contentType : String
  content : String

structure ParsedEmail where
  headers : HashMap String String
  bodyText : Option String
  bodyHtml : Option String
  rawSize : Nat

structure MailHeader where
  key : String
  value : String

/-- What the mail parser makes of a mail; `bodyRaw` is none if the body cannot be decoded. -/
inductive ParsedMail where
  | mk (headers : List MailHeader) (mimetype : String) (bodyRaw : Option (List UInt8)) (subparts : List ParsedMail)

def ParsedMail.headers : ParsedMail → List MailHeader
  | .mk headers _ _ _ => headers

/-- `parseConfig` and `toString` are the derived `Deserialize` and `Serialize`. -/
structure MailEngine where
  parseMail : List UInt8 → Option ParsedMail
  parseConfig : String → Option EmailParserConfig
  toString : ParsedEmail → Option String

/-- The body of one part.  Lower-casing beyond ASCII does not produce or remove a letter
of "attachment". -/
def ownBody (headers : List MailHeader) (mimetype : String) (bodyRaw : Option (List UInt8)) : List BodyPart :=
  match bodyRaw.bind fromUtf8 with
  | none => []
  | some content =>
      let disposition := headers.find? fun header => eqIgnoreAsciiCase header.key "Content-Disposition"
      let isAttachment := disposition.any fun header => contains (toAsciiLowercase header.value) "attachment"
      if !isAttachment && startsWith mimetype "text/" then [⟨mimetype, content⟩] else []

mutual
def extractBodies : ParsedMail → List BodyPart
  | .mk headers mimetype bodyRaw subparts => ownBody headers mimetype bodyRaw ++ extractAll subparts

def extractAll : List ParsedMail → List BodyPart
  | [] => []
  | subpart :: rest => extractBodies subpart ++ extractAll rest
end

/-- The text body and the HTML body. -/
def selectBodies (parts : List BodyPart) (config : EmailParserConfig) : Option String × Option String :=
  let textParts := (parts.filter fun part => part.contentType == "text/plain").map BodyPart.content
  let htmlParts := (parts.filter fun part => part.contentType == "text/html").map BodyPart.content
  let text := "\n".intercalate textParts
  let html := "\n".intercalate htmlParts
  match textParts.isEmpty, htmlParts.isEmpty with
  | false, false =>
      if config.preferTextBody then (some text, if config.includeHtmlBody then some html else none)
      else (if config.includeHtmlBody then some text else none, some html)
  | false, true => (some text, none)
  | true, false => (none, some html)
  | true, true => (none, none)

/-- The first header of each wanted name. -/
def extractHeaders (wanted : List String) (headers : List MailHeader) : HashMap String String :=
  wanted.foldl (fun found name =>
    match headers.find? fun header => eqIgnoreAsciiCase header.key name with
    | some header => AList.insert name header.value found
    | none => found) ∅

variable (engine : MailEngine)

def parseEmail (emailBytes : List UInt8) (config : EmailParserConfig) : Option ParsedEmail :=
  (engine.parseMail emailBytes).map fun mail =>
    let (bodyText, bodyHtml) := selectBodies (extractBodies mail) config
    { headers := extractHeaders config.extractHeaders mail.headers
      bodyText
      bodyHtml
      rawSize := emailBytes.length }

/-- A mail that cannot be parsed is passed over. -/
def dropper : Dropper (Option EmailParserConfig) EmailParserConfig ConfInPort OutPort Unit where
  inn := .inn
  reads := FbpMessage.textOrUtf8
  opening config call := .configure FbpMessage.textOrUtf8 .conf engine.parseConfig false config call
  declines config call := Opening.declines .conf engine.parseConfig config call
  emit config _ ip :=
    match (parseEmail engine (ip.asBytes.getD []) config).bind engine.toString with
    | some jsonStr => some ((), [(.out, .text jsonStr)])
    | none => some ((), [])
  whenFull := .leave
  overflowChecks := true
  enter _ := ()
  leave config _ := config

def process : Option EmailParserConfig → Call ConfInPort OutPort → Nat →
    Outcome (Option EmailParserConfig) ConfInPort OutPort := (dropper engine).process

def component : Component := (dropper engine).component none

end EmailParser

end Flowd
