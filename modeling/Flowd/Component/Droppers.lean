import Flowd.Component.Dropping

namespace Flowd

/-! The components around such a loop: Demux3, HTMLStrip, Hasher, Sexp, RegexpExtract,
TeraTemplate, JSONQuery and HTMLQuery. -/

/-- `String::into_bytes` -/
def intoBytes (text : String) : List UInt8 := text.toUTF8.toList

namespace Demux3

inductive Out where
  | a
  | b
  | c
deriving DecidableEq, Repr

/-- The outputs are served in turn; only an accepted packet advances the turn. -/
def dropper : Dropper Nat Unit InPort Out Nat where
  inn := .inn
  reads := FbpMessage.textOrUtf8
  opening branch call := .listen FbpMessage.textOrUtf8 branch () call
  declines _ _ := false
  emit _ branch ip :=
    let port := match branch % 3 with
      | 0 => Out.a
      | 1 => Out.b
      | _ => Out.c
    some ((branch + 1) % 2 ^ 64, [(port, ip)])
  whenFull := .leave
  overflowChecks := true
  enter branch := branch
  leave _ branch := branch

def process : Nat → Call InPort Out → Nat → Outcome Nat InPort Out := dropper.process

def component : StreamComponent := dropper.stream 0

end Demux3

namespace HTMLStrip

/-- The loop of `remove_html_tags`. -/
def removeTags (insideTag insideQuotes : Bool) : List UInt8 → List UInt8
  | [] => []
  | byte :: rest =>
      if byte = 60 then removeTags true insideQuotes rest
      else if byte = 62 && !insideQuotes then removeTags false insideQuotes rest
      else if byte = 34 then removeTags insideTag (!insideQuotes) rest
      else if !insideTag then byte :: removeTags insideTag insideQuotes rest
      else removeTags insideTag insideQuotes rest

def removeHtmlTags (html : List UInt8) : List UInt8 := removeTags false false html

example : removeHtmlTags (intoBytes "<b title=\">\">a</b>c") = intoBytes "ac" := by decide +kernel

def dropper : Dropper Unit Unit InPort OutPort Unit where
  inn := .inn
  reads := FbpMessage.textOrUtf8
  opening _ call := .listen FbpMessage.textOrUtf8 () () call
  declines _ _ := false
  emit _ _ ip := some ((), [(.out, .bytes (removeHtmlTags (ip.asBytes.getD [])))])
  whenFull := .leave
  overflowChecks := true
  enter _ := ()
  leave _ _ := ()

def process : Unit → Call InPort OutPort → Nat → Outcome Unit InPort OutPort := dropper.process

def component : Component := dropper.component ()

end HTMLStrip

/-- A 64-bit hasher.  Each call to `process()` draws the seed of its own. -/
structure HashFunction where
  Hasher : Type
  buildHasher : Nat → Hasher
  write : Hasher → List UInt8 → Hasher
  finish : Hasher → UInt64

namespace Hasher

/-- `{:016x}` -/
def hex (value : UInt64) : String :=
  let digits := Nat.toDigits 16 value.toNat
  .ofList (List.replicate (16 - digits.length) '0' ++ digits)

/-- The state counts the calls; the hasher goes on over the packets of one call. -/
def dropper (hash : HashFunction) : Dropper Nat Unit InPort OutPort hash.Hasher where
  inn := .inn
  reads := FbpMessage.textOrUtf8
  opening calls call := .listen FbpMessage.textOrUtf8 (calls + 1) () call
  declines _ _ := false
  emit _ hasher ip :=
    let hasher := hash.write hasher (ip.asBytes.getD [])
    some (hasher, [(.out, .text (hex (hash.finish hasher)))])
  whenFull := .leave
  overflowChecks := true
  enter calls := hash.buildHasher calls
  leave calls _ := calls

def process (hash : HashFunction) : Nat → Call InPort OutPort → Nat → Outcome Nat InPort OutPort :=
  (dropper hash).process

def component (hash : HashFunction) : Component := (dropper hash).component 0

end Hasher

namespace Sexp

/-- A refusal finishes the component. -/
def dropper : Dropper Unit Unit InPort OutPort Unit where
  inn := .inn
  reads := FbpMessage.textOrUtf8
  opening _ call := .listen FbpMessage.textOrUtf8 () () call
  declines _ _ := false
  emit _ _ ip := some ((), [(.out, .text (trim (ip.textOrUtf8.getD "")))])
  whenFull := .finish
  overflowChecks := true
  enter _ := ()
  leave _ _ := ()

def process : Unit → Call InPort OutPort → Nat → Outcome Unit InPort OutPort := dropper.process

def component : Component := dropper.component ()

end Sexp

/-- Regular expressions.  `captures` is the first capture group of a match, where there
is a match and where it has one. -/
structure RegexEngine where
  Regex : Type
  new : String → Option Regex
  isMatch : Regex → String → Bool
  captures : Regex → String → Option (Option String)

namespace RegexpExtract

def dropper (engine : RegexEngine) :
    Dropper (Option engine.Regex) engine.Regex ConfInPort OutPort Unit where
  inn := .inn
  reads := FbpMessage.textOrUtf8
  opening regexp call := .configure FbpMessage.textOrUtf8 .conf engine.new true regexp call
  declines regexp call := Opening.declines .conf engine.new regexp call
  emit regexp _ ip :=
    let msg := match engine.captures regexp (ip.asText.getD "") with
      | some (some capture) => .text capture
      | _ => .bytes []
    some ((), [(.out, msg)])
  whenFull := .leave
  overflowChecks := true
  enter _ := ()
  leave regexp _ := regexp

def process (engine : RegexEngine) : Option engine.Regex → Call ConfInPort OutPort → Nat →
    Outcome (Option engine.Regex) ConfInPort OutPort := (dropper engine).process

def component (engine : RegexEngine) : Component := (dropper engine).component none

end RegexpExtract

/-- A template engine: `addRawTemplate` and `render`, with the packet under "ip". -/
structure TemplateEngine where
  Tera : Type
  addRawTemplate : String → Option Tera
  render : Tera → String → Option String

namespace TeraTemplate

def dropper (engine : TemplateEngine) :
    Dropper (Option engine.Tera) engine.Tera ConfInPort OutPort Unit where
  inn := .inn
  reads := FbpMessage.textOrUtf8
  opening template call := .configure FbpMessage.textOrUtf8 .conf engine.addRawTemplate true template call
  declines template call := Opening.declines .conf engine.addRawTemplate template call
  emit tera _ ip :=
    match ip.asText with
    | none => none
    | some text =>
        match engine.render tera text with
        | some rendered => some ((), [(.out, .text (trim rendered))])
        | none => some ((), [])
  whenFull := .leave
  overflowChecks := true
  enter _ := ()
  leave template _ := template

def process (engine : TemplateEngine) : Option engine.Tera → Call ConfInPort OutPort → Nat →
    Outcome (Option engine.Tera) ConfInPort OutPort := (dropper engine).process

def component (engine : TemplateEngine) : Component := (dropper engine).component none

end TeraTemplate

/-- Filters on JSON: `fromSlice` parses a packet, `run` gives the results in order, none
where one is an error. -/
structure FilterEngine where
  Filter : Type
  Json : Type
  compile : String → Option Filter
  fromSlice : List UInt8 → Option Json
  run : Filter → Json → List (Option String)

namespace JSONQuery

/-- A refusal ends the results of one packet only. -/
def dropper (engine : FilterEngine) (overflowChecks : Bool) :
    Dropper (Option engine.Filter) engine.Filter ConfInPort OutPort Unit where
  inn := .inn
  reads := FbpMessage.asText
  opening query call := .configure FbpMessage.asText .conf engine.compile true query call
  declines query call := Opening.declines .conf engine.compile query call
  emit filter _ ip :=
    match engine.fromSlice (ip.asBytes.getD []) with
    | none => some ((), [])
    | some input =>
        let values := (engine.run filter input).filterMap id
        some ((), values.map fun value => (.out, .bytes (intoBytes value)))
  whenFull := .goOn
  overflowChecks
  enter _ := ()
  leave query _ := query

def process (engine : FilterEngine) (overflowChecks : Bool) : Option engine.Filter → Call ConfInPort OutPort → Nat →
    Outcome (Option engine.Filter) ConfInPort OutPort := (dropper engine overflowChecks).process

def component (engine : FilterEngine) (overflowChecks : Bool) : Component :=
  (dropper engine overflowChecks).component none

end JSONQuery

/-- XPath queries on HTML: `apply` gives the texts of the items found. -/
structure XpathEngine where
  Xpath : Type
  Document : Type
  parse : String → Option Xpath
  parseHtml : String → Option Document
  apply : Xpath → Document → Option (List String)

namespace HTMLQuery

/-- A refusal ends the items of one packet only. -/
def dropper (engine : XpathEngine) (overflowChecks : Bool) :
    Dropper (Option engine.Xpath) engine.Xpath ConfInPort OutPort Unit where
  inn := .inn
  reads := FbpMessage.textOrUtf8
  opening query call := .configure FbpMessage.textOrUtf8 .conf engine.parse true query call
  declines query call := Opening.declines .conf engine.parse query call
  emit xpathQuery _ ip :=
    match engine.parseHtml (ip.asText.getD "") with
    | none => some ((), [])
    | some document =>
        match engine.apply xpathQuery document with
        | none => some ((), [])
        | some items => some ((), items.map fun item => (.out, .bytes (intoBytes item)))
  whenFull := .goOn
  overflowChecks
  enter _ := ()
  leave query _ := query

def process (engine : XpathEngine) (overflowChecks : Bool) : Option engine.Xpath → Call ConfInPort OutPort → Nat →
    Outcome (Option engine.Xpath) ConfInPort OutPort := (dropper engine overflowChecks).process

def component (engine : XpathEngine) (overflowChecks : Bool) : Component :=
  (dropper engine overflowChecks).component none

end HTMLQuery

end Flowd
