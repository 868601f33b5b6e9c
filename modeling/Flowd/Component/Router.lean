import Flowd.Component.Droppers

namespace Flowd

/-! GenericRouter: packets go to the port that the first matching rule names. -/

namespace GenericRouter

structure RoutingRule where
  field : String
  operator : String
  value : String
  outputPort : String

structure RouterConfig where
  rules : List RoutingRule
  defaultOutput : Option String

inductive RuleOperator (Regex : Type) where
  | equals
  | contains
  | regex (regex : Regex)
  | startsWith
  | endsWith

structure CompiledRule (Regex : Type) where
  field : String
  operator : RuleOperator Regex
  value : String
  outputPort : String

/-- `serde_json::Value`; a number is kept as it is written. -/
inductive Json where
  | null
  | bool (value : Bool)
  | number (digits : String)
  | string (text : String)
  | array (values : List Json)
  | object (entries : List (String × Json))

namespace Json

def asStr : Json → Option String
  | .string text => some text
  | _ => none

/-- One step of `get_nested_field`. -/
def member (value : Json) (part : String) : Json :=
  match value with
  | .object entries => ((entries.find? fun entry => entry.1 == part).map Prod.snd).getD .null
  | _ => .null

end Json

def getNestedField (value : Json) (fieldPath : String) : Json :=
  (split fieldPath '.').foldl Json.member value

/-- `fromStr` is the JSON parser and `parseConfig` the derived `Deserialize`. -/
structure Serde where
  fromStr : String → Option Json
  parseConfig : String → Option RouterConfig

section
variable (engine : RegexEngine)

def compileRule (rule : RoutingRule) : Option (CompiledRule engine.Regex) :=
  let operator : Option (RuleOperator engine.Regex) := match rule.operator with
    | "equals" => some .equals
    | "contains" => some .contains
    | "regex" => (engine.new rule.value).map .regex
    | "starts_with" => some .startsWith
    | "ends_with" => some .endsWith
    | _ => none
  operator.map fun operator => ⟨rule.field, operator, rule.value, rule.outputPort⟩

def compileRules (rules : List RoutingRule) : Option (List (CompiledRule engine.Regex)) :=
  rules.mapM (compileRule engine)

def evaluateTextCondition (text : String) (rule : CompiledRule engine.Regex) : Bool :=
  match rule.operator with
  | .equals => text == rule.value
  | .contains => contains text rule.value
  | .regex regex => engine.isMatch regex text
  | .startsWith => startsWith text rule.value
  | .endsWith => endsWith text rule.value

def evaluateCondition (jsonValue : Json) (rule : CompiledRule engine.Regex) : Bool :=
  evaluateTextCondition engine ((getNestedField jsonValue rule.field).asStr.getD "") rule

variable (serde : Serde)

/-- What the component keeps of its configuration. -/
structure Config where
  config : RouterConfig
  compiledRules : List (CompiledRule engine.Regex)

def configure (confText : String) : Option (Config engine) :=
  match serde.parseConfig confText with
  | none => none
  | some config => (compileRules engine config.rules).map fun compiled => ⟨config, compiled⟩

def routeMessage (conf : Config engine) (inputText : String) : String :=
  let matching := match serde.fromStr inputText with
    | some jsonValue => conf.compiledRules.find? (evaluateCondition engine jsonValue)
    | none => conf.compiledRules.find? fun rule =>
        rule.field == "content" && evaluateTextCondition engine inputText rule
  match matching with
  | some rule => rule.outputPort
  | none => conf.config.defaultOutput.getD "default"

/-- `outPorts` are the names of the connected ports.  A packet for another port is
passed over. -/
def dropper (outPorts : List String) : Dropper (Option (Config engine)) (Config engine) ConfInPort String Unit where
  inn := .inn
  reads := FbpMessage.textOrUtf8
  opening conf call := .configure FbpMessage.textOrUtf8 .conf (configure engine serde) false conf call
  declines conf call := Opening.declines .conf (configure engine serde) conf call
  emit conf _ ip :=
    let inputText := ip.asText.getD ""
    let outputPort := routeMessage engine serde conf inputText
    some ((), if outputPort ∈ outPorts then [(outputPort, .text inputText)] else [])
  whenFull := .leave
  overflowChecks := true
  enter _ := ()
  leave conf _ := conf

def process (outPorts : List String) : Option (Config engine) → Call ConfInPort String → Nat →
    Outcome (Option (Config engine)) ConfInPort String := (dropper engine serde outPorts).process

def component (outPorts : List String) : Component := (dropper engine serde outPorts).component none

end

end GenericRouter

end Flowd
