import Flowd.Lib.HashMap

namespace Flowd

/-! The messages that travel on edges, and what `process()` works with. -/

abbrev NodeId := String

/-- A reading of the monotonic clock. -/
abbrev Instant := Nat

/-- A 64-bit float is kept as its bits. -/
inductive FbpValue where
  | null
  | bool (value : Bool)
  | int (value : Int)
  | float (bits : UInt64)
  | text (value : String)
  | bytes (value : List UInt8)
  | list (values : List FbpValue)
  | map (entries : List (String × FbpValue))

inductive ControlEvent where
  | beginGroup (name : String)
  | endGroup (name : String)
  | beginBracket (name : String)
  | endBracket (name : String)
  | disconnect
  | drain
  | discontinuity
  | custom (name : String) (value : Option FbpValue)

structure GraphNodeSpecNetwork where
  node : String
  port : String
  index : Option String
deriving DecidableEq, Repr

structure TraceDataEventPayload where
  id : String
  src : GraphNodeSpecNetwork
  tgt : GraphNodeSpecNetwork
  graph : String
  data : String
deriving DecidableEq, Repr

structure TraceConnectEventPayload where
  id : String
  src : GraphNodeSpecNetwork
  tgt : GraphNodeSpecNetwork
  graph : String
deriving DecidableEq, Repr

structure TraceDisconnectEventPayload where
  id : String
  src : GraphNodeSpecNetwork
  tgt : GraphNodeSpecNetwork
  graph : String
deriving DecidableEq, Repr

inductive FbpMessage where
  | bytes (data : List UInt8)
  | text (data : String)
  | value (data : FbpValue)
  | control (data : ControlEvent)
  | traceData (data : TraceDataEventPayload)
  | traceConnect (data : TraceConnectEventPayload)
  | traceDisconnect (data : TraceDisconnectEventPayload)

instance : Inhabited FbpMessage := ⟨.text ""⟩

def isNan (bits : UInt64) : Bool :=
  bits.toNat / 2 ^ 52 % 2 ^ 11 == 2047 && bits.toNat % 2 ^ 52 != 0

/-- Equality of 64-bit floats: a NaN equals nothing, the two zeros are equal. -/
def floatEq (left right : UInt64) : Bool :=
  !isNan left && !isNan right &&
    (left == right || left.toNat % 2 ^ 63 == 0 && right.toNat % 2 ^ 63 == 0)

namespace FbpValue

def get (key : String) : List (String × FbpValue) → Option FbpValue
  | [] => none
  | (name, value) :: rest => if name = key then some value else get key rest

mutual
def eq : FbpValue → FbpValue → Bool
  | .null, .null => true
  | .bool left, .bool right => left == right
  | .int left, .int right => left == right
  | .float left, .float right => floatEq left right
  | .text left, .text right => left == right
  | .bytes left, .bytes right => left == right
  | .list left, .list right => listEq left right
  | .map left, .map right => left.length == right.length && entriesEq left right
  | _, _ => false

def listEq : List FbpValue → List FbpValue → Bool
  | [], [] => true
  | left :: lefts, right :: rights => eq left right && listEq lefts rights
  | _, _ => false

def entriesEq : List (String × FbpValue) → List (String × FbpValue) → Bool
  | [], _ => true
  | (key, value) :: rest, other =>
      (match get key other with
        | some found => eq value found
        | none => false) && entriesEq rest other
end

instance : BEq FbpValue := ⟨eq⟩

end FbpValue

namespace ControlEvent

def eq : ControlEvent → ControlEvent → Bool
  | .beginGroup left, .beginGroup right => left == right
  | .endGroup left, .endGroup right => left == right
  | .beginBracket left, .beginBracket right => left == right
  | .endBracket left, .endBracket right => left == right
  | .disconnect, .disconnect => true
  | .drain, .drain => true
  | .discontinuity, .discontinuity => true
  | .custom left leftValue, .custom right rightValue => left == right && leftValue == rightValue
  | _, _ => false

instance : BEq ControlEvent := ⟨eq⟩

end ControlEvent

/-- `std::str::from_utf8` -/
def fromUtf8 (bytes : List UInt8) : Option String :=
  String.fromUTF8? ⟨bytes.toArray⟩

/-- `to_ascii_lowercase` -/
def toAsciiLowercase (text : String) : String := .ofList (text.toList.map Char.toLower)

/-- `to_ascii_uppercase` -/
def toAsciiUppercase (text : String) : String := .ofList (text.toList.map Char.toUpper)

/-- `eq_ignore_ascii_case` -/
def eqIgnoreAsciiCase (left right : String) : Bool := toAsciiLowercase left == toAsciiLowercase right

/-- `str::starts_with`, `str::ends_with` and `str::contains` for a pattern that is a string. -/
def startsWith (text pattern : String) : Bool := pattern.toList.isPrefixOf text.toList
def endsWith (text pattern : String) : Bool := pattern.toList.isSuffixOf text.toList
def contains (text pattern : String) : Bool := text.toList.tails.any pattern.toList.isPrefixOf

/-- `str::split` at a character. -/
def split (text : String) (separator : Char) : List String :=
  (text.toList.splitOn separator).map String.ofList

/-- `char::is_whitespace`: the Unicode property White_Space. -/
def isWhitespace (char : Char) : Bool :=
  let code := char.toNat
  9 ≤ code && code ≤ 13 || code == 32 || code == 0x85 || code == 0xA0 || code == 0x1680 ||
    0x2000 ≤ code && code ≤ 0x200A || code == 0x2028 || code == 0x2029 || code == 0x202F ||
    code == 0x205F || code == 0x3000

/-- `str::trim` -/
def trim (text : String) : String :=
  .ofList ((text.toList.dropWhile isWhitespace).reverse.dropWhile isWhitespace).reverse

namespace FbpMessage

/-- The derived `PartialEq`. -/
def eq : FbpMessage → FbpMessage → Bool
  | .bytes left, .bytes right => left == right
  | .text left, .text right => left == right
  | .value left, .value right => left == right
  | .control left, .control right => left == right
  | .traceData left, .traceData right => left == right
  | .traceConnect left, .traceConnect right => left == right
  | .traceDisconnect left, .traceDisconnect right => left == right
  | _, _ => false

instance : BEq FbpMessage := ⟨eq⟩

def asBytes : FbpMessage → Option (List UInt8)
  | .bytes data => some data
  | _ => none

def asText : FbpMessage → Option String
  | .text data => some data
  | _ => none

/-- `message.as_text().or_else(|| message.as_bytes().and_then(from_utf8))` -/
def textOrUtf8 (message : FbpMessage) : Option String :=
  message.asText.orElse fun _ => message.asBytes.bind fromUtf8

/-- `message_as_utf8` of the components that also look into values. -/
def messageAsUtf8 : FbpMessage → Option String
  | .text data => some data
  | .bytes data => fromUtf8 data
  | .value (.text data) => some data
  | .value (.bytes data) => fromUtf8 data
  | _ => none

/-- Bytes, text or a value. -/
def isData : FbpMessage → Bool
  | .bytes _ | .text _ | .value _ => true
  | _ => false

end FbpMessage

inductive ProcessResult where
  | didWork (units : Nat)
  | noWork
  | finished
deriving DecidableEq, Repr

/-- What `catch_unwind(component.process(context))` came back with. -/
inductive Returned where
  | result (result : ProcessResult)
  | panicked
deriving DecidableEq, Repr

inductive BudgetClass where
  | normal
  | heavy
  | realtime
deriving DecidableEq, Repr

/-- `budget_class as u32` -/
def BudgetClass.units : BudgetClass → Nat
  | .normal => 32
  | .heavy => 8
  | .realtime => 96

theorem BudgetClass.units_pos (budgetClass : BudgetClass) : 0 < budgetClass.units := by
  cases budgetClass <;> decide

end Flowd
