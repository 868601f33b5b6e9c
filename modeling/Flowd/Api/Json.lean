import Flowd.Lib.SortedMap
import Mathlib.Data.String.Basic

namespace Flowd

/-! JSON values, and how records are read out of them. -/

/-- A floating-point number is kept as its bits. -/
inductive JsonNumber where
  | integer (value : Int)
  | float (bits : UInt64)
deriving DecidableEq

inductive JsonValue where
  | null
  | bool (value : Bool)
  | number (value : JsonNumber)
  | string (value : String)
  | array (items : List JsonValue)
  | object (entries : List (String × JsonValue))

abbrev JsonMap := List (String × JsonValue)

namespace JsonNumber

def asI64 : JsonNumber → Option Int
  | integer value => if -2 ^ 63 ≤ value ∧ value < 2 ^ 63 then some value else none
  | float _ => none

def asU64 : JsonNumber → Option Nat
  | integer value => if 0 ≤ value ∧ value < 2 ^ 64 then some value.toNat else none
  | float _ => none

end JsonNumber

namespace JsonValue

def isNull : JsonValue → Bool
  | null => true
  | _ => false

def ofI32 (value : Int32) : JsonValue := .number (.integer value.toInt)

def ofU32 (value : UInt32) : JsonValue := .number (.integer value.toNat)

/-- A record is written as an object. -/
def ofFields (fields : JsonMap) : JsonValue := .object (SortedMap.ofList fields)

/-- An optional field is left out if there is no value. -/
def ofOptional (name : String) (value : Option JsonValue) : JsonMap := value.toList.map fun value => (name, value)

/-- An optional value that is not left out. -/
def ofOption {α : Type} (encode : α → JsonValue) (value : Option α) : JsonValue := (value.map encode).getD .null

def toBool : JsonValue → Option Bool
  | .bool value => some value
  | _ => none

def toText : JsonValue → Option String
  | .string value => some value
  | _ => none

def toI32 : JsonValue → Option Int32
  | .number (.integer value) => if -2 ^ 31 ≤ value ∧ value < 2 ^ 31 then some (.ofInt value) else none
  | _ => none

def toU32 : JsonValue → Option UInt32
  | .number (.integer value) => if 0 ≤ value ∧ value < 2 ^ 32 then some (.ofNat value.toNat) else none
  | _ => none

def toMap : JsonValue → Option JsonMap
  | .object entries => some entries
  | _ => none

def toList {α : Type} (decode : JsonValue → Option α) : JsonValue → Option (List α)
  | .array items => items.mapM decode
  | _ => none

/-- A field that has to be there. -/
def field {α : Type} (decode : JsonValue → Option α) (name : String) (fields : JsonMap) : Option α :=
  (SortedMap.get name fields).bind decode

def optional {α : Type} (decode : JsonValue → Option α) : Option JsonValue → Option (Option α)
  | none | some .null => some none
  | some value => (decode value).map some

/-- A field that may be missing or `null`. -/
def optionalField {α : Type} (decode : JsonValue → Option α) (name : String) (fields : JsonMap) :
    Option (Option α) := optional decode (SortedMap.get name fields)

@[simp] theorem toI32_ofI32 (value : Int32) : (ofI32 value).toI32 = some value := by
  have lower := value.le_toInt
  have upper := value.toInt_lt
  rw [ofI32, toI32, if_pos ⟨lower, upper⟩, Int32.ofInt_toInt]

@[simp] theorem toU32_ofU32 (value : UInt32) : (ofU32 value).toU32 = some value := by
  have upper := value.toNat_lt
  have range : (0 : Int) ≤ value.toNat ∧ (value.toNat : Int) < 2 ^ 32 := by omega
  rw [ofU32, toU32, if_pos range, Int.toNat_natCast, UInt32.ofNat_toNat]

@[simp] theorem toText_string (value : String) : (JsonValue.string value).toText = some value := rfl

@[simp] theorem toBool_bool (value : Bool) : (JsonValue.bool value).toBool = some value := rfl

@[simp] theorem toMap_object (entries : JsonMap) : (JsonValue.object entries).toMap = some entries := rfl

section

variable {α : Type} {encode : α → JsonValue} {decode : JsonValue → Option α}

@[simp] theorem optional_none : optional decode none = some none := rfl

theorem optional_some {value : JsonValue} (present : value.isNull = false) :
    optional decode (some value) = (decode value).map some := by
  cases value with
  | null => cases present
  | _ => rfl

@[simp] theorem optional_ofI32 (value : Int32) : optional toI32 (some (ofI32 value)) = some (some value) := by
  rw [optional_some rfl, toI32_ofI32]
  rfl

@[simp] theorem optional_ofU32 (value : UInt32) : optional toU32 (some (ofU32 value)) = some (some value) := by
  rw [optional_some rfl, toU32_ofU32]
  rfl

@[simp] theorem optional_string (value : String) : optional toText (some (.string value)) = some (some value) := rfl

@[simp] theorem optional_bool (value : Bool) : optional toBool (some (.bool value)) = some (some value) := rfl

/-- An optional value that is not left out is read as it was written. -/
theorem optional_ofOption (written : ∀ value, optional decode (some (encode value)) = some (some value))
    (value : Option α) : optional decode (some (ofOption encode value)) = some value := by
  cases value with
  | none => rfl
  | some value => exact written value

end

theorem mapM_map {α : Type} {encode : α → JsonValue} {decode : JsonValue → Option α} {items : List α}
    (inverse : ∀ item ∈ items, decode (encode item) = some item) : (items.map encode).mapM decode = some items := by
  induction items with
  | nil => rfl
  | cons head tail ih =>
      rw [List.map_cons, List.mapM_cons, inverse head List.mem_cons_self,
        ih fun item member => inverse item (List.mem_cons_of_mem _ member)]
      rfl

/-- Reading a list that was written item by item. -/
theorem toList_array {α : Type} {encode : α → JsonValue} {decode : JsonValue → Option α} {items : List α}
    (inverse : ∀ item ∈ items, decode (encode item) = some item) :
    (JsonValue.array (items.map encode)).toList decode = some items := mapM_map inverse

end JsonValue

end Flowd
