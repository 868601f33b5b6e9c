import Flowd.Http.Parser
import Flowd.Lib.Utf8

namespace Flowd

/-! The packets of the servers for several clients: the number of a client, a colon and data. -/

/-- `String::from_utf8_lossy` -/
def fromUtf8Lossy (bytes : List UInt8) : String := .ofList (Utf8.lossy bytes)

/-- `str::parse::<u32>` -/
def parseU32 (text : String) : Option Nat := (Http.fromStrRadix 10 text).filter (· < 2 ^ 32)

/-- The client that a packet is for, and the data: what stands before the first colon of the
text is looked up in the text, what stands behind it is cut from the bytes. -/
def parseFrame (bytes : List UInt8) : Option (Nat × List UInt8) :=
  (Http.splitOnce (fromUtf8Lossy bytes) ':').bind fun (clientId, _) =>
    (parseU32 clientId).map fun target => (target, bytes.drop ((intoBytes clientId).length + 1))

/-- The packet for data that a client has sent. -/
def framed (clientId : Nat) (data : List UInt8) : String := toString clientId ++ ":" ++ fromUtf8Lossy data

/-- The data in the packets for a client. -/
def dataOf (clientId : Nat) (packets : List (List UInt8)) : List UInt8 :=
  packets.flatMap fun packet =>
    match parseFrame packet with
    | some (target, data) => if target = clientId then data else []
    | none => []

section
variable {clientId target : Nat} {data packet bytes : List UInt8} {text : String} {front back : List Char}

theorem intoBytes_eq (text : String) : intoBytes text = Utf8.encode text.toList := Utf8.toUTF8_toList text

theorem fromUtf8_eq_some (read : fromUtf8 bytes = some text) : bytes = Utf8.encode text.toList := by
  have same : (⟨bytes.toArray⟩ : ByteArray) = bytes.toByteArray := ByteArray.ext (by simp)
  rw [fromUtf8, same] at read
  exact Utf8.fromUTF8_toList read

/-- A text that is valid is not changed. -/
theorem encode_fromUtf8Lossy (valid : (fromUtf8 bytes).isSome = true) : intoBytes (fromUtf8Lossy bytes) = bytes := by
  obtain ⟨text, read⟩ := Option.isSome_iff_exists.mp valid
  have encoded := fromUtf8_eq_some read
  have lossy := Utf8.lossy_encode text.toList []
  rw [List.append_nil, ← encoded] at lossy
  rw [intoBytes_eq, fromUtf8Lossy, String.toList_ofList, lossy, encoded]
  exact congrArg Utf8.encode (List.append_nil _)

theorem splitOnce_append {separator : Char} (whole : text.toList = front ++ separator :: back) (absent : separator ∉ front) :
    Http.splitOnce text separator = some (.ofList front, .ofList back) := by
  have position : text.toList.findIdx? (· == separator) = some front.length := by
    rw [whole, List.findIdx?_append, List.findIdx?_eq_none_iff.mpr]
    · simp [List.findIdx?_cons]
    · intro char member
      exact beq_eq_false_iff_ne.mpr fun same => absent (same ▸ member)
  rw [Http.splitOnce, position, whole]
  simp

theorem splitOnce_eq_some {separator : Char} {left right : String}
    (split : Http.splitOnce text separator = some (left, right)) :
    text.toList = left.toList ++ separator :: right.toList ∧ separator ∉ left.toList := by
  obtain ⟨position, found, same⟩ := Option.map_eq_some_iff.mp split
  obtain ⟨inside, here, before⟩ := List.findIdx?_eq_some_iff_getElem.mp found
  cases same
  rw [String.toList_ofList, String.toList_ofList]
  constructor
  · have char : text.toList[position] = separator := by simpa using here
    rw [← char, ← List.drop_eq_getElem_cons inside, List.take_append_drop]
  · intro member
    obtain ⟨index, short, same⟩ := List.mem_iff_getElem.mp member
    rw [List.length_take] at short
    refine before index (by omega) ?_
    rw [List.getElem_take] at same
    simpa using same

theorem splitOnce_eq_none {separator : Char} (whole : Http.splitOnce text separator = none) : separator ∉ text.toList := by
  intro member
  have absent := List.findIdx?_eq_none_iff.mp (Option.map_eq_none_iff.mp whole) separator member
  simp at absent

theorem digitOf_digitChar (digit : Nat) (small : digit < 10) : Http.digitOf digit.digitChar = digit := by
  revert digit
  decide

theorem foldlM_toDigits (value : Nat) (small : value < 2 ^ 64) :
    (Nat.toDigits 10 value).foldlM (fun value char =>
      let next := value * 10 + Http.digitOf char
      if Http.digitOf char < 10 ∧ next < 2 ^ 64 then some next else none) 0 = some value := by
  induction value using Nat.strongRecOn with
  | _ value ih =>
      rw [Nat.toDigits_eq_if (by decide)]
      split
      · next digit =>
          have read := digitOf_digitChar value digit
          simpa [read, digit] using small
      · next large =>
          have quotient := ih (value / 10) (by omega) (by omega)
          have digit : value % 10 < 10 := Nat.mod_lt _ (by decide)
          have read := digitOf_digitChar (value % 10) digit
          have whole : value / 10 * 10 + value % 10 = value := by omega
          rw [List.foldlM_append, quotient]
          simpa [read, whole, digit] using small

theorem isDigit_of_mem (clientId : Nat) : ∀ char ∈ (toString clientId).toList, char.isDigit = true := by
  intro char member
  rw [Nat.toString_eq_ofList_toDigits, String.toList_ofList] at member
  exact Nat.isDigit_of_mem_toDigits (by decide) (by decide) member

/-- The number of a client is read as what was printed. -/
theorem parseU32_toString (small : clientId < 2 ^ 32) : parseU32 (toString clientId) = some clientId := by
  have unsigned : ∀ rest, (toString clientId).toList ≠ '+' :: rest := by
    intro rest same
    have digit := isDigit_of_mem clientId '+' (by rw [same]; exact List.mem_cons_self)
    cases digit
  have digits : (toString clientId).toList = Nat.toDigits 10 clientId := by
    rw [Nat.toString_eq_ofList_toDigits, String.toList_ofList]
  have read : Http.fromStrRadix 10 (toString clientId) = some clientId := by
    unfold Http.fromStrRadix
    split
    · next rest same => exact absurd same (unsigned rest)
    · dsimp only
      rw [digits, if_neg (by simp [Nat.toDigits_ne_nil])]
      exact foldlM_toDigits clientId (by omega)
  rw [parseU32, read, Option.filter_some, if_pos (by simpa using small)]

theorem parseFrame_framed (small : clientId < 2 ^ 32) (data : List UInt8) :
    parseFrame (intoBytes (toString clientId) ++ 58 :: data) = some (clientId, data) := by
  have colon : (58 :: data : List UInt8) = String.utf8EncodeChar ':' ++ data := rfl
  have text : (fromUtf8Lossy (intoBytes (toString clientId) ++ 58 :: data)).toList =
      (toString clientId).toList ++ ':' :: Utf8.lossy data := by
    rw [fromUtf8Lossy, String.toList_ofList, intoBytes_eq, Utf8.lossy_encode, colon, Utf8.lossy_encodeChar]
  have absent : ':' ∉ (toString clientId).toList := by
    intro member
    cases isDigit_of_mem clientId _ member
  rw [parseFrame, splitOnce_append text absent, String.ofList_toList, Option.bind_some]
  dsimp only
  rw [parseU32_toString small, Option.map_some, ← List.drop_drop, List.drop_left]
  rfl

/-- What is read as a number has no replacement character. -/
theorem genuine_of_parseU32 (read : parseU32 text = some target) : Utf8.replacementCharacter ∉ text.toList := by
  have digits (chars : List Char) (start value : Nat)
      (folded : chars.foldlM (fun value char =>
        let next := value * 10 + Http.digitOf char
        if Http.digitOf char < 10 ∧ next < 2 ^ 64 then some next else none) start = some value) :
      Utf8.replacementCharacter ∉ chars := by
    induction chars generalizing start with
    | nil => exact List.not_mem_nil
    | cons char rest ih =>
        rw [List.foldlM_cons] at folded
        obtain ⟨next, step, later⟩ := Option.bind_eq_some_iff.mp folded
        rw [List.mem_cons, not_or]
        refine ⟨?_, ih next later⟩
        rintro rfl
        simp [show ¬ Http.digitOf Utf8.replacementCharacter < 10 by decide] at step
  obtain ⟨parsed, _⟩ := Option.filter_eq_some_iff.mp read
  unfold Http.fromStrRadix at parsed
  split at parsed
  · next rest same =>
      dsimp only at parsed
      split at parsed
      · cases parsed
      · rw [same, List.mem_cons, not_or]
        exact ⟨by decide, digits _ _ _ parsed⟩
  · dsimp only at parsed
    split at parsed
    · cases parsed
    · exact digits _ _ _ parsed

/-- The cut lies behind the colon: the slice does not go out of bounds. -/
theorem parseFrame_split (parsed : parseFrame packet = some (target, data)) :
    ∃ clientId, packet = intoBytes clientId ++ 58 :: data ∧ parseU32 clientId = some target := by
  obtain ⟨⟨clientId, later⟩, split, mapped⟩ := Option.bind_eq_some_iff.mp parsed
  obtain ⟨number, read, same⟩ := Option.map_eq_some_iff.mp mapped
  cases same
  obtain ⟨whole, _⟩ := splitOnce_eq_some split
  rw [fromUtf8Lossy, String.toList_ofList] at whole
  obtain ⟨rest, bytes, remaining⟩ := Utf8.lossy_eq_append whole (genuine_of_parseU32 read)
  obtain ⟨behind, colon, _⟩ := Utf8.lossy_eq_cons remaining (by decide)
  have cut : packet = intoBytes clientId ++ 58 :: behind := by
    rw [bytes, colon, intoBytes_eq]
    rfl
  refine ⟨clientId, ?_, read⟩
  rw [cut, ← List.drop_drop, List.drop_left]
  rfl

@[simp] theorem dataOf_append (clientId : Nat) (packets more : List (List UInt8)) :
    dataOf clientId (packets ++ more) = dataOf clientId packets ++ dataOf clientId more := List.flatMap_append

theorem dataOf_singleton (parsed : parseFrame packet = some (target, data)) (clientId : Nat) :
    dataOf clientId [packet] = if target = clientId then data else [] := by
  simp [dataOf, parsed]

theorem dataOf_frame (small : clientId < 2 ^ 32) (frame : packet = intoBytes (toString clientId) ++ 58 :: data)
    (other : Nat) : dataOf other [packet] = if clientId = other then data else [] :=
  dataOf_singleton (frame ▸ parseFrame_framed small data) other

theorem dataOf_unframed (unframed : parseFrame packet = none) (clientId : Nat) : dataOf clientId [packet] = [] := by
  simp [dataOf, unframed]

example : parseFrame (intoBytes "7:a:b") = some (7, intoBytes "a:b") := by decide +kernel

end

end Flowd
