import Mathlib

namespace Flowd

/-! UTF-8 over lists of bytes: the encoding of a text, and the decoding that puts a replacement
character where the bytes are no text. -/

namespace Utf8

/-- U+FFFD -/
def replacementCharacter : Char := Char.ofNat 0xFFFD

def encode (text : List Char) : List UInt8 := text.flatMap String.utf8EncodeChar

/-- The character at the front, if the bytes begin with the encoding of one. -/
def decodeChar (bytes : List UInt8) : Option Char := bytes.toByteArray.utf8DecodeChar? 0

def between (low high byte : UInt8) : Bool := low ≤ byte && byte ≤ high

def isContinuation (byte : UInt8) : Bool := between 0x80 0xBF byte

/-- The two bytes begin a character of three. -/
def beginsThree (lead second : UInt8) : Bool :=
  lead == 0xE0 && between 0xA0 0xBF second || between 0xE1 0xEC lead && isContinuation second ||
    lead == 0xED && between 0x80 0x9F second || between 0xEE 0xEF lead && isContinuation second

/-- The two bytes begin a character of four. -/
def beginsFour (lead second : UInt8) : Bool :=
  lead == 0xF0 && between 0x90 0xBF second || between 0xF1 0xF3 lead && isContinuation second ||
    lead == 0xF4 && between 0x80 0x8F second

/-- How many bytes become one replacement character: the longest beginning of a character, or
one byte. -/
def illFormed : List UInt8 → Nat
  | lead :: second :: rest =>
      if beginsThree lead second then 2
      else if beginsFour lead second then if rest.head?.any isContinuation then 3 else 2
      else 1
  | _ => 1

/-- `rounds` bounds the number of characters. -/
def lossyChars : Nat → List UInt8 → List Char
  | 0, _ => []
  | _, [] => []
  | rounds + 1, bytes =>
      match decodeChar bytes with
      | some char => char :: lossyChars rounds (bytes.drop char.utf8Size)
      | none => replacementCharacter :: lossyChars rounds (bytes.drop (illFormed bytes))

/-- No character takes less than a byte. -/
def lossy (bytes : List UInt8) : List Char := lossyChars bytes.length bytes

variable {char : Char} {bytes rest : List UInt8} {text front back : List Char}

theorem toList_loop (array : ByteArray) (index : Nat) (front : List UInt8) :
    ByteArray.toList.loop array index front = front.reverse ++ array.data.toList.drop index := by
  fun_induction ByteArray.toList.loop array index front with
  | case1 index front inside ih =>
      have inside : index < array.data.toList.length := by simpa using inside
      have byte : array.get! index = array.data.toList[index] := by
        unfold ByteArray.get!
        rw [Array.getElem_toList]
        exact getElem!_pos array.data index _
      rw [ih, List.drop_eq_getElem_cons inside, byte, List.reverse_cons, List.append_assoc]
      rfl
  | case2 index front outside =>
      have outside : array.data.toList.length ≤ index := by simpa using outside
      rw [List.drop_eq_nil_of_le outside, List.append_nil]

/-- The bytes of a text. -/
theorem toUTF8_toList (text : String) : text.toUTF8.toList = encode text.toList := by
  have data := congrArg (fun array : ByteArray => array.data.toList) (show text.toList.utf8Encode = text.toByteArray from String.utf8Encode_toList)
  rw [ByteArray.toList, toList_loop]
  simpa [List.utf8Encode, encode] using data.symm

theorem fromUTF8_toList {text : String} (read : String.fromUTF8? bytes.toByteArray = some text) :
    bytes = encode text.toList := by
  unfold String.fromUTF8? at read
  split at read
  · have data := congrArg (fun text : String => text.toByteArray.data.toList) (Option.some_inj.mp read)
    rw [← toUTF8_toList, ByteArray.toList, toList_loop, String.toUTF8_eq_toByteArray]
    simpa [String.fromUTF8] using data
  · cases read

theorem encode_cons (char : Char) (text : List Char) :
    encode (char :: text) = String.utf8EncodeChar char ++ encode text := List.flatMap_cons

@[simp] theorem encode_append (front back : List Char) : encode (front ++ back) = encode front ++ encode back :=
  List.flatMap_append

theorem illFormed_pos (bytes : List UInt8) : 0 < illFormed bytes := by
  unfold illFormed
  split
  · split
    · decide
    · split
      · split <;> decide
      · decide
  · decide

theorem decodeChar_encode (char : Char) (rest : List UInt8) :
    decodeChar (String.utf8EncodeChar char ++ rest) = some char := by
  rw [decodeChar, List.toByteArray_append]
  exact ByteArray.utf8DecodeChar?_utf8EncodeChar_append

theorem decodeChar_eq_some (decoded : decodeChar bytes = some char) :
    ∃ rest, bytes = String.utf8EncodeChar char ++ rest := by
  obtain ⟨rest, split⟩ := ByteArray.exists_of_utf8DecodeChar?_eq_some decoded
  refine ⟨rest.data.toList, ?_⟩
  have data := congrArg (fun array : ByteArray => array.data.toList) split
  simpa using data

/-- More rounds than bytes make no difference. -/
theorem lossyChars_congr {rounds more : Nat} (enough : bytes.length ≤ rounds) (plenty : bytes.length ≤ more) :
    lossyChars rounds bytes = lossyChars more bytes := by
  induction rounds generalizing bytes more with
  | zero =>
      rw [List.length_eq_zero_iff.mp (Nat.le_zero.mp enough)]
      cases more <;> rfl
  | succ rounds ih =>
      cases bytes with
      | nil => cases more <;> rfl
      | cons byte rest =>
          cases more with
          | zero => cases plenty
          | succ more =>
              have shorter (size : Nat) (positive : 0 < size) :
                  lossyChars rounds ((byte :: rest).drop size) = lossyChars more ((byte :: rest).drop size) := by
                apply ih <;> rw [List.length_drop] <;> omega
              unfold lossyChars
              cases decodeChar (byte :: rest) with
              | none => exact congrArg (List.cons _) (shorter _ (illFormed_pos _))
              | some char => exact congrArg (List.cons _) (shorter _ char.utf8Size_pos)

theorem lossy_encodeChar (char : Char) (rest : List UInt8) :
    lossy (String.utf8EncodeChar char ++ rest) = char :: lossy rest := by
  have size := String.length_utf8EncodeChar char
  have positive := char.utf8Size_pos
  unfold lossy
  rw [List.length_append, size]
  obtain ⟨rounds, more⟩ := Nat.exists_eq_add_of_lt (Nat.add_pos_left positive rest.length)
  rw [more, Nat.zero_add]
  cases encoded : String.utf8EncodeChar char ++ rest with
  | nil => simp [String.utf8EncodeChar_ne_nil] at encoded
  | cons byte bytes =>
      rw [← encoded, lossyChars, decodeChar_encode]
      · dsimp only
        rw [← size, List.drop_left]
        exact congrArg (List.cons char) (lossyChars_congr (by omega) (Nat.le_refl _))
      · simp [String.utf8EncodeChar_ne_nil]

/-- Where no character begins, a replacement character stands for some bytes. -/
theorem lossy_illFormed (something : bytes ≠ []) (undecoded : decodeChar bytes = none) :
    lossy bytes = replacementCharacter :: lossy (bytes.drop (illFormed bytes)) := by
  cases bytes with
  | nil => exact absurd rfl something
  | cons byte rest =>
      have positive := illFormed_pos (byte :: rest)
      have total : (byte :: rest).length = rest.length + 1 := rfl
      rw [lossy, total, lossyChars, undecoded]
      · refine congrArg (List.cons _) (lossyChars_congr ?_ (Nat.le_refl _))
        rw [List.length_drop]
        omega
      · exact something

/-- No character begins with these two bytes. -/
theorem lossy_invalid {byte : UInt8} (invalid : byte = 0xFE ∨ byte = 0xFF) (rest : List UInt8) :
    lossy (byte :: rest) = replacementCharacter :: lossy rest := by
  have undecoded : decodeChar (byte :: rest) = none := by
    have size : 0 < (byte :: rest).toByteArray.size := by simp
    have first : (byte :: rest).toByteArray[0] = byte := by simp [List.getElem_toByteArray]
    unfold decodeChar ByteArray.utf8DecodeChar?
    rw [dif_pos size, first]
    rcases invalid with rfl | rfl <;> rfl
  have single : illFormed (byte :: rest) = 1 := by
    rcases invalid with rfl | rfl <;> cases rest <;> rfl
  rw [lossy_illFormed (List.cons_ne_nil _ _) undecoded, single]
  rfl

theorem lossy_encode (text : List Char) (rest : List UInt8) : lossy (encode text ++ rest) = text ++ lossy rest := by
  induction text with
  | nil => rfl
  | cons char text ih => rw [encode_cons, List.append_assoc, lossy_encodeChar, ih, List.cons_append]

/-- A character that is not the replacement character stands for its encoding. -/
theorem lossy_eq_cons (read : lossy bytes = char :: back) (genuine : char ≠ replacementCharacter) :
    ∃ rest, bytes = String.utf8EncodeChar char ++ rest ∧ lossy rest = back := by
  by_cases something : bytes = []
  · rw [something] at read
    cases read
  · cases decoded : decodeChar bytes with
    | none =>
        rw [lossy_illFormed something decoded] at read
        exact absurd (List.cons.inj read).1.symm genuine
    | some found =>
        obtain ⟨rest, split⟩ := decodeChar_eq_some decoded
        rw [split, lossy_encodeChar] at read
        obtain ⟨same, later⟩ := List.cons.inj read
        exact ⟨rest, same ▸ split, later⟩

/-- What is read without replacement characters is what the bytes say. -/
theorem lossy_eq_append (read : lossy bytes = front ++ back) (genuine : replacementCharacter ∉ front) :
    ∃ rest, bytes = encode front ++ rest ∧ lossy rest = back := by
  induction front generalizing bytes with
  | nil => exact ⟨bytes, rfl, read⟩
  | cons char front ih =>
      rw [List.mem_cons, not_or] at genuine
      obtain ⟨rest, split, later⟩ := lossy_eq_cons read (Ne.symm genuine.1)
      obtain ⟨last, inner, remaining⟩ := ih later genuine.2
      exact ⟨last, by rw [split, inner, encode_cons, List.append_assoc], remaining⟩

theorem lossy_eq_nil (read : lossy bytes = []) : bytes = [] := by
  by_contra something
  cases decoded : decodeChar bytes with
  | none =>
      rw [lossy_illFormed something decoded] at read
      cases read
  | some char =>
      obtain ⟨rest, split⟩ := decodeChar_eq_some decoded
      rw [split, lossy_encodeChar] at read
      cases read

theorem encode_lossy (genuine : replacementCharacter ∉ lossy bytes) : encode (lossy bytes) = bytes := by
  obtain ⟨rest, split, nothing⟩ := lossy_eq_append (List.append_nil (lossy bytes)).symm genuine
  rw [lossy_eq_nil nothing, List.append_nil] at split
  exact split.symm

theorem encode_injective : Function.Injective encode := by
  intro text other same
  have left := lossy_encode text []
  have right := lossy_encode other []
  rw [same, right] at left
  exact List.append_cancel_right left.symm

end Utf8

end Flowd
