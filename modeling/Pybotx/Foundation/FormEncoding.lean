/-
`application/x-www-form-urlencoded`: fields in a query string, and the reader that a server
applies to it.

A component stands for its UTF-8 bytes.  The reader takes a plus sign for a blank and leaves
a percent sign alone that no two hexadecimal digits follow.
-/

import Pybotx.Foundation.Text

set_option autoImplicit false

namespace FormEncoding

def isUnreserved (c : Char) : Bool :=
  c.isAlphanum || ['_', '.', '-', '~'].contains c

def encodeByte (byte : UInt8) : List Char :=
  let c := Char.ofNat byte.toNat
  if isUnreserved c then [c]
  else if c = ' ' then ['+']
  else '%' :: (Text.hexText 2 byte.toNat).map Char.toUpper

def encodeBytes (bytes : List UInt8) : List Char :=
  bytes.flatMap encodeByte

def encodeComponent (text : String) : String :=
  String.ofList (encodeBytes text.toUTF8.toList)

def encodeField (field : String × String) : String :=
  encodeComponent field.1 ++ "=" ++ encodeComponent field.2

def encodeFields (fields : List (String × String)) : String :=
  "&".intercalate (fields.map encodeField)

def decodeBytes : List Char → List UInt8
  | [] => []
  | '+' :: rest => 32 :: decodeBytes rest
  | '%' :: high :: low :: rest =>
      match Text.hexValue high, Text.hexValue low with
      | some first, some second => UInt8.ofNat (first * 16 + second) :: decodeBytes rest
      | _, _ => 37 :: decodeBytes (high :: low :: rest)
  | c :: rest => String.utf8EncodeChar c ++ decodeBytes rest

/-- `none` if the bytes are no text. -/
def decodeComponent (component : List Char) : Option String :=
  String.fromUTF8? (decodeBytes component).toByteArray

/-- A field without an equality sign has the empty value. -/
def decodeField (field : List Char) : Option (String × String) := do
  let key ← decodeComponent (field.takeWhile fun c => c ≠ '=')
  let value ← decodeComponent ((field.dropWhile fun c => c ≠ '=').drop 1)
  return (key, value)

def decodeFields (query : String) : Option (List (String × String)) :=
  ((query.toList.splitOn '&').filter fun field => !field.isEmpty).mapM decodeField

private theorem hexDigit_upper : ∀ value < 16,
    Text.hexValue (Text.hexDigit value).toUpper = some value := by
  decide

set_option maxRecDepth 20000 in
private theorem plain_byte : ∀ code < 256, isUnreserved (Char.ofNat code) = true →
    Char.ofNat code ≠ '+' ∧ Char.ofNat code ≠ '%' ∧ Char.ofNat code ≠ '=' ∧
      Char.ofNat code ≠ '&' ∧ String.utf8EncodeChar (Char.ofNat code) = [UInt8.ofNat code] := by
  decide

private theorem hexDigit_upper_ne : ∀ value < 16,
    (Text.hexDigit value).toUpper ≠ '=' ∧ (Text.hexDigit value).toUpper ≠ '&' := by
  decide

theorem decodeBytes_plain (c : Char) (rest : List Char) (noPlus : c ≠ '+')
    (noPercent : c ≠ '%') :
    decodeBytes (c :: rest) = String.utf8EncodeChar c ++ decodeBytes rest := by
  rw [decodeBytes]
  · exact noPlus
  · intro high low later isPercent
    exact absurd isPercent noPercent

theorem encodeByte_cases (byte : UInt8) :
    (isUnreserved (Char.ofNat byte.toNat) = true ∧
        encodeByte byte = [Char.ofNat byte.toNat]) ∨
      (byte = 32 ∧ encodeByte byte = ['+']) ∨
        encodeByte byte = ['%', (Text.hexDigit (byte.toNat / 16)).toUpper,
          (Text.hexDigit (byte.toNat % 16)).toUpper] := by
  have bound : byte.toNat < 256 := byte.toNat_lt
  unfold encodeByte
  by_cases unreserved : isUnreserved (Char.ofNat byte.toNat) = true
  · exact Or.inl ⟨unreserved, if_pos unreserved⟩
  · right
    by_cases blank : Char.ofNat byte.toNat = ' '
    · left
      have code : byte.toNat = 32 := by
        have back := congrArg Char.toNat blank
        rw [Char.toNat_ofNat] at back
        split at back
        · exact back
        · cases back
      exact ⟨UInt8.toNat_inj.mp code, (if_neg unreserved).trans (if_pos blank)⟩
    · right
      rw [if_neg unreserved, if_neg blank]
      simp only [Text.hexText, Nat.mod_eq_of_lt (show byte.toNat / 16 < 16 by omega),
        List.nil_append, List.cons_append, List.map_cons, List.map_nil]

theorem decodeBytes_encodeByte (byte : UInt8) (rest : List Char) :
    decodeBytes (encodeByte byte ++ rest) = byte :: decodeBytes rest := by
  have bound : byte.toNat < 256 := byte.toNat_lt
  rcases encodeByte_cases byte with ⟨unreserved, written⟩ | ⟨blank, written⟩ | written
  · obtain ⟨noPlus, noPercent, _, _, encoded⟩ := plain_byte byte.toNat bound unreserved
    rw [written, List.singleton_append, decodeBytes_plain _ _ noPlus noPercent, encoded,
      UInt8.ofNat_toNat]
    rfl
  · rw [written, blank]
    rfl
  · have number : byte.toNat / 16 * 16 + byte.toNat % 16 = byte.toNat := by omega
    rw [written, List.cons_append, List.cons_append, List.cons_append, List.nil_append,
      decodeBytes, hexDigit_upper _ (by omega), hexDigit_upper _ (by omega)]
    simp only [number, UInt8.ofNat_toNat]

theorem decodeBytes_encodeBytes (bytes : List UInt8) :
    decodeBytes (encodeBytes bytes) = bytes := by
  induction bytes with
  | nil => rfl
  | cons byte bytes ih =>
      change decodeBytes (encodeByte byte ++ encodeBytes bytes) = byte :: bytes
      rw [decodeBytes_encodeByte, ih]

private theorem toList_loop (bytes : ByteArray) (remaining index : Nat) (reversed : List UInt8)
    (count : index + remaining = bytes.size) :
    ByteArray.toList.loop bytes index reversed =
      reversed.reverse ++ bytes.data.toList.drop index := by
  induction remaining generalizing index reversed with
  | zero =>
      have finished : ¬ index < bytes.size := by omega
      have nothing : bytes.data.toList.drop index = [] :=
        List.drop_of_length_le (Nat.le_of_not_lt finished)
      rw [ByteArray.toList.loop, if_neg finished, nothing, List.append_nil]
  | succ remaining ih =>
      have more : index < bytes.size := by omega
      have read : bytes.get! index = bytes.data[index] := getElem!_pos bytes.data index more
      have split : bytes.data.toList.drop index =
          bytes.data[index] :: bytes.data.toList.drop (index + 1) :=
        List.drop_eq_getElem_cons more
      rw [ByteArray.toList.loop, if_pos more, ih _ _ (by omega), split, read,
        List.reverse_cons, List.append_assoc, List.singleton_append]

theorem toList_toByteArray (bytes : ByteArray) : bytes.toList.toByteArray = bytes := by
  apply ByteArray.ext
  rw [ByteArray.toList, toList_loop bytes bytes.size 0 [] (Nat.zero_add _), List.data_toByteArray]
  rfl

theorem decodeComponent_encodeComponent (text : String) :
    decodeComponent (encodeComponent text).toList = some text := by
  unfold decodeComponent encodeComponent
  rw [String.toList_ofList, decodeBytes_encodeBytes, toList_toByteArray]
  unfold String.fromUTF8?
  exact dif_pos text.isValidUTF8

/-! ### Fields -/

theorem encodeByte_no_separator (byte : UInt8) (c : Char) (member : c ∈ encodeByte byte) :
    c ≠ '=' ∧ c ≠ '&' := by
  have bound : byte.toNat < 256 := byte.toNat_lt
  rcases encodeByte_cases byte with ⟨unreserved, written⟩ | ⟨blank, written⟩ | written
  · rw [written, List.mem_singleton] at member
    obtain ⟨_, _, noEquals, noAmpersand, _⟩ := plain_byte byte.toNat bound unreserved
    rw [member]
    exact ⟨noEquals, noAmpersand⟩
  · rw [written, List.mem_singleton] at member
    rw [member]
    decide
  · rw [written] at member
    simp only [List.mem_cons, List.not_mem_nil, or_false] at member
    rcases member with percent | high | low
    · rw [percent]
      decide
    · rw [high]
      exact hexDigit_upper_ne _ (by omega)
    · rw [low]
      exact hexDigit_upper_ne _ (by omega)

theorem encodeComponent_no_separator (text : String) (c : Char)
    (member : c ∈ (encodeComponent text).toList) : c ≠ '=' ∧ c ≠ '&' := by
  unfold encodeComponent encodeBytes at member
  rw [String.toList_ofList] at member
  obtain ⟨byte, _, written⟩ := List.mem_flatMap.mp member
  exact encodeByte_no_separator byte c written

theorem encodeField_toList (field : String × String) :
    (encodeField field).toList =
      (encodeComponent field.1).toList ++ '=' :: (encodeComponent field.2).toList := by
  simp [encodeField]

theorem decodeField_encodeField (field : String × String) :
    decodeField (encodeField field).toList = some field := by
  have noEquals : ∀ c ∈ (encodeComponent field.1).toList, decide (c ≠ '=') = true := by
    intro c member
    exact decide_eq_true (encodeComponent_no_separator field.1 c member).1
  unfold decodeField
  rw [encodeField_toList, List.takeWhile_append_of_pos noEquals,
    List.dropWhile_append_of_pos noEquals]
  simp [decodeComponent_encodeComponent]

private theorem mapM_decodeField (fields : List (String × String)) :
    (fields.map fun field => (encodeField field).toList).mapM decodeField = some fields := by
  induction fields with
  | nil => rfl
  | cons field rest ih =>
      rw [List.map_cons, List.mapM_cons, decodeField_encodeField, ih]
      rfl

/-- A server reads the fields that were written, in their order. -/
theorem decodeFields_encodeFields (fields : List (String × String)) :
    decodeFields (encodeFields fields) = some fields := by
  cases fields with
  | nil => rfl
  | cons field rest =>
      have pieces : (encodeFields (field :: rest)).toList.splitOn '&' =
          (field :: rest).map fun field => (encodeField field).toList := by
        unfold encodeFields
        rw [String.toList_intercalate, List.map_map]
        apply List.splitOn_intercalate
        · intro piece member
          obtain ⟨other, _, rfl⟩ := List.mem_map.mp member
          intro ampersand
          change '&' ∈ (encodeField other).toList at ampersand
          rw [encodeField_toList] at ampersand
          simp only [List.mem_append, List.mem_cons] at ampersand
          rcases ampersand with inKey | impossible | inValue
          · exact (encodeComponent_no_separator _ _ inKey).2 rfl
          · exact absurd impossible (by decide)
          · exact (encodeComponent_no_separator _ _ inValue).2 rfl
        · exact List.cons_ne_nil _ _
      have filled : ∀ piece ∈ (field :: rest).map fun field => (encodeField field).toList,
          (!piece.isEmpty) = true := by
        intro piece member
        obtain ⟨other, _, rfl⟩ := List.mem_map.mp member
        simp [encodeField_toList]
      unfold decodeFields
      rw [pieces, List.filter_eq_self.mpr filled, mapM_decodeField]

end FormEncoding
