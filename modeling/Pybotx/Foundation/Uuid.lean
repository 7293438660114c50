/-
Python's `uuid.UUID`: the hyphenated spelling `str` gives and the lenient parser
behind `UUID(text)`.

The parser drops every `urn:` and `uuid:`, outer braces and all hyphens, and leaves
the remaining 32 characters to `int(_, 16)`.
-/

import Pybotx.Foundation.Text

set_option autoImplicit false

open Text

/-- A UUID is its 128-bit integer. -/
structure UUID where
  int : Fin (2 ^ 128)
  deriving DecidableEq, Repr

namespace UUID

def hex (id : UUID) : List Char :=
  hexText 32 id.int.val

def hyphenated (digits : List Char) : List Char :=
  digits.take 8 ++ '-' :: ((digits.drop 8).take 4 ++ '-' :: ((digits.drop 12).take 4 ++
    '-' :: ((digits.drop 16).take 4 ++ '-' :: digits.drop 20)))

def chars (id : UUID) : List Char :=
  hyphenated id.hex

/-- `str(id)`. -/
def str (id : UUID) : String :=
  String.ofList id.chars

/-- What `UUID(text)` hands to `int`. -/
def bareDigits (text : List Char) : List Char :=
  let unprefixed := replaceAll "uuid:".toList [] (replaceAll "urn:".toList [] text)
  (strip (fun c => c = '{' || c = '}') unprefixed).filter (fun c => c ≠ '-')

/-- `UUID(text)` on characters; `none` is its `ValueError`. -/
def parseChars (text : List Char) : Option UUID :=
  let digits := bareDigits text
  if digits.length = 32 then
    match intOfHex digits with
    | some (.ofNat value) =>
        if small : value < 2 ^ 128 then some ⟨⟨value, small⟩⟩ else none
    | _ => none
  else none

def parse (text : String) : Option UUID :=
  parseChars text.toList

theorem hex_length (id : UUID) : id.hex.length = 32 :=
  hexText_length 32 id.int.val

theorem mem_chars (id : UUID) (c : Char) (member : c ∈ id.chars) :
    c = '-' ∨ ∃ digit < 16, c = hexDigit digit := by
  have inHex : ∀ c ∈ id.hex, ∃ digit < 16, c = hexDigit digit :=
    fun c present => mem_hexText 32 id.int.val c present
  simp only [chars, hyphenated, List.mem_append, List.mem_cons] at member
  rcases member with first | rfl | second | rfl | third | rfl | fourth | rfl | fifth
  · exact Or.inr (inHex c (List.mem_of_mem_take first))
  · exact Or.inl rfl
  · exact Or.inr (inHex c (List.mem_of_mem_drop (List.mem_of_mem_take second)))
  · exact Or.inl rfl
  · exact Or.inr (inHex c (List.mem_of_mem_drop (List.mem_of_mem_take third)))
  · exact Or.inl rfl
  · exact Or.inr (inHex c (List.mem_of_mem_drop (List.mem_of_mem_take fourth)))
  · exact Or.inl rfl
  · exact Or.inr (inHex c (List.mem_of_mem_drop fifth))

theorem chars_filter (id : UUID) : id.chars.filter (fun c => c ≠ '-') = id.hex := by
  have solid : ∀ c ∈ id.hex, (decide (c ≠ '-')) = true := by
    intro c member
    obtain ⟨digit, small, rfl⟩ := mem_hexText 32 id.int.val c member
    exact decide_eq_true (hexDigit_spec digit small).2.2.1
  have pieces : id.hex = id.hex.take 8 ++ ((id.hex.drop 8).take 4 ++ ((id.hex.drop 12).take 4 ++
      ((id.hex.drop 16).take 4 ++ id.hex.drop 20))) := by
    have joined (n m : Nat) : (id.hex.drop n).take m ++ id.hex.drop (n + m) = id.hex.drop n := by
      rw [← List.drop_drop, List.take_append_drop]
    rw [joined 16 4, joined 12 4, joined 8 4, List.take_append_drop]
  have kept := List.filter_eq_self.mpr solid
  conv_rhs => rw [← kept, pieces]
  simp [chars, hyphenated, List.filter_append]

theorem bareDigits_chars (id : UUID) : bareDigits id.chars = id.hex := by
  have absent (c : Char) (notHyphen : c ≠ '-')
      (notDigit : ∀ digit < 16, hexDigit digit ≠ c) : c ∉ id.chars := by
    intro member
    rcases mem_chars id c member with hyphen | ⟨digit, small, same⟩
    · exact notHyphen hyphen
    · exact notDigit digit small same.symm
  have noU : 'u' ∉ id.chars :=
    absent 'u' (by decide) (fun digit small => (hexDigit_spec digit small).2.2.2.2.2.2.1)
  have noBrace : ∀ c ∈ id.chars, (decide (c = '{') || decide (c = '}')) = false := by
    intro c member
    rcases mem_chars id c member with rfl | ⟨digit, small, rfl⟩
    · decide
    · have facts := hexDigit_spec digit small
      simp [facts.2.2.2.2.2.2.2.1, facts.2.2.2.2.2.2.2.2.1]
  have unstripped : strip (fun c => decide (c = '{') || decide (c = '}')) id.chars = id.chars :=
    strip_of_solid _ id.chars noBrace
  have noUrn : replaceAll "urn:".toList [] id.chars = id.chars :=
    replaceAll_of_first_absent 'u' ['r', 'n', ':'] [] id.chars noU
  have noUuid : replaceAll "uuid:".toList [] id.chars = id.chars :=
    replaceAll_of_first_absent 'u' ['u', 'i', 'd', ':'] [] id.chars noU
  unfold bareDigits
  simp only [noUrn, noUuid]
  rw [unstripped, chars_filter]

private theorem intOfHex_hex (id : UUID) : intOfHex id.hex = some (id.int.val : Int) := by
  have digitOf (c : Char) (member : c ∈ id.hex) : ∃ digit < 16, c = hexDigit digit :=
    mem_hexText 32 id.int.val c member
  have ascii : toAsciiNumeral id.hex = id.hex := by
    unfold toAsciiNumeral
    rw [if_pos]
    rw [List.all_eq_true]
    intro c member
    obtain ⟨digit, small, rfl⟩ := digitOf c member
    exact decide_eq_true (hexDigit_spec digit small).2.2.2.2.2.2.2.2.2.1
  have solid (c : Char) (member : c ∈ id.hex) :
      [0x9, 0xA, 0xB, 0xC, 0xD, 0x20].contains c.toNat = false := by
    have noBlank : ∀ digit < 16,
        [0x9, 0xA, 0xB, 0xC, 0xD, 0x20].contains (hexDigit digit).toNat = false := by decide
    obtain ⟨digit, small, rfl⟩ := digitOf c member
    exact noBlank digit small
  have unstripped : strip (fun c => [0x9, 0xA, 0xB, 0xC, 0xD, 0x20].contains c.toNat)
      id.hex = id.hex :=
    strip_of_solid _ id.hex solid
  have magnitude : hexMagnitude id.hex = some id.int.val := by
    have digits : hexDigitsValue 0 false id.hex = some id.int.val :=
      hexDigitsValue_hexText 31 id.int.val (by have := id.int.isLt; norm_num at this ⊢; omega)
    rw [← digits]
    unfold hexMagnitude
    split
    · rename_i x rest spelled
      have inHex : x ∈ id.hex := by rw [spelled]; simp
      obtain ⟨digit, small, rfl⟩ := digitOf x inHex
      have facts := hexDigit_spec digit small
      rw [if_neg (by simp [facts.2.2.2.2.1, facts.2.2.2.2.2.1]), spelled]
    · rfl
  unfold intOfHex
  rw [ascii, unstripped]
  split
  · rename_i rest spelled
    obtain ⟨digit, small, same⟩ := digitOf '-' (by rw [spelled]; exact List.mem_cons_self)
    exact absurd same.symm (hexDigit_spec digit small).2.2.1
  · rename_i rest spelled
    obtain ⟨digit, small, same⟩ := digitOf '+' (by rw [spelled]; exact List.mem_cons_self)
    exact absurd same.symm (hexDigit_spec digit small).2.2.2.1
  · rw [magnitude]
    rfl

/-- `UUID(str(id)) == id`. -/
theorem parseChars_chars (id : UUID) : parseChars id.chars = some id := by
  have small := id.int.isLt
  unfold parseChars
  simp only [bareDigits_chars, hex_length, if_true, intOfHex_hex]
  change (if small : id.int.val < 2 ^ 128 then some (⟨⟨id.int.val, small⟩⟩ : UUID) else none) = _
  rw [dif_pos small]

theorem parse_str (id : UUID) : parse id.str = some id := by
  unfold parse str
  rw [String.toList_ofList, parseChars_chars]

end UUID
