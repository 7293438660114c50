/-
Character-level operations of Python's `str` on lists of characters.

Whitespace and decimal digits follow the Unicode tables that `str.isspace` and
`int` use.  Nothing here depends on the program that is verified with it.
-/

import Mathlib

set_option autoImplicit false

namespace Text

/-- The code points that `str.isspace` accepts. -/
def spaceCodes : List Nat :=
  [0x9, 0xA, 0xB, 0xC, 0xD, 0x1C, 0x1D, 0x1E, 0x1F, 0x20, 0x85, 0xA0, 0x1680,
    0x2000, 0x2001, 0x2002, 0x2003, 0x2004, 0x2005, 0x2006, 0x2007, 0x2008, 0x2009,
    0x200A, 0x2028, 0x2029, 0x202F, 0x205F, 0x3000]

def isSpace (c : Char) : Bool :=
  spaceCodes.contains c.toNat

/-- `str.split()`: the maximal runs of non-blank characters. -/
def words (text : List Char) : List (List Char) :=
  (text.splitOnP isSpace).filter (fun word => !word.isEmpty)

def split (text : String) : List String :=
  (words text.toList).map String.ofList

/-- `str.strip` for an arbitrary class of characters. -/
def strip (outer : Char → Bool) (text : List Char) : List Char :=
  (text.dropWhile outer).rdropWhile outer

theorem strip_of_solid (outer : Char → Bool) (text : List Char)
    (solid : ∀ c ∈ text, outer c = false) : strip outer text = text := by
  unfold strip
  have front : text.dropWhile outer = text := by
    rw [List.dropWhile_eq_self_iff]
    intro inside
    exact Bool.eq_false_iff.mp (solid _ (List.getElem_mem inside))
  rw [front, List.rdropWhile_eq_self_iff]
  intro nonempty
  exact Bool.eq_false_iff.mp (solid _ (List.getLast_mem nonempty))

theorem words_of_no_space (word : List Char) (nonempty : word ≠ [])
    (solid : ∀ c ∈ word, isSpace c = false) : words word = [word] := by
  unfold words
  rw [List.splitOnP_eq_singleton solid]
  cases word with
  | nil => contradiction
  | cons first rest => rfl

theorem words_append_space (word : List Char) (nonempty : word ≠ [])
    (solid : ∀ c ∈ word, isSpace c = false) (blank : Char) (isBlank : isSpace blank = true)
    (rest : List Char) : words (word ++ blank :: rest) = word :: words rest := by
  unfold words
  rw [List.splitOnP_append_cons_of_forall_mem solid blank isBlank]
  cases word with
  | nil => contradiction
  | cons first tail => rfl

theorem words_eq_nil_iff (text : List Char) :
    words text = [] ↔ ∀ c ∈ text, isSpace c = true := by
  unfold words
  induction text with
  | nil => simp
  | cons c rest ih =>
      by_cases blank : isSpace c = true
      · rw [List.splitOnP_cons_eq_if_modifyHead, if_pos blank]
        simp only [List.filter_cons, List.isEmpty_nil, Bool.not_true, Bool.false_eq_true,
          if_false, ih, List.mem_cons, forall_eq_or_imp, blank, true_and]
      · rw [List.splitOnP_cons_eq_if_modifyHead, if_neg blank]
        have reached : ∃ head tail, List.splitOnP isSpace rest = head :: tail :=
          List.exists_cons_of_ne_nil (List.splitOnP_ne_nil isSpace rest)
        obtain ⟨head, tail, pieces⟩ := reached
        simp [pieces, blank]

/-- `str.replace(old, new)` for a nonempty `old`.  The counter skips the characters of
the occurrence that was just replaced. -/
def replaceAllFrom (old new : List Char) : Nat → List Char → List Char
  | _, [] => []
  | skip + 1, _ :: rest => replaceAllFrom old new skip rest
  | 0, c :: rest =>
      if old.isPrefixOf (c :: rest) then
        new ++ replaceAllFrom old new (old.length - 1) rest
      else c :: replaceAllFrom old new 0 rest

def replaceAll (old new text : List Char) : List Char :=
  replaceAllFrom old new 0 text

theorem replaceAll_of_first_absent (first : Char) (old new text : List Char)
    (absent : first ∉ text) : replaceAll (first :: old) new text = text := by
  unfold replaceAll
  induction text with
  | nil => rfl
  | cons c rest ih =>
      have different : first ≠ c := fun same => absent (same ▸ List.mem_cons_self)
      have later : first ∉ rest := fun member => absent (List.mem_cons_of_mem c member)
      have mismatch : (first :: old).isPrefixOf (c :: rest) = false := by
        simp [List.isPrefixOf, different]
      simp only [replaceAllFrom, mismatch, Bool.false_eq_true, if_false, ih later]

/-! ### Numbers in base sixteen -/

/-- The code points of the digit zero in each script that has decimal digits. -/
def decimalZeros : List Nat :=
  [0x30, 0x660, 0x6F0, 0x7C0, 0x966, 0x9E6, 0xA66, 0xAE6, 0xB66, 0xBE6, 0xC66, 0xCE6,
    0xD66, 0xDE6, 0xE50, 0xED0, 0xF20, 0x1040, 0x1090, 0x17E0, 0x1810, 0x1946, 0x19D0,
    0x1A80, 0x1A90, 0x1B50, 0x1BB0, 0x1C40, 0x1C50, 0xA620, 0xA8D0, 0xA900, 0xA9D0,
    0xA9F0, 0xAA50, 0xABF0, 0xFF10, 0x104A0, 0x10D30, 0x11066, 0x110F0, 0x11136, 0x111D0,
    0x112F0, 0x11450, 0x114D0, 0x11650, 0x116C0, 0x11730, 0x118E0, 0x11950, 0x11C50,
    0x11D50, 0x11DA0, 0x16A60, 0x16AC0, 0x16B50, 0x1D7CE, 0x1D7D8, 0x1D7E2, 0x1D7EC,
    0x1D7F6, 0x1E140, 0x1E2F0, 0x1E950, 0x1FBF0]

def decimalValue (c : Char) : Option Nat :=
  (decimalZeros.find? (fun base => base ≤ c.toNat && c.toNat < base + 10)).map
    (fun base => c.toNat - base)

def hexDigit (value : Nat) : Char :=
  if value < 10 then Char.ofNat (48 + value) else Char.ofNat (87 + value)

def hexValue (c : Char) : Option Nat :=
  if 48 ≤ c.toNat ∧ c.toNat ≤ 57 then some (c.toNat - 48)
  else if 97 ≤ c.toNat ∧ c.toNat ≤ 102 then some (c.toNat - 87)
  else if 65 ≤ c.toNat ∧ c.toNat ≤ 70 then some (c.toNat - 55)
  else none

/-- What `int` does first with a text that is not pure ASCII: blanks become spaces and
decimal digits of every script become ASCII digits. -/
def toAsciiNumeral (text : List Char) : List Char :=
  if text.all (fun c => c.toNat < 128) then text
  else text.map fun c =>
    if c.toNat < 127 then c
    else if isSpace c then ' '
    else match decimalValue c with
      | some value => hexDigit value
      | none => '?'

def hexDigitsValue : Nat → Bool → List Char → Option Nat
  | value, afterDigit, [] => if afterDigit then some value else none
  | value, afterDigit, c :: rest =>
      if c = '_' then
        if afterDigit then hexDigitsValue value false rest else none
      else match hexValue c with
        | some digit => hexDigitsValue (value * 16 + digit) true rest
        | none => none

/-- The optional `0x` prefix of `int(text, 16)`; one underscore may follow it. -/
def hexMagnitude : List Char → Option Nat
  | '0' :: x :: rest =>
      if x = 'x' ∨ x = 'X' then
        match rest with
        | '_' :: digits => hexDigitsValue 0 false digits
        | digits => hexDigitsValue 0 false digits
      else hexDigitsValue 0 false ('0' :: x :: rest)
  | text => hexDigitsValue 0 false text

/-- `int(text, 16)`; `none` is its `ValueError`. -/
def intOfHex (text : List Char) : Option Int :=
  match strip (fun c => [0x9, 0xA, 0xB, 0xC, 0xD, 0x20].contains c.toNat)
      (toAsciiNumeral text) with
  | '-' :: rest => (hexMagnitude rest).map fun value => -(value : Int)
  | '+' :: rest => (hexMagnitude rest).map fun value => (value : Int)
  | rest => (hexMagnitude rest).map fun value => (value : Int)

def hexText : Nat → Nat → List Char
  | 0, _ => []
  | width + 1, value => hexText width (value / 16) ++ [hexDigit (value % 16)]

def reprByte (quote : Nat) (byte : UInt8) : List Char :=
  let code := byte.toNat
  if code = 9 then "\\t".toList
  else if code = 10 then "\\n".toList
  else if code = 13 then "\\r".toList
  else if code = 92 ∨ code = quote then "\\".toList ++ [Char.ofNat code]
  else if 32 ≤ code ∧ code < 127 then [Char.ofNat code]
  else "\\x".toList ++ hexText 2 code

/-- `repr` of a bytes object: it stands in double quotes if it has only single ones. -/
def reprBytes (bytes : List UInt8) : String :=
  let quote := if bytes.contains 39 && !bytes.contains 34 then 34 else 39
  String.ofList ('b' :: Char.ofNat quote :: (bytes.flatMap (reprByte quote) ++
    [Char.ofNat quote]))

theorem hexText_length (width value : Nat) : (hexText width value).length = width := by
  induction width generalizing value with
  | zero => rfl
  | succ width ih => simp [hexText, ih]

theorem hexDigit_spec : ∀ value < 16,
    hexValue (hexDigit value) = some value ∧ hexDigit value ≠ '_' ∧
      hexDigit value ≠ '-' ∧ hexDigit value ≠ '+' ∧ hexDigit value ≠ 'x' ∧
      hexDigit value ≠ 'X' ∧ hexDigit value ≠ 'u' ∧ hexDigit value ≠ '{' ∧
      hexDigit value ≠ '}' ∧ (hexDigit value).toNat < 128 ∧
      isSpace (hexDigit value) = false := by
  decide

theorem mem_hexText (width value : Nat) (c : Char) (member : c ∈ hexText width value) :
    ∃ digit < 16, c = hexDigit digit := by
  induction width generalizing value with
  | zero => cases member
  | succ width ih =>
      simp only [hexText, List.mem_append, List.mem_singleton] at member
      rcases member with earlier | last
      · exact ih (value / 16) earlier
      · exact ⟨value % 16, Nat.mod_lt value (by decide), last⟩

theorem hexDigitsValue_append_digit (start : Nat) (afterDigit : Bool) (text : List Char)
    (digit : Nat) (small : digit < 16) (value : Nat)
    (known : hexDigitsValue start afterDigit text = some value) :
    hexDigitsValue start afterDigit (text ++ [hexDigit digit]) =
      some (value * 16 + digit) := by
  obtain ⟨read, notUnderscore, _⟩ := hexDigit_spec digit small
  induction text generalizing start afterDigit with
  | nil =>
      simp only [hexDigitsValue] at known
      split at known
      · cases known
        simp [hexDigitsValue, read, notUnderscore]
      · cases known
  | cons c rest ih =>
      simp only [List.cons_append, hexDigitsValue] at known ⊢
      split
      · rename_i underscore
        rw [if_pos underscore] at known
        split
        · rename_i digitBefore
          rw [if_pos digitBefore] at known
          exact ih _ _ known
        · rename_i noDigitBefore
          rw [if_neg noDigitBefore] at known
          cases known
      · rename_i plain
        rw [if_neg plain] at known
        cases readFirst : hexValue c with
        | none => rw [readFirst] at known; cases known
        | some first =>
            rw [readFirst] at known
            exact ih _ _ known

/-- Reading back the digits of a number gives the number. -/
theorem hexDigitsValue_hexText (width value : Nat) (fits : value < 16 ^ (width + 1)) :
    hexDigitsValue 0 false (hexText (width + 1) value) = some value := by
  induction width generalizing value with
  | zero =>
      have small : value < 16 := by simpa using fits
      obtain ⟨read, notUnderscore, _⟩ := hexDigit_spec value small
      simp [hexText, hexDigitsValue, Nat.mod_eq_of_lt small, read, notUnderscore]
  | succ width ih =>
      have quotient : value / 16 < 16 ^ (width + 1) := by
        rw [pow_succ] at fits
        omega
      have digits := hexDigitsValue_append_digit 0 false (hexText (width + 1) (value / 16))
        (value % 16) (Nat.mod_lt value (by decide)) (value / 16) (ih _ quotient)
      rw [hexText, digits]
      congr 1
      omega

end Text
