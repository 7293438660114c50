/-
The standard base64 alphabet, `base64.b64encode` and `base64.b64decode`.
-/

import Mathlib

set_option autoImplicit false

namespace Base64

def symbol (value : Nat) : Char :=
  if value < 26 then Char.ofNat (65 + value)
  else if value < 52 then Char.ofNat (71 + value)
  else if value < 62 then Char.ofNat (value - 4)
  else if value = 62 then '+'
  else '/'

def encodeChars : List UInt8 → List Char
  | [] => []
  | [a] =>
      let bits := a.toNat * 16
      [symbol (bits / 64), symbol (bits % 64), '=', '=']
  | [a, b] =>
      let bits := (a.toNat * 256 + b.toNat) * 4
      [symbol (bits / 4096), symbol (bits / 64 % 64), symbol (bits % 64), '=']
  | a :: b :: c :: rest =>
      let bits := (a.toNat * 256 + b.toNat) * 256 + c.toNat
      symbol (bits / 262144) :: symbol (bits / 4096 % 64) :: symbol (bits / 64 % 64) ::
        symbol (bits % 64) :: encodeChars rest

def encode (bytes : List UInt8) : String :=
  String.ofList (encodeChars bytes)

example : encode [104, 101, 108, 108, 111] = "aGVsbG8=" := by decide

def digit (c : Char) : Option Nat :=
  let code := c.toNat
  if 65 ≤ code ∧ code ≤ 90 then some (code - 65)
  else if 97 ≤ code ∧ code ≤ 122 then some (code - 71)
  else if 48 ≤ code ∧ code ≤ 57 then some (code + 4)
  else if c = '+' then some 62
  else if c = '/' then some 63
  else none

/-- The decoder skips foreign characters, stops at a padding that completes a group of
four and fails at the end of an incomplete group. -/
def decodeFrom (quadPos pads leftover : Nat) : List Char → Option (List UInt8)
  | [] => if quadPos = 0 then some [] else none
  | c :: rest =>
      if c = '=' then
        if 2 ≤ quadPos then
          if 4 ≤ quadPos + (pads + 1) then some []
          else decodeFrom quadPos (pads + 1) leftover rest
        else decodeFrom quadPos pads leftover rest
      else
        match digit c with
        | none => decodeFrom quadPos pads leftover rest
        | some value =>
            match quadPos with
            | 0 => decodeFrom 1 0 value rest
            | 1 => (decodeFrom 2 0 (value % 16) rest).map
                (UInt8.ofNat (leftover * 4 + value / 16) :: ·)
            | 2 => (decodeFrom 3 0 (value % 4) rest).map
                (UInt8.ofNat (leftover * 16 + value / 4) :: ·)
            | _ => (decodeFrom 0 0 0 rest).map (UInt8.ofNat (leftover * 64 + value) :: ·)

def decode (text : String) : Option (List UInt8) :=
  decodeFrom 0 0 0 text.toList

example : decode "aGVs\nbG8=" = some [104, 101, 108, 108, 111] := by decide

theorem digit_symbol : ∀ value < 64, symbol value ≠ '=' ∧ digit (symbol value) = some value := by
  decide

section

variable {value : Nat} (leftover : Nat) (rest : List Char)

theorem decodeFrom_first (small : value < 64) :
    decodeFrom 0 0 0 (symbol value :: rest) = decodeFrom 1 0 value rest := by
  obtain ⟨notPadding, read⟩ := digit_symbol value small
  simp only [decodeFrom, notPadding, read, if_false]

theorem decodeFrom_second (small : value < 64) :
    decodeFrom 1 0 leftover (symbol value :: rest) =
      (decodeFrom 2 0 (value % 16) rest).map
        (UInt8.ofNat (leftover * 4 + value / 16) :: ·) := by
  obtain ⟨notPadding, read⟩ := digit_symbol value small
  simp only [decodeFrom, notPadding, read, if_false]

theorem decodeFrom_third (small : value < 64) :
    decodeFrom 2 0 leftover (symbol value :: rest) =
      (decodeFrom 3 0 (value % 4) rest).map
        (UInt8.ofNat (leftover * 16 + value / 4) :: ·) := by
  obtain ⟨notPadding, read⟩ := digit_symbol value small
  simp only [decodeFrom, notPadding, read, if_false]

theorem decodeFrom_fourth (small : value < 64) :
    decodeFrom 3 0 leftover (symbol value :: rest) =
      (decodeFrom 0 0 0 rest).map (UInt8.ofNat (leftover * 64 + value) :: ·) := by
  obtain ⟨notPadding, read⟩ := digit_symbol value small
  simp only [decodeFrom, notPadding, read, if_false]

end

private theorem ofNat_eq {byte : UInt8} {number : Nat} (same : number = byte.toNat) :
    UInt8.ofNat number = byte := by
  rw [same, UInt8.ofNat_toNat]

theorem decodeFrom_encodeChars (bytes : List UInt8) :
    decodeFrom 0 0 0 (encodeChars bytes) = some bytes := by
  induction bytes using encodeChars.induct with
  | case1 => rfl
  | case2 a =>
      have boundA := a.toNat_lt
      let bits := a.toNat * 16
      have first : bits / 64 * 4 + bits % 64 / 16 = a.toNat := by omega
      rw [encodeChars, decodeFrom_first _ (by omega), decodeFrom_second _ _ (by omega),
        ofNat_eq first]
      rfl
  | case3 a b =>
      have boundA := a.toNat_lt
      have boundB := b.toNat_lt
      let bits := (a.toNat * 256 + b.toNat) * 4
      have first : bits / 4096 * 4 + bits / 64 % 64 / 16 = a.toNat := by omega
      have second : bits / 64 % 64 % 16 * 16 + bits % 64 / 4 = b.toNat := by omega
      rw [encodeChars, decodeFrom_first _ (by omega), decodeFrom_second _ _ (by omega),
        decodeFrom_third _ _ (by omega), ofNat_eq first, ofNat_eq second]
      rfl
  | case4 a b c rest ih =>
      have boundA := a.toNat_lt
      have boundB := b.toNat_lt
      have boundC := c.toNat_lt
      let bits := (a.toNat * 256 + b.toNat) * 256 + c.toNat
      have first : bits / 262144 * 4 + bits / 4096 % 64 / 16 = a.toNat := by omega
      have second : bits / 4096 % 64 % 16 * 16 + bits / 64 % 64 / 4 = b.toNat := by omega
      have third : bits / 64 % 64 % 4 * 64 + bits % 64 = c.toNat := by omega
      rw [encodeChars, decodeFrom_first _ (by omega), decodeFrom_second _ _ (by omega),
        decodeFrom_third _ _ (by omega), decodeFrom_fourth _ _ (by omega), ofNat_eq first,
        ofNat_eq second, ofNat_eq third, ih]
      rfl

/-- Every byte string is read back. -/
theorem decode_encode (bytes : List UInt8) : decode (encode bytes) = some bytes := by
  rw [decode, encode, String.toList_ofList]
  exact decodeFrom_encodeChars bytes

end Base64
