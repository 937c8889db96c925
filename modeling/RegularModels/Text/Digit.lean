import RegularModels.Text.Split

/-!
# Decimal digits and integer literals

Decimal digits of every script, and the integer literals made of them: an
optional sign, then digits, with single underscores between digits only.
Leading zeros are allowed; a literal has at most 4300 digits.
-/

namespace RegularModels.Text

/--
The zeros of the decimal digits; the digits one to nine follow each zero
directly.
-/
def decimalZeros : List Nat :=
   [0x30, 0x660, 0x6F0, 0x7C0, 0x966, 0x9E6, 0xA66, 0xAE6, 0xB66, 0xBE6, 0xC66, 0xCE6, 0xD66,
    0xDE6, 0xE50, 0xED0, 0xF20, 0x1040, 0x1090, 0x17E0, 0x1810, 0x1946, 0x19D0, 0x1A80, 0x1A90,
    0x1B50, 0x1BB0, 0x1C40, 0x1C50, 0xA620, 0xA8D0, 0xA900, 0xA9D0, 0xA9F0, 0xAA50, 0xABF0,
    0xFF10, 0x104A0, 0x10D30, 0x11066, 0x110F0, 0x11136, 0x111D0, 0x112F0, 0x11450, 0x114D0,
    0x11650, 0x116C0, 0x11730, 0x118E0, 0x11950, 0x11C50, 0x11D50, 0x11DA0, 0x16A60, 0x16AC0,
    0x16B50, 0x1D7CE, 0x1D7D8, 0x1D7E2, 0x1D7EC, 0x1D7F6, 0x1E140, 0x1E2F0, 0x1E950, 0x1FBF0]

/-- The value of a decimal digit of any script. -/
def digitValue? (char : Char) : Option Nat :=
  let code := char.toNat
  (decimalZeros.find? fun origin => origin ≤ code && code < origin + 10).map (code - ·)

/-- The longest integer literal, counted in digits. -/
def maxLiteralDigits : Nat := 4300

/-- The number that a list of decimal digits denotes, most significant first. -/
def ofDigits (digits : List Nat) : Nat :=
  digits.foldl (fun number digit => 10 * number + digit) 0

/-- The digits of an unsigned literal: groups of digits joined by single underscores. -/
def literalDigits? (chars : List Char) : Option (List Nat) :=
  let groups := splitWhere ('_' == ·) chars
  if groups.any List.isEmpty then none else groups.flatten.mapM digitValue?

/-- The value of an unsigned integer literal. -/
def natural? (chars : List Char) : Option Nat :=
  match literalDigits? chars with
  | some digits => if digits.length ≤ maxLiteralDigits then some (ofDigits digits) else none
  | none => none

/-- The value of an integer literal. -/
def integer? (text : String) : Option Int :=
  match text.toList with
  | '+' :: digits => (natural? digits).map Int.ofNat
  | '-' :: digits => (natural? digits).map fun number => -Int.ofNat number
  | digits => (natural? digits).map Int.ofNat

theorem digitValue?_lt {char : Char} {value : Nat} (digit : digitValue? char = some value) :
    value < 10 := by
  simp only [digitValue?, Option.map_eq_some_iff] at digit
  obtain ⟨origin, found, rfl⟩ := digit
  have within := List.find?_some found
  simp only [Bool.and_eq_true, decide_eq_true_eq] at within
  omega

end RegularModels.Text
