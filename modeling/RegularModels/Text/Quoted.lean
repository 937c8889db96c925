import RegularModels.Text.Printable

/-!
# Quoted literals

A text between quotes, as error messages show names.  Single quotes are the
rule; a text that holds single quotes and no double quote stands between double
quotes.  The backslash and the enclosing quote are escaped by a backslash, and
characters that are not printable by their code.
-/

namespace RegularModels.Text

/-- A number in lower-case hexadecimal, with leading zeros up to `width` digits. -/
def hex (width number : Nat) : List Char :=
  let digits := Nat.toDigits 16 number
  List.replicate (width - digits.length) '0' ++ digits

/-- The escape of a character by its code, in the shortest of three widths. -/
def escapeByCode (char : Char) : List Char :=
  let code := char.toNat
  if code < 0x100 then '\\' :: 'x' :: hex 2 code
  else if code < 0x10000 then '\\' :: 'u' :: hex 4 code
  else '\\' :: 'U' :: hex 8 code

/-- How a character is written between the quotes `mark`. -/
def escapeChar (mark char : Char) : List Char :=
  if char = mark || char = '\\' then ['\\', char]
  else if char = '\t' then ['\\', 't']
  else if char = '\n' then ['\\', 'n']
  else if char = '\r' then ['\\', 'r']
  else if isPrintable char then [char]
  else escapeByCode char

/-- The quote that encloses a text. -/
def quoteMark (chars : List Char) : Char :=
  if chars.contains '\'' && !chars.contains '"' then '"' else '\''

/-- The text as a quoted literal. -/
def quoted (text : String) : String :=
  let mark := quoteMark text.toList
  String.ofList (mark :: text.toList.flatMap (escapeChar mark) ++ [mark])

end RegularModels.Text
