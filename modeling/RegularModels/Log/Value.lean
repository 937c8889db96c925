import RegularModels.Text.Quoted

/-!
# Values of log fields

The values that a field of a log event may have, and their text in the log file:
one line of JSON in ASCII, with characters beyond ASCII written as escaped
UTF-16 units.
-/

namespace RegularModels.Log

/-- The value of a field. -/
inductive Value where
  | null
  | boolean (value : Bool)
  | integer (value : Int)
  | text (value : String)
  | list (items : List Value)
  | object (fields : List (String × Value))
deriving Repr, Inhabited

namespace Value

/-- A text as a value, or null in place of one. -/
def ofOption : Option String → Value
  | some value => text value
  | none => null

/-- The name of the kind of a value. -/
def kind : Value → String
  | null => "NoneType"
  | boolean _ => "bool"
  | integer _ => "int"
  | text _ => "str"
  | list _ => "list"
  | object _ => "dict"

/-- A list of texts as a value. -/
def texts (values : List String) : Value :=
  list (values.map text)

/-- One UTF-16 unit as an escape. -/
def escapeUnit (unit : Nat) : List Char :=
  '\\' :: 'u' :: Text.hex 4 unit

/-- How a character stands inside a JSON string. -/
def escapeChar (char : Char) : List Char :=
  let code := char.toNat
  if char = '"' || char = '\\' then ['\\', char]
  else if char = '\n' then ['\\', 'n']
  else if char = '\r' then ['\\', 'r']
  else if char = '\t' then ['\\', 't']
  else if code = 8 then ['\\', 'b']
  else if code = 12 then ['\\', 'f']
  else if 0x20 ≤ code && code ≤ 0x7E then [char]
  else if code < 0x10000 then escapeUnit code
  else
    let offset := code - 0x10000
    escapeUnit (0xD800 + offset / 0x400) ++ escapeUnit (0xDC00 + offset % 0x400)

/-- A text as a JSON string. -/
def renderText (value : String) : String :=
  String.ofList ('"' :: value.toList.flatMap escapeChar ++ ['"'])

mutual

/-- The JSON text of a value. -/
def render : Value → String
  | null => "null"
  | boolean true => "true"
  | boolean false => "false"
  | integer value => toString value
  | text value => renderText value
  | list items => "[" ++ ", ".intercalate (renderItems items) ++ "]"
  | object fields => "\x7b" ++ ", ".intercalate (renderFields fields) ++ "\x7d"

/-- The JSON texts of the items of a list. -/
def renderItems : List Value → List String
  | [] => []
  | item :: items => render item :: renderItems items

/-- The JSON texts of the fields of an object. -/
def renderFields : List (String × Value) → List String
  | [] => []
  | (key, value) :: fields => (renderText key ++ ": " ++ render value) :: renderFields fields

end

end Value

end RegularModels.Log
