import RegularModels.Text.Blank

/-!
# Log levels

The five levels of log events and the thresholds that let them pass.  A
threshold is a number; an event passes when its level's rank reaches it.
-/

namespace RegularModels.Log

/-- How serious a log event is. -/
inductive Level where
  | debug
  | info
  | warning
  | error
  | critical
deriving DecidableEq, Repr

namespace Level

/-- The rank of a level on the scale of thresholds. -/
def rank : Level → Nat
  | debug => 10
  | info => 20
  | warning => 30
  | error => 40
  | critical => 50

/-- The name of a level in lower case. -/
def name : Level → String
  | debug => "debug"
  | info => "info"
  | warning => "warning"
  | error => "error"
  | critical => "critical"

/-- The level with a given lower-case name. -/
def ofName? : String → Option Level
  | "debug" => some debug
  | "info" => some info
  | "warning" => some warning
  | "error" => some error
  | "critical" => some critical
  | _ => none

/-- The level reaches the threshold. -/
def Passes (level : Level) (threshold : Nat) : Prop :=
  threshold ≤ level.rank

instance (level : Level) (threshold : Nat) : Decidable (level.Passes threshold) :=
  inferInstanceAs (Decidable (_ ≤ _))

theorem ofName?_name (level : Level) : ofName? level.name = some level := by
  cases level <;> rfl

end Level

/-- The threshold used when none is named: warnings and above. -/
def defaultThreshold : Nat := Level.warning.rank

/--
The upper-case form of a letter of a level name.  Besides the ASCII letters, the
dotless i, the long s and the ligatures of s and t have ASCII capitals that occur in
these names.
-/
def upperLetter (char : Char) : List Char :=
  if char = 'ı' then ['I']
  else if char = 'ſ' then ['S']
  else if char = 'ﬅ' ∨ char = 'ﬆ' then ['S', 'T']
  else [char.toUpper]

/-- What a reserved name stands for where the name of a level is expected. -/
inductive UnknownLevel where
  /-- The pattern of the lines of a log. -/
  | pattern
  /-- The styles in which such a pattern may be written. -/
  | styles
deriving DecidableEq, Repr

/-- The wording of an unknown level. -/
def UnknownLevel.message : UnknownLevel → String
  | pattern => "Unknown level: '%(levelname)s:%(name)s:%(message)s'"
  | styles =>
    "Level not an integer or a valid string: " ++
      "\x7b'%': (<class 'logging.PercentStyle'>, '%(levelname)s:%(name)s:%(message)s'), " ++
      "'\x7b': (<class 'logging.StrFormatStyle'>, " ++
      "'\x7blevelname\x7d:\x7bname\x7d:\x7bmessage\x7d'), " ++
      "'$': (<class 'logging.StringTemplateStyle'>, " ++
      "'$\x7blevelname\x7d:$\x7bname\x7d:$\x7bmessage\x7d')\x7d"

/--
The threshold that a level name stands for, in any case; a name that is none of
them stands for the default.  Two reserved names stand for something else and are
refused.
-/
def threshold (name : String) : Except UnknownLevel Nat :=
  match String.ofList (name.toList.flatMap upperLetter) with
  | "DEBUG" => .ok 10
  | "INFO" => .ok 20
  | "WARNING" | "WARN" => .ok 30
  | "ERROR" => .ok 40
  | "CRITICAL" | "FATAL" => .ok 50
  | "NOTSET" => .ok 0
  | "BASIC_FORMAT" => .error .pattern
  | "_STYLES" => .error .styles
  | _ => .ok defaultThreshold

end RegularModels.Log
