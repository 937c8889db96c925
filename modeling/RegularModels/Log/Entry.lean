import RegularModels.Log.Level
import RegularModels.Log.Value
import RegularModels.Table

/-!
# Entries of the log

One announcement: who makes it, how serious it is, what happened and with which
fields.  `Entry.record` is the entry as the log file holds it, with the level and
the logger among the fields; some names of fields are reserved for the log itself
and are left out.  `Entry.consoleLines` counts the lines of the entry on the console.

Some fields are refused, whether or not the entry passes: those that repeat what an
announcement gives already (`Entry.repetition?`), and a field that should hold the
record of another log but does not (`Entry.refusal?`).
-/

namespace RegularModels.Log

/-- The way by which an announcement reaches the log. -/
inductive Channel where
  /-- With fields, as an entry of this log. -/
  | structured
  /-- As a text alone, from a part of the program that knows nothing of fields. -/
  | plain
deriving DecidableEq, Repr

/-- One announcement to the log. -/
structure Entry where
  channel : Channel := .structured
  /-- Who announces; nothing or an empty name is the root logger. -/
  logger : Option String
  level : Level
  event : String
  /-- The circumstances, in the order in which they are given. -/
  given : List (String × Value)
deriving Repr

/-- Why an entry is refused. -/
inductive EntryError where
  /-- A field has a name that a function gives a value already. -/
  | repeated (function name : String)
  /-- The field for the record of another log holds a value of another kind. -/
  | noRecord (kind : String)
deriving DecidableEq, Repr

/-- What is told about an entry that is refused. -/
def EntryError.message : EntryError → String
  | repeated function name => function ++ "() got multiple values for argument '" ++ name ++ "'"
  | noRecord kind => "'" ++ kind ++ "' object has no attribute 'name'"

namespace Entry

/-- The fields of the entry; a text alone has none. -/
def fields (entry : Entry) : List (String × Value) :=
  match entry.channel with
  | .structured => entry.given
  | .plain => []

/-! ## Refused fields -/

/-- The first field of the entry that has one of some names. -/
def fieldAmong? (entry : Entry) (names : List String) : Option String :=
  (entry.fields.map Prod.fst).find? (· ∈ names)

/-- The names that an announcement gives itself. -/
def announced : List String := ["event", "self"]

/-- The names that are given when an announcement is passed on. -/
def passedOn : List String := ["method_name"]

/--
The repetition of a name in the entry: first in the function that announces it, then
in the one to which it is passed on.
-/
def repetition? (entry : Entry) (announcing passing : String) : Option EntryError :=
  match entry.fieldAmong? announced with
  | some name => some (.repeated announcing name)
  | none => (entry.fieldAmong? passedOn).map (.repeated passing)

/-- Why the entry is refused by a log that is set up. -/
def refusal? (entry : Entry) : Option EntryError :=
  match entry.repetition? ("BoundLogger." ++ entry.level.name) "BoundLogger._proxy_to_logger" with
  | some error => some error
  | none =>
    match Table.lookup "_record" entry.fields with
    | none | some .null => none
    | some value => some (.noRecord value.kind)

/--
Why the entry is refused by a listener with a threshold.  What does not pass is not
passed on.
-/
def refusalAt? (threshold : Nat) (entry : Entry) : Option EntryError :=
  if entry.level.Passes threshold then
    entry.repetition? "_make_filtering_bound_logger.<locals>.make_method.<locals>.meth"
      "BoundLoggerBase._proxy_to_logger"
  else (entry.fieldAmong? announced).map (.repeated "_nop")

/-! ## Records -/

/-- The shown name of the logger. -/
def loggerName (entry : Entry) : String :=
  match entry.logger with
  | none | some "" => "root"
  | some name => name

/--
The names of fields that ask for the current error or for the place of the
announcement, or that the log uses on the way.  There is no current error, and
these fields are not recorded.
-/
def reserved : List String := ["exc_info", "stack_info", "_record", "_from_structlog"]

/--
The fields of the record in the log file.  The event, the level and the logger
replace fields of the same name.
-/
def record (entry : Entry) : Table String Value :=
  let fields := entry.fields.filter fun field => field.1 ∉ reserved
  (((Table.ofList fields).insert "event" (.text entry.event)).insert
    "level" (.text entry.level.name)).insert "logger" (.text entry.loggerName)

/-- The line of the log file: the record as one JSON object. -/
def line (entry : Entry) : String :=
  Value.render (.object entry.record.entries) ++ "\n"

/--
The fields as a listener sees them: those of the entry, its event, and its level
under the key `log_level`.
-/
def captured (entry : Entry) : Table String Value :=
  ((Table.ofList entry.fields).insert "event" (.text entry.event)).insert
    "log_level" (.text entry.level.name)

/-! ## The console -/

/-- The number of line feeds in a text. -/
def lineFeeds (text : String) : Nat :=
  text.toList.count '\n'

/-- The text of a field of the record, if the field holds a text. -/
def text? (entry : Entry) (key : String) : Option String :=
  match entry.record.get? key with
  | some (.text value) => some value
  | _ => none

/--
The number of lines below the entry on the console: a stack and an error are
printed there as they are, and a line between two empty ones divides them.
-/
def attachedLines (entry : Entry) : Nat :=
  match entry.text? "stack", entry.text? "exception" with
  | none, none => 0
  | some text, none | none, some text => 1 + lineFeeds text
  | some stack, some error => 5 + lineFeeds stack + lineFeeds error

/--
The number of lines that the entry takes on the console.  The event, the logger
and the names of the fields are printed as they are; in the texts of fields a line
feed is escaped, except in that of the field `logger_name`.
-/
def consoleLines (entry : Entry) : Nat :=
  let printed :=
    entry.event :: entry.loggerName :: (entry.text? "logger_name").getD "" :: entry.record.keys
  (printed.map lineFeeds).foldl (· + ·) (1 + entry.attachedLines)

end Entry

/-- The entries that reach a threshold. -/
def passing (threshold : Nat) (entries : List Entry) : List Entry :=
  entries.filter fun entry => entry.level.Passes threshold

/--
The entries that a listener hears, or the first refusal of one.  Texts alone do not
reach a listener.
-/
def heard (threshold : Nat) (entries : List Entry) : Except EntryError (List Entry) :=
  let structured := entries.filter fun entry => entry.channel = .structured
  match structured.findSome? (Entry.refusalAt? threshold) with
  | some error => .error error
  | none => .ok (passing threshold structured)

/-- A number that is no threshold of a listener. -/
structure UnknownThreshold where
  number : Int
deriving DecidableEq, Repr

/-- The wording of an unknown threshold: the number itself. -/
def UnknownThreshold.message (error : UnknownThreshold) : String :=
  toString error.number

/-- The thresholds that a listener can be told: everything, or the rank of a level. -/
def knownThresholds : List Nat := [0, 10, 20, 30, 40, 50]

/--
The threshold of a listener that is told several numbers in turn: only the first
counts.
-/
def firstThreshold (numbers : List Int) : Except UnknownThreshold Nat :=
  match numbers with
  | [] => .ok defaultThreshold
  | number :: _ =>
    match knownThresholds.find? fun known => number == Int.ofNat known with
    | some known => .ok known
    | none => .error ⟨number⟩

end RegularModels.Log
