import RegularModels.Options.Basic
import RegularModels.Text.Digit
import RegularModels.Text.Quoted

/-!
# Reading the command line

Arguments are first told apart: an argument with a dash in front is an option,
unless it is a lone dash, a negative number, or holds a space and names no option.
Long options may be shortened as long as only one option begins that way, and may
carry their value behind an equals sign, where a lone double dash stands for no
value.  After a lone double dash all arguments
are taken as they are.

Then options are carried out from left to right; the first argument that is no
option is the file, and whatever is left over is refused in the end.
-/

namespace RegularModels

/-- The options that the program knows. -/
inductive Switch where
  | help
  | logLevel
  | logDirectory
  | strict
deriving DecidableEq, Repr

namespace Switch

/-- The switch stands before a value. -/
def takesValue : Switch → Bool
  | logLevel | logDirectory => true
  | help | strict => false

/-- How an option is called in error messages. -/
def title : Switch → String
  | help => "-h/--help"
  | logLevel => "--log-level"
  | logDirectory => "--log-dir"
  | strict => "--strict"

/-- The short name of the switch that asks for help. -/
def short : String := "-h"

/-- The long options, in the order in which they are listed. -/
def long : List (String × Switch) :=
  [("--help", help), ("--log-level", logLevel), ("--log-dir", logDirectory),
    ("--strict", strict)]

/-- The option of exactly this name. -/
def ofName? (name : String) : Option Switch :=
  if name = short then some help else long.lookup name

end Switch

/-- Why a command line is refused. -/
inductive OptionError where
  /-- Several options begin like this one. -/
  | ambiguous (argument : String) (candidates : List String)
  /-- The option takes no value but was given one. -/
  | ignoredValue (switch : Switch) (value : String)
  /-- The option needs a value. -/
  | missingValue (switch : Switch)
  /-- Nothing is known about these arguments. -/
  | unrecognized (arguments : List String)
deriving DecidableEq, Repr

/-- What is told about a command line that is refused. -/
def OptionError.message : OptionError → String
  | ambiguous argument candidates =>
    "ambiguous option: " ++ argument ++ " could match " ++ ", ".intercalate candidates
  | ignoredValue switch value =>
    "argument " ++ switch.title ++ ": ignored explicit argument " ++ Text.quoted value
  | missingValue switch => "argument " ++ switch.title ++ ": expected one argument"
  | unrecognized arguments => "unrecognized arguments: " ++ " ".intercalate arguments

/-- What an error prints: the usage and the error itself. -/
def OptionError.text (error : OptionError) : String :=
  unlines (usageLines ++ [programName ++ ": error: " ++ error.message])

/-- What a command line asks for. -/
inductive Request where
  | run (options : Options)
  | help
  | refuse (error : OptionError)
deriving DecidableEq, Repr

/-! ## Telling arguments apart -/

/-- What an argument is. -/
inductive Token where
  /-- An argument that is taken as it is. -/
  | plain (text : String)
  /-- The double dash that ends the options, with the arguments behind it. -/
  | separator (rest : List String)
  /-- An option, perhaps with a value behind it. -/
  | option (switch : Switch) (isShort : Bool) (value : Option String)
  /-- An option that the program does not know. -/
  | unknown (text : String)
deriving DecidableEq, Repr

namespace Token

/-- A minus sign, digits, and perhaps a point with digits behind it. -/
def isNegativeNumber (text : String) : Bool :=
  let isDigit := fun char => (Text.digitValue? char).isSome
  let chars := text.toList
  let core := if chars.getLast? = some '\n' then chars.dropLast else chars
  match core with
  | '-' :: number =>
    match Text.splitWhere ('.' == ·) number with
    | [whole] => !whole.isEmpty && whole.all isDigit
    | [whole, fraction] => whole.all isDigit && !fraction.isEmpty && fraction.all isDigit
    | _ => false
  | _ => false

/-- The parts of an option before and behind its first equals sign, if it has one. -/
def splitValue (text : String) : String × Option String :=
  let name := text.toList.takeWhile (· ≠ '=')
  match text.toList.dropWhile (· ≠ '=') with
  | [] => (text, none)
  | _ :: value => (String.ofList name, some (String.ofList value))

/-- The options that an argument may stand for, by name and with the value it carries. -/
def candidates (text : String) : List (String × Token) :=
  if "--".toList.isPrefixOf text.toList then
    let (name, value) := splitValue text
    (Switch.long.filter fun entry => name.toList.isPrefixOf entry.1.toList).map fun entry =>
      (entry.1, .option entry.2 false value)
  else if Switch.short.toList.isPrefixOf text.toList then
    [(Switch.short, .option .help true (some (String.ofList (text.toList.drop 2))))]
  else []

/-- What an argument is that starts with a dash and is no exact option. -/
def ofDashed (text : String) : Except OptionError Token :=
  match candidates text with
  | [(_, token)] => .ok token
  | [] =>
    if isNegativeNumber text || text.toList.contains ' ' then .ok (.plain text)
    else .ok (.unknown text)
  | several => .error (.ambiguous text (several.map (·.1)))

/-- What an argument is, before any double dash. -/
def ofArgument (text : String) : Except OptionError Token :=
  if text.toList.head? ≠ some '-' then .ok (.plain text)
  else
    match Switch.ofName? text with
    | some switch => .ok (.option switch (text == Switch.short) none)
    | none =>
      if text = "-" then .ok (.plain text)
      else
        let (name, value) := splitValue text
        match value, Switch.ofName? name with
        | some value, some switch => .ok (.option switch (name == Switch.short) (some value))
        | _, _ => ofDashed text

/-- Tell switches, values and separators apart; what follows a separator is not looked at. -/
def ofArguments : List String → Except OptionError (List Token)
  | [] => .ok []
  | text :: rest =>
    if text = "--" then .ok [.separator rest]
    else
      match ofArgument text with
      | .error error => .error error
      | .ok token =>
        match ofArguments rest with
        | .error error => .error error
        | .ok tokens => .ok (token :: tokens)

end Token

/-! ## Carrying out -/

/-- What has been read of a command line. -/
structure Progression where
  options : Options
  /-- The file has been found, or will not be found any more. -/
  filed : Bool := false
  /-- Arguments that are left over, in order. -/
  leftOver : List String := []

namespace Progression

/-- Leave an argument over, which is reported at the end. -/
def leave (state : Progression) (argument : String) : Progression :=
  { state with leftOver := state.leftOver ++ [argument] }

/-- Take an argument as the file, or leave it over if there is one. -/
def takePlain (state : Progression) (argument : String) : Progression :=
  if state.filed then state.leave argument
  else { state with options := { state.options with file := some argument }, filed := true }

/-- Set an option that takes a value. -/
def setValue (state : Progression) (switch : Switch) (value : OptionValue) : Progression :=
  match switch with
  | .logLevel => { state with options := { state.options with logLevel := some value } }
  | .logDirectory =>
    { state with options := { state.options with logDirectory := some value } }
  | .help | .strict => state

/-- The end of a command line: everything must have been used. -/
def finish (state : Progression) : Request :=
  if state.leftOver.isEmpty then .run state.options
  else .refuse (.unrecognized state.leftOver)

/--
The double dash and the arguments behind it.  While there is no file, the dash is
passed over and the first argument behind it is the file.
-/
def takeSeparated (state : Progression) (rest : List String) : Progression :=
  if state.filed then rest.foldl leave (state.leave "--") else rest.foldl takePlain state

/--
A plain argument directly before the double dash.  The dash is passed over when the
argument is the file.
-/
def takePlainSeparated (state : Progression) (argument : String) (rest : List String) :
    Progression :=
  if state.filed then (state.leave argument).takeSeparated rest
  else rest.foldl leave (state.takePlain argument)

/-- Carry out what takes no further argument. -/
def carryOut (state : Progression) (switch : Switch) : Progression ⊕ Request :=
  match switch with
  | .help => .inr .help
  | .strict => .inl { state with options := { state.options with strict := true } }
  | .logLevel | .logDirectory => .inr (.refuse (.missingValue switch))

/-- Carry out an option with a value behind it. -/
def carryOutWith (state : Progression) (switch : Switch) (isShort : Bool) (value : String) :
    Progression ⊕ Request :=
  if switch.takesValue then .inl (state.setValue switch (.ofAttached value))
  else
    let beyond := value.toList.dropWhile (· == 'h')
    if isShort && value ≠ "" then
      if beyond.isEmpty then state.carryOut switch
      else .inr (.refuse (.ignoredValue switch (String.ofList beyond)))
    else .inr (.refuse (.ignoredValue switch value))

/-- Go on from the one result, or stop with the other. -/
def goOn (result : Progression ⊕ Request) (next : Progression → Request) : Request :=
  match result with
  | .inl state => next state
  | .inr request => request

/-- Read the rest of a command line. -/
def read (state : Progression) : List Token → Request
  | [] => state.finish
  | .plain argument :: .separator rest :: _ => (state.takePlainSeparated argument rest).finish
  | .plain argument :: rest => (state.takePlain argument).read rest
  | .unknown argument :: rest => (state.leave argument).read rest
  | .separator rest :: _ => (state.takeSeparated rest).finish
  | .option switch isShort (some value) :: rest =>
    goOn (state.carryOutWith switch isShort value) fun next => next.read rest
  | .option switch _ none :: rest =>
    if switch.takesValue then
      match rest with
      | .plain value :: others => (state.setValue switch (.text value)).read others
      | _ => .refuse (.missingValue switch)
    else goOn (state.carryOut switch) fun next => next.read rest

end Progression

/-- What a command line asks for; what it does not say comes from the environment. -/
def Options.read (environment : Environment) (arguments : List String) : Request :=
  match Token.ofArguments arguments with
  | .error error => .refuse error
  | .ok tokens => Progression.read { options := .initial environment } tokens

end RegularModels
