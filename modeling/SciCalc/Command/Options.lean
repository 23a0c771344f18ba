import SciCalc.Batch
import SciCalc.Decimal.Reader

/-!
# Options of the command line

The words of a command line are classified one by one, and then consumed from left to right. The name of an
option may be cut short as long as it stays unique, and its value may be joined with an equals sign.
-/

namespace SciCalc.Command

/-- Options without a value. -/
inductive Switch where
  | help
  | interactive
  | showPostfix
deriving DecidableEq, Repr

/-- Options with a value. -/
inductive Setting where
  | expression
  | dataPath
  | expressionColumn
  | angleColumn
  | outputPath
  | angleUnit
  | precision
  | logLevel
deriving DecidableEq, Repr

inductive Flag where
  | switch (switch : Switch)
  | setting (setting : Setting)
deriving DecidableEq, Repr

namespace Flag

/-- All options, in the order in which they are listed to the user. -/
def all : List Flag := [
  .switch .help, .setting .expression, .switch .interactive, .setting .dataPath,
  .setting .expressionColumn, .setting .angleColumn, .setting .outputPath, .setting .angleUnit,
  .setting .precision, .switch .showPostfix, .setting .logLevel]

def name : Flag → String
  | switch .help => "--help"
  | switch .interactive => "--interactive"
  | switch .showPostfix => "--show_rpn"
  | setting .expression => "--expression"
  | setting .dataPath => "--data_path"
  | setting .expressionColumn => "--expression_column"
  | setting .angleColumn => "--angle_column"
  | setting .outputPath => "--output_path"
  | setting .angleUnit => "--angle_unit"
  | setting .precision => "--precision"
  | setting .logLevel => "--log_level"

/-- The only short name of an option. -/
def shortHelp : String := "-h"

/-- All names of an option. -/
def names (flag : Flag) : List String :=
  match flag with
  | switch .help => [shortHelp, flag.name]
  | _ => [flag.name]

/-- How messages call the option. -/
def label (flag : Flag) : String := "/".intercalate flag.names

def named? (name : String) : Option Flag := all.find? (·.names.contains name)

/-- The options whose long name starts with the given text. -/
def startingWith (start : List Char) : List Flag := all.filter (start.isPrefixOf ·.name.toList)

end Flag

/-- The units that can be chosen. -/
def unitChoices : List String := [AngleUnit.degrees.name, AngleUnit.radians.name]

/-- Why a command line is refused. -/
inductive UsageFault where
  | ambiguous (word : String) (candidates : List Flag)
  | missingValue (setting : Setting)
  | needlessValue (switch : Switch) (value : String)
  | unknownChoice (setting : Setting) (value : String) (choices : List String)
  | unreadableNumber (setting : Setting) (value : String)
  | unknownArguments (words : List String)
deriving DecidableEq, Repr

def UsageFault.message : UsageFault → String
  | ambiguous word candidates =>
    let names := ", ".intercalate (candidates.map Flag.name)
    s!"ambiguous option: {word} could match {names}"
  | missingValue setting => s!"argument {(Flag.setting setting).label}: expected one argument"
  | needlessValue switch value =>
    s!"argument {(Flag.switch switch).label}: ignored explicit argument {Text.quoted value}"
  | unknownChoice setting value choices =>
    let listed := ", ".intercalate (choices.map Text.quoted)
    s!"argument {(Flag.setting setting).label}: invalid choice: {Text.quoted value} (choose from {listed})"
  | unreadableNumber setting value =>
    s!"argument {(Flag.setting setting).label}: invalid int value: {Text.quoted value}"
  | unknownArguments words => "unrecognized arguments: " ++ " ".intercalate words

/-! ### Words -/

/-- What a word of the command line is. -/
inductive Word where
  | value (text : String)
  | flag (flag : Flag) (joined : Option String)
  /-- It looks like an option, but there is no such option. -/
  | unknown (text : String)
  /-- All words behind it are values. -/
  | separator
deriving DecidableEq, Repr

/-- A minus sign and digits with an optional point, before which digits may be missing. One line end may
follow. -/
def isNegativeNumber : List Char → Bool
  | '-' :: rest =>
    let digits := if rest.getLast? = some '\n' then rest.dropLast else rest
    match digits.dropWhile Text.isDecimalDigit with
    | [] => !digits.isEmpty
    | '.' :: fraction => !fraction.isEmpty && fraction.all Text.isDecimalDigit
    | _ => false
  | _ => false

/-- The part of a word before its first equals sign, and the part behind it. -/
def splitJoined (word : List Char) : List Char × Option String :=
  let name := word.takeWhile (· ≠ '=')
  match word.drop name.length with
  | [] => (name, none)
  | _ :: value => (name, some (String.ofList value))

/-- What is joined to the short name of the help option. More letters of that name only ask for help again. -/
def helpTail (joined : List Char) : Option String :=
  match joined.dropWhile (· = 'h') with
  | [] => if joined.isEmpty then some "" else none
  | tail => some (String.ofList tail)

/-- The word cut short, or the short name of an option with something behind it. -/
def Word.ofShortened (word : List Char) : Except UsageFault Word :=
  let (name, joined) := splitJoined word
  let candidates := if ['-', '-'].isPrefixOf word then Flag.startingWith name else []
  match candidates with
  | [found] => .ok (.flag found joined)
  | [] =>
    if Flag.shortHelp.toList.isPrefixOf word then
      .ok (.flag (.switch .help) (helpTail (word.drop Flag.shortHelp.length)))
    else if isNegativeNumber word || word.contains ' ' then .ok (.value (String.ofList word))
    else .ok (.unknown (String.ofList word))
  | candidates => .error (.ambiguous (String.ofList word) candidates)

/-- A word that is not the separator. -/
def Word.ofText (text : String) : Except UsageFault Word :=
  match text.toList with
  | '-' :: second :: rest =>
    let word := '-' :: second :: rest
    let (name, joined) := splitJoined word
    match Flag.named? (String.ofList name) with
    | some found =>
      .ok (.flag found (if name = Flag.shortHelp.toList then joined.bind (helpTail ·.toList) else joined))
    | none => Word.ofShortened word
  | _ => .ok (.value text)

def Word.ofTexts : List String → Except UsageFault (List Word)
  | [] => .ok []
  | text :: rest => do
    if text = "--" then return .separator :: rest.map Word.value
    return (← Word.ofText text) :: (← Word.ofTexts rest)

/-! ### Options -/

/-- What a command line asks for. -/
structure Options where
  expression : Option String := none
  interactive : Bool := false
  dataPath : Option String := none
  expressionColumn : String := Batch.standardColumn
  /-- A column may be asked for by something that is no name. -/
  angleColumn : Option (Option String) := none
  outputPath : Option String := none
  angleUnit : String := Settings.standard.angleUnit
  precision : Int := Settings.standard.precision
  showPostfix : Bool := false
  logLevel : String := Settings.standard.logLevel

/-- The last value of an option counts. -/
def Options.set (options : Options) (setting : Setting) (value : String) : Except UsageFault Options :=
  match setting with
  | .expression => .ok { options with expression := some value }
  | .dataPath => .ok { options with dataPath := some value }
  | .expressionColumn => .ok { options with expressionColumn := value }
  | .angleColumn => .ok { options with angleColumn := some (some value) }
  | .outputPath => .ok { options with outputPath := some value }
  | .angleUnit =>
    if unitChoices.contains value then .ok { options with angleUnit := value }
    else .error (.unknownChoice setting value unitChoices)
  | .precision =>
    match Decimal.readInt? value with
    | some precision => .ok { options with precision := precision }
    | none => .error (.unreadableNumber setting value)
  | .logLevel => .ok { options with logLevel := value }

/-- Two dashes that are joined to an option stand for an empty list. It counts as no value, except as an
expression, which reads as it is displayed, and as a column, of which it is no name. -/
def Options.setEmpty (options : Options) (setting : Setting) : Options :=
  let standard : Options := {}
  match setting with
  | .expression => { options with expression := some "[]" }
  | .dataPath => { options with dataPath := standard.dataPath }
  | .expressionColumn => { options with expressionColumn := standard.expressionColumn }
  | .angleColumn => { options with angleColumn := some none }
  | .outputPath => { options with outputPath := standard.outputPath }
  | .angleUnit => { options with angleUnit := standard.angleUnit }
  | .precision => { options with precision := standard.precision }
  | .logLevel => { options with logLevel := standard.logLevel }

/-- Sets an option to the value that is joined to it. -/
def Options.join (options : Options) (setting : Setting) (value : String) : Except UsageFault Options :=
  if value = "--" then .ok (options.setEmpty setting) else options.set setting value

inductive Invocation where
  | help
  | run (options : Options)

/-- Consumes the words. `stray` holds those that belong to no option, last first. -/
def consume (options : Options) (stray : List String) : List Word → Except UsageFault Invocation
  | [] => if stray.isEmpty then .ok (.run options) else .error (.unknownArguments stray.reverse)
  | .value text :: rest => consume options (text :: stray) rest
  | .unknown text :: rest => consume options (text :: stray) rest
  | .separator :: rest => consume options ("--" :: stray) rest
  | .flag (.switch switch) (some value) :: _ => .error (.needlessValue switch value)
  | .flag (.switch .help) none :: _ => .ok .help
  | .flag (.switch .interactive) none :: rest => consume { options with interactive := true } stray rest
  | .flag (.switch .showPostfix) none :: rest => consume { options with showPostfix := true } stray rest
  | .flag (.setting setting) (some value) :: rest => do consume (← options.join setting value) stray rest
  | .flag (.setting setting) none :: .value value :: rest => do
    consume (← options.set setting value) stray rest
  | .flag (.setting setting) none :: _ => .error (.missingValue setting)

/-- What the arguments of a command line ask for. -/
def Invocation.ofArguments (arguments : List String) : Except UsageFault Invocation := do
  consume {} [] (← Word.ofTexts arguments)

/-! ### Tasks -/

/-- The work that options select. A table goes before an expression, and an expression before a dialogue. -/
inductive Task where
  | table (path : String)
  | single (expression : String)
  | dialogue
  | nothing
deriving DecidableEq, Repr

/-- An empty text names no file. -/
def fileName? : Option String → Option String
  | some "" => none
  | name => name

def Options.task (options : Options) : Task :=
  match fileName? options.dataPath, options.expression with
  | some path, _ => .table path
  | none, some expression => .single expression
  | none, none => if options.interactive then .dialogue else .nothing

end SciCalc.Command
