import SciCalc.Command.Dialogue
import SciCalc.Command.Files
import SciCalc.Command.Options
import SciCalc.Sheet.Printer
import SciCalc.Text.LineBreak
import SciCalc.Text.Upper

/-!
# Reports of a command line

A command line is run on its surroundings, and the report says what it shows, writes and logs.
-/

namespace SciCalc.Command

/-- What a command line finds around it. -/
structure Surroundings where
  input : String
  /-- The path of the home directory. -/
  home : String
  find : String → Finding

structure Report where
  exit : Nat
  output : String := ""
  usageFault : Option UsageFault := none
  /-- The path and the text of the file that is written. -/
  written : Option (String × String) := none
  notices : List Notice := []

/-- The line that a refused command line is answered with. What the message says on later lines is lost. -/
def usageLine (fault : UsageFault) : String := s!"rpn-calc: error: {Text.firstLine fault.message}"

/-- The levels of the log, each with its weight. The last two names belong to the log as well, though they are
no levels; they leave it at the standard level. -/
def logLevels : List (String × Nat) := [
  ("CRITICAL", 50), ("FATAL", 50), ("ERROR", 40), ("WARNING", 30), ("WARN", 30), ("INFO", 20), ("DEBUG", 10),
  ("NOTSET", 0), ("BASIC_FORMAT", 20), ("_STYLES", 20)]

/-- The weight of a level that is named in any case; an empty name stands for the standard level. -/
def logWeight (name : String) : Except Failure Nat :=
  let name := Text.upper (if name.isEmpty then Settings.standard.logLevel else name)
  match logLevels.lookup name with
  | some weight => .ok weight
  | none => .error (.unknownLogLevel name)

/-- A notice is logged from the given weight on. -/
def isLogged (weight : Nat) (notice : Notice) : Bool :=
  weight ≤ (logLevels.lookup notice.severity.name).getD 0

def calculator (options : Options) : Except Failure Calculator :=
  Calculator.create (.text options.angleUnit) options.precision 0 (Store.create 0 0)

/-- The line that shows the postfix form, if the text has one. -/
def postfixLines (expression : String) : List String :=
  match Expression.compile (Spelling.ofScalar (.text expression)) with
  | .ok elements => [s!"RPN: {Postfix.displayAll elements}"]
  | .error _ => []

def runSingle (options : Options) (calculator : Calculator) (expression : String) : Except Failure Report := do
  let outcome ← calculator.assess (.text expression) .absent
  let shown := if options.showPostfix then postfixLines expression else []
  let line := match outcome.answer with
    | .ok shown => shown.text
    | .error fault => s!"Error: {fault.message}"
  return {
    exit := if outcome.isOk then 0 else 1
    output := Dialogue.joinLines (shown ++ [line])
    notices := outcome.notices }

/-- Refuses the addresses of files that cannot be opened. -/
def openable (path : String) : Except Failure Unit :=
  if Path.isRemote path then .error (.missingPart "fsspec") else .ok ()

/-- Refuses a way of packing that cannot be opened. -/
def unpackable (packing : Option Packing) : Except Failure Unit :=
  if packing = some .zstandard then .error (.missingPart "zstandard") else .ok ()

/-- The text of the file at a path. -/
def Surroundings.read (surroundings : Surroundings) (path : String) : Except Failure String := do
  openable path
  let packing := Packing.ofName? path
  unpackable packing
  let path := Path.expandHome surroundings.home path
  let text ← (surroundings.find path).toText path
  match packing with
  | none => return text
  | some packing => (packing.unpack text).mapError Failure.packing

/-- The path of the file that is written for a path: there is or may be a file at it. -/
def Surroundings.target (surroundings : Surroundings) (path : String) : Except Failure String := do
  openable path
  let packing := Packing.ofName? path
  let path := Path.expandHome surroundings.home path
  let parent := Path.parent path
  match surroundings.find parent with
  | .directory => unpackable packing
  | .nameTooLong | .pathTooLong => throw (.nameTooLong parent)
  | _ => throw (.directoryNotFound parent)
  let found := surroundings.find path
  if Path.namesDirectory path && found ≠ .nulInPath && found ≠ .pathTooLong then throw (.isDirectory path)
  unless found = .nothing && Path.lastName path ≠ "." do
    let _ ← found.toText path
  return path

/-- Adds the result to a report: it is written to the output path, or shown if there is none. -/
def Report.deliver (report : Report) (surroundings : Surroundings) (outputPath : Option String)
    (result : Sheet) : Except Failure Report :=
  match fileName? outputPath with
  | none => .ok { report with output := Dialogue.joinLines [result.print [Batch.resultColumn]] }
  | some path => do
    return { report with written := some (← surroundings.target path, Csv.write result) }

def runTable (options : Options) (surroundings : Surroundings) (calculator : Calculator) (path : String) :
    Except Failure Report := do
  let (sheet, dropped) ← Batch.load (← surroundings.read path) options.expressionColumn
  let angleColumn ← match options.angleColumn with
    | none => pure none
    | some (some name) => pure (some name)
    | some none => throw .columnWithoutName
  let outcomes ← Batch.outcomes calculator sheet options.expressionColumn angleColumn
  let report : Report := {
    exit := if (Batch.summarize outcomes).failed = 0 then 0 else 1
    notices := dropped ++ Batch.notices outcomes }
  report.deliver surroundings options.outputPath (Batch.withOutcomes sheet outcomes)

def runDialogue (surroundings : Surroundings) (calculator : Calculator) : Except Failure Report := do
  let (shown, notices) ← Dialogue.run calculator surroundings.input
  return { exit := 0, output := shown, notices := notices }

/-- There is no task to run. -/
def idle : Report where
  exit := 2
  notices := [⟨.error, "Nothing to do: pass --expression, --data_path or --interactive"⟩]

def runOptions (options : Options) (surroundings : Surroundings) : Except Failure Report := do
  let _ ← logWeight options.logLevel
  let calculator ← calculator options
  match options.task with
  | .table path => runTable options surroundings calculator path
  | .single expression => runSingle options calculator expression
  | .dialogue => runDialogue surroundings calculator
  | .nothing => return idle

/-- The report of a command line. -/
def run (arguments : List String) (surroundings : Surroundings) : Except Failure Report :=
  match Invocation.ofArguments arguments with
  | .error fault => .ok { exit := 2, usageFault := some fault }
  | .ok .help => .ok { exit := 0 }
  | .ok (.run options) => runOptions options surroundings

end SciCalc.Command
