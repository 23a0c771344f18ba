import SciCalc.Command.Report

/-!
# The program

The program reads what a command line needs, runs it, and shows, writes and logs what is reported.
-/

namespace SciCalc.Program

open Command

def log (weight : Nat) (notices : List Notice) : IO Unit :=
  for notice in notices do
    if isLogged weight notice then IO.eprintln notice.line

/-- A failure ends the program. -/
def fail (failure : Failure) : IO UInt32 := do
  IO.eprintln failure.message
  return 1

def readText (path : String) : IO Finding := do
  try return .text (← IO.FS.readFile path)
  catch _ => return .nothing

def homeDirectory : IO String := return (← IO.getEnv "HOME").getD "/"

/-- Talks to the user line by line. -/
partial def converse (weight : Nat) (calculator : Calculator) : IO UInt32 := do
  IO.print Dialogue.prompt
  (← IO.getStdout).flush
  let line ← (← IO.getStdin).getLine
  if line.isEmpty then return 0
  match Dialogue.reply calculator line with
  | .error failure => fail failure
  | .ok .stop => return 0
  | .ok (.lines next lines notices) =>
    log weight notices
    IO.print (Dialogue.joinLines lines)
    converse weight next

/-- Shows, writes and logs a report. -/
def present (weight : Nat) (report : Report) : IO UInt32 := do
  log weight report.notices
  if let some fault := report.usageFault then IO.eprintln (usageLine fault)
  IO.print report.output
  if let some (path, text) := report.written then
    try IO.FS.writeFile path text
    catch _ => return ← fail (.directoryNotFound (Path.parent path))
  return UInt32.ofNat report.exit

def runOptions (arguments : List String) (options : Options) (weight : Nat) : IO UInt32 := do
  match options.task, calculator options with
  | .dialogue, .ok calculator =>
    IO.println (Dialogue.greeting calculator)
    converse weight calculator
  | task, _ =>
    let home ← homeDirectory
    let found ← match task with
      | .table path => readText (Path.expandHome home path)
      | _ => pure .nothing
    -- whether a file can be written shows when it is written
    let writing := options.outputPath.map fun path => Path.parent (Path.expandHome home path)
    let find := fun path => if some path = writing then .directory else found
    match run arguments { input := "", home := home, find := find } with
    | .ok report => present weight report
    | .error failure => fail failure

/-- Runs a command line and gives the exit code. -/
def start (arguments : List String) : IO UInt32 := do
  match Invocation.ofArguments arguments with
  | .ok (.run options) =>
    match logWeight options.logLevel with
    | .ok weight => runOptions arguments options weight
    | .error failure => fail failure
  | .ok .help =>
    IO.println ("options: " ++ ", ".intercalate (Flag.all.map Flag.label))
    return 0
  | .error fault =>
    IO.eprintln (usageLine fault)
    return 2

end SciCalc.Program

def main (arguments : List String) : IO UInt32 := SciCalc.Program.start arguments
