import SciCalc.Calculator

/-!
# Dialogues

A dialogue reads lines: commands and expressions. It keeps the history of its expressions, and it ends with a
command or with the input.
-/

namespace SciCalc.Dialogue

/-- The session that a dialogue records its expressions in. -/
def session : String := "cli"

/-- What is shown while a line is awaited. -/
def prompt : String := "> "

def greeting (calculator : Calculator) : String := s!"Angle unit: {calculator.unit.name}. Type 'quit' to exit."

/-- What a line leads to. -/
inductive Reply where
  | stop
  | lines (next : Calculator) (lines : List String) (notices : List Notice)

def historyLines (history : History) : List String :=
  if history.entries.isEmpty then ["(empty)"] else history.entries.map Entry.display

def outcomeLine (outcome : Outcome) : String :=
  match outcome.answer with
  | .ok shown => s!"Result: {shown.text}"
  | .error fault => s!"Error: {fault.message}"

/-- The unit that a command switches to. -/
def unitCommand? : String → Option AngleUnit
  | "deg" => some .degrees
  | "rad" => some .radians
  | _ => none

/-- The reply to a line. Blanks around it do not count, nor does the case of a command. -/
def reply (calculator : Calculator) (line : String) : Except Failure Reply :=
  let line := Text.trimBlanks line
  let command := Text.lower line
  if command.isEmpty then .ok (.lines calculator [] [])
  else if command = "quit" || command = "exit" then .ok .stop
  else if command = "history" then
    let (history, store) := calculator.store.get session
    history.map fun history => .lines { calculator with store := store } (historyLines history) []
  else
    match unitCommand? command with
    | some unit => .ok (.lines { calculator with unit := unit } [s!"Angle unit: {unit.name}"] [])
    | none =>
      let (outcome, next) := calculator.calculate (.text line) .absent (some session)
      outcome.map fun outcome => .lines next [outcomeLine outcome] outcome.notices

/-- Lines with their line ends. -/
def joinLines (lines : List String) : String := String.join (lines.map (· ++ "\n"))

/-- What is shown and logged while the given lines are read. -/
def converse (calculator : Calculator) : List String → Except Failure (String × List Notice)
  | [] => .ok (prompt, [])
  | line :: rest => do
    match ← reply calculator line with
    | .stop => return (prompt, [])
    | .lines next lines notices =>
      let (shown, later) ← converse next rest
      return (prompt ++ joinLines lines ++ shown, notices ++ later)

/-- The lines of an input; the last one may lack its line end. -/
def inputLines : List Char → List (List Char)
  | [] => []
  | c :: rest =>
    if c = '\n' then [] :: inputLines rest
    else
      match inputLines rest with
      | [] => [[c]]
      | line :: later => (c :: line) :: later

/-- The whole dialogue on an input. -/
def run (calculator : Calculator) (input : String) : Except Failure (String × List Notice) := do
  let (shown, notices) ← converse calculator ((inputLines input.toList).map String.ofList)
  return (joinLines [greeting calculator] ++ shown, notices)

end SciCalc.Dialogue
