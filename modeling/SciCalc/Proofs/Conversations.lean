import SciCalc.Command.Report
import SciCalc.Proofs.Calculations

/-!
# Conversations

What a dialogue shows, told by its lines alone: the answer to a line depends on the lines before it and on what the
calculator was at the start. Logs of turns are given latest first.
-/

namespace SciCalc

namespace Text

/-- No character is lost in lower case. -/
theorem isEmpty_lower {text : String} : (lower text).isEmpty = true ↔ text = "" := by
  have hchar (c : Char) : lowerChar c ≠ [] := by
    simp only [lowerChar]
    split
    · exact List.cons_ne_nil _ _
    · split <;> exact List.cons_ne_nil _ _
  rw [String.isEmpty_iff, lower, String.ofList_eq_empty_iff, ← String.toList_eq_nil_iff]
  cases text.toList with
  | nil => exact Iff.rfl
  | cons c rest =>
    refine iff_of_false (fun h => ?_) (List.cons_ne_nil c rest)
    have hfirst := (List.append_eq_nil_iff.mp h).1
    split at hfirst
    · exact List.cons_ne_nil _ _ hfirst
    · exact hchar c hfirst

end Text

namespace Dialogue

/-- What a line says to a dialogue. -/
inductive Turn where
  | blank
  | stop
  | history
  | unit (unit : AngleUnit)
  | expression (text : String)
deriving DecidableEq

/-- Blanks around a line do not count, nor does the case of a command. -/
def Turn.ofLine (line : String) : Turn :=
  let text := Text.trimBlanks line
  let command := Text.lower text
  if text = "" then .blank
  else if command = "quit" ∨ command = "exit" then .stop
  else if command = "history" then .history
  else if command = "deg" then .unit .degrees
  else if command = "rad" then .unit .radians
  else .expression text

/-- The turns up to the first one that stops the dialogue. -/
def heard (lines : List String) : List Turn := (lines.map Turn.ofLine).takeWhile (· ≠ .stop)

example : heard ["deg", "sin(30)", " QUIT ", "never reached"] = [.unit .degrees, .expression "sin(30)"] := by rfl

/-- The unit in force behind a log: the one that was switched to last, or else the first one. -/
def unitBehind (first : AngleUnit) : List Turn → AngleUnit
  | [] => first
  | .unit unit :: _ => unit
  | .blank :: earlier | .stop :: earlier | .history :: earlier | .expression _ :: earlier => unitBehind first earlier

/-- The outcome of an expression behind a log. -/
def outcomeBehind (start : Calculator) (log : List Turn) (text : String) : Except Failure Outcome :=
  { start with unit := unitBehind start.unit log : Calculator }.assess (.text text) .absent

/-- What there is to remember of a turn: the text of a successful expression and its result in the unit in force. -/
def entryOf (start : Calculator) (log : List Turn) : Turn → Option Entry
  | .expression text =>
    match outcomeBehind start log text with
    | .ok ⟨_, .ok shown⟩ => some ⟨.text text, shown.text⟩
    | .ok ⟨_, .error _⟩ | .error _ => none
  | .blank | .stop | .history | .unit _ => none

/-- The entries of a log, the latest first. -/
def remembered (start : Calculator) : List Turn → List Entry
  | [] => []
  | turn :: earlier => (entryOf start earlier turn).toList ++ remembered start earlier

/-- The lines that answer a turn behind a log. -/
def answer (start : Calculator) (log : List Turn) : Turn → List String
  | .blank | .stop => []
  | .history =>
    match remembered start log with
    | [] => ["(empty)"]
    | entries => (entries.take start.store.maxEntries.toNat).map Entry.display
  | .unit unit => ["Angle unit: " ++ unit.name]
  | .expression text =>
    match outcomeBehind start log text with
    | .ok ⟨_, .ok shown⟩ => ["Result: " ++ shown.text]
    | .ok ⟨_, .error fault⟩ => ["Error: " ++ fault.message]
    | .error _ => []

/-- What is shown while turns are taken behind a log: a prompt for each, and its answer. -/
def transcript (start : Calculator) : List Turn → List Turn → String
  | _, [] => prompt
  | log, turn :: later => prompt ++ joinLines (answer start log turn) ++ transcript start (turn :: log) later

/-- Every expression has an outcome in its place, be it a value or a fault. -/
def IsAnswered (start : Calculator) (turns : List Turn) : Prop :=
  ∀ before text behind, turns = before ++ .expression text :: behind →
    ∃ outcome, outcomeBehind start before.reverse text = .ok outcome

/-- Nothing is known of the session that dialogues record in, and the store has a place for it. -/
structure IsFresh (calculator : Calculator) : Prop where
  usable : calculator.store.IsUsable
  unknown : session ∉ calculator.store.names

/-- A calculator with a new store is fresh if the store can create the session at all. -/
theorem isFresh_of_create {calculator : Calculator} {maxEntries maxSessions : Int}
    (hstore : calculator.store = .create maxEntries maxSessions)
    (hget : ∃ history, (calculator.store.get session).1 = .ok history) : IsFresh calculator := by
  have horStandard {given standard : Int} (h : standard ≠ 0) : Settings.orStandard given standard ≠ 0 := by
    rw [Settings.orStandard]
    split <;> assumption
  rw [hstore] at hget
  constructor
  · rw [hstore]
    refine Classical.byContradiction fun hunusable => ?_
    obtain ⟨failure, hfailure⟩ := Store.get_of_unusable hunusable rfl (horStandard (by decide))
      (horStandard (by decide)) session
    obtain ⟨history, hhistory⟩ := hget
    rw [hfailure] at hhistory
    contradiction
  · rw [hstore]
    exact List.not_mem_nil

theorem isFresh_of_options {options : Command.Options} {calculator : Calculator}
    (h : Command.calculator options = .ok calculator) : IsFresh calculator := by
  obtain ⟨unit, -, h⟩ := bind_eq_ok h
  cases h
  exact @isFresh_of_create _ 0 0 rfl ⟨_, rfl⟩

/-- Every expression has an outcome with a precision in which no value is rounded to infinity. -/
theorem isAnswered_of_precision {start : Calculator} (hlow : 1 ≤ start.precision) (hhigh : start.precision ≤ 17)
    (hprecision : start.precision ∉ Display.overflowing) (turns : List Turn) : IsAnswered start turns := by
  intro before text behind _
  rcases @Calculator.assess_cases { start with unit := unitBehind start.unit before.reverse } .absent _ rfl hlow hhigh
    (.text text) with ⟨-, houtcome⟩ | ⟨-, hgreat, -⟩
  · exact houtcome
  · exact absurd hgreat hprecision

/-- The reply to a line depends on what the line says only. -/
theorem reply_eq (calculator : Calculator) (line : String) : reply calculator line =
    match Turn.ofLine line with
    | .blank => .ok (.lines calculator [] [])
    | .stop => .ok .stop
    | .history => (calculator.store.get session).1.map fun history =>
        .lines { calculator with store := (calculator.store.get session).2 } (historyLines history) []
    | .unit unit => .ok (.lines { calculator with unit := unit } ["Angle unit: " ++ unit.name] [])
    | .expression text => (calculator.calculate (.text text) .absent (some session)).1.map fun outcome =>
        .lines (calculator.calculate (.text text) .absent (some session)).2 [outcomeLine outcome] outcome.notices := by
  unfold reply Turn.ofLine
  simp only [Text.isEmpty_lower, Bool.or_eq_true, decide_eq_true_eq]
  split
  · rfl
  split
  · rfl
  split
  · rfl
  by_cases hdeg : Text.lower (Text.trimBlanks line) = "deg"
  · rw [if_pos hdeg, hdeg]
    rfl
  by_cases hrad : Text.lower (Text.trimBlanks line) = "rad"
  · rw [if_neg hdeg, if_pos hrad, hrad]
    rfl
  have hnone : unitCommand? (Text.lower (Text.trimBlanks line)) = none := by
    unfold unitCommand?
    split
    · exact absurd ‹_› hdeg
    · exact absurd ‹_› hrad
    · rfl
  rw [if_neg hdeg, if_neg hrad, hnone]

/-- What a calculator has come to behind a log. -/
structure Tells (start : Calculator) (log : List Turn) (calculator : Calculator) : Prop where
  unit : calculator.unit = unitBehind start.unit log
  precision : calculator.precision = start.precision
  maxLength : calculator.maxLength = start.maxLength
  usable : calculator.store.IsUsable
  held : calculator.store.held session =
    ⟨start.store.maxEntries.toNat, (remembered start log).take start.store.maxEntries.toNat⟩

section

variable {start calculator : Calculator} {log : List Turn}

theorem IsFresh.tells (h : IsFresh start) : Tells start [] start where
  unit := rfl
  precision := rfl
  maxLength := rfl
  usable := h.usable
  held := by rw [Store.held, Store.lookup_eq_none h.unknown, Option.getD_none, remembered, List.take_nil]

/-- An outcome depends on the unit in force, and not on what is remembered. -/
theorem Tells.assess (h : Tells start log calculator) (text : String) :
    calculator.assess (.text text) .absent = outcomeBehind start log text := by
  obtain ⟨unit, precision, maxLength, store⟩ := calculator
  obtain rfl : unit = unitBehind start.unit log := h.unit
  obtain rfl : precision = start.precision := h.precision
  obtain rfl : maxLength = start.maxLength := h.maxLength
  rfl

theorem Tells.historyLines_held (h : Tells start log calculator) (hfresh : IsFresh start) :
    historyLines (calculator.store.held session) = answer start log .history := by
  have hpos : start.store.maxEntries.toNat ≠ 0 := by
    have := hfresh.usable.entries
    omega
  rw [h.held, historyLines, answer]
  cases hentries : remembered start log with
  | nil =>
    rw [List.take_nil]
    rfl
  | cons entry entries =>
    obtain ⟨places, hplaces⟩ := Nat.exists_eq_succ_of_ne_zero hpos
    rw [hplaces]
    rfl

theorem Tells.history (h : Tells start log calculator) :
    (calculator.store.get session).1 = .ok (calculator.store.held session) ∧
    Tells start (.history :: log) { calculator with store := (calculator.store.get session).2 } := by
  rw [Store.get_eq h.usable]
  refine ⟨rfl, h.unit, h.precision, h.maxLength, ⟨h.usable.entries, h.usable.word, h.usable.sessions⟩, ?_⟩
  exact (Store.held_front _ _ _ _).trans h.held

theorem Tells.expression (h : Tells start log calculator) {text : String} {outcome : Outcome}
    (houtcome : outcomeBehind start log text = .ok outcome) :
    (calculator.calculate (.text text) .absent (some session)).1 = .ok outcome ∧
    Tells start (.expression text :: log) (calculator.calculate (.text text) .absent (some session)).2 := by
  have hassess := (h.assess text).trans houtcome
  obtain ⟨expression, answer⟩ := outcome
  obtain rfl : expression = .text text := Calculator.expression_of_assess hassess
  cases answer with
  | error fault =>
    have hentry : entryOf start log (.expression text) = none := by
      simp only [entryOf, houtcome]
    rw [Calculator.calculate_of_rejected hassess]
    refine ⟨rfl, h.unit, h.precision, h.maxLength, h.usable, ?_⟩
    rw [h.held, remembered, hentry, Option.toList_none, List.nil_append]
  | ok shown =>
    have hentry : entryOf start log (.expression text) = some ⟨.text text, shown.text⟩ := by
      simp only [entryOf, houtcome]
    rw [Calculator.calculate_of_shown hassess, Store.add, Store.update_eq h.usable]
    refine ⟨rfl, h.unit, h.precision, h.maxLength, ⟨h.usable.entries, h.usable.word, h.usable.sessions⟩, ?_⟩
    refine (Store.held_front _ _ _ _).trans ?_
    rw [h.held, remembered, hentry, Option.toList_some, List.singleton_append, History.add, Store.take_cons_take]

theorem answer_expression {text : String} {outcome : Outcome} (houtcome : outcomeBehind start log text = .ok outcome) :
    answer start log (.expression text) = [outcomeLine outcome] := by
  obtain ⟨expression, answer⟩ := outcome
  cases answer <;> simp only [answer, houtcome, outcomeLine] <;> rfl

/-- One more line: the reply is the answer that the log tells, and the log tells what the calculator comes to. -/
theorem Tells.next (h : Tells start log calculator) (hfresh : IsFresh start) {line : String}
    (hstop : Turn.ofLine line ≠ .stop)
    (hanswered : ∀ text, Turn.ofLine line = .expression text → ∃ outcome, outcomeBehind start log text = .ok outcome) :
    ∃ next notices, reply calculator line = .ok (.lines next (answer start log (Turn.ofLine line)) notices) ∧
      Tells start (Turn.ofLine line :: log) next := by
  rw [reply_eq]
  generalize Turn.ofLine line = turn at hstop hanswered
  cases turn with
  | stop => contradiction
  | blank => exact ⟨calculator, [], rfl, h.unit, h.precision, h.maxLength, h.usable, h.held⟩
  | unit unit => exact ⟨{ calculator with unit := unit }, [], rfl, rfl, h.precision, h.maxLength, h.usable, h.held⟩
  | history =>
    obtain ⟨hget, hnext⟩ := h.history
    refine ⟨_, [], ?_, hnext⟩
    rw [← h.historyLines_held hfresh, hget]
    rfl
  | expression text =>
    obtain ⟨outcome, houtcome⟩ := hanswered text rfl
    obtain ⟨hcalculate, hnext⟩ := h.expression houtcome
    refine ⟨_, outcome.notices, ?_, hnext⟩
    rw [answer_expression houtcome]
    dsimp only
    rw [hcalculate]
    rfl

theorem converse_stop {line : String} (hstop : Turn.ofLine line = .stop) (rest : List String) :
    converse calculator (line :: rest) = .ok (prompt, []) := by
  have hreply : reply calculator line = .ok .stop := by
    rw [reply_eq, hstop]
  rw [converse, hreply, ok_bind]
  rfl

theorem converse_lines {next : Calculator} {line : String} {lines : List String} {notices : List Notice}
    (hreply : reply calculator line = .ok (.lines next lines notices)) (rest : List String) :
    converse calculator (line :: rest) = converse next rest >>= fun later =>
      .ok (prompt ++ joinLines lines ++ later.1, notices ++ later.2) := by
  rw [converse, hreply, ok_bind]
  rfl

/-- The whole conversation shows the transcript of what is heard. -/
theorem Tells.converse (h : Tells start log calculator) (hfresh : IsFresh start) {lines : List String}
    (hanswered : ∀ before text behind, heard lines = before ++ .expression text :: behind →
      ∃ outcome, outcomeBehind start (before.reverse ++ log) text = .ok outcome) :
    ∃ notices, converse calculator lines = .ok (transcript start log (heard lines), notices) := by
  -- the induction is on the lines: each turn makes the log longer, and the calculator is told by it again
  induction lines generalizing calculator log with
  | nil => exact ⟨[], rfl⟩
  | cons line rest ih =>
    by_cases hstop : Turn.ofLine line = .stop
    · refine ⟨[], ?_⟩
      have hheard : heard (line :: rest) = [] := by
        simp [heard, hstop]
      rw [hheard]
      exact converse_stop hstop rest
    · have hheard : heard (line :: rest) = Turn.ofLine line :: heard rest := by
        simp [heard, hstop]
      rw [hheard] at hanswered ⊢
      obtain ⟨next, notices, hreply, hnext⟩ := h.next hfresh hstop fun text htext =>
        hanswered [] text (heard rest) (congrArg (· :: heard rest) htext)
      obtain ⟨later, hlater⟩ := ih hnext fun before text behind hsplit => by
        have houtcome := hanswered (Turn.ofLine line :: before) text behind (congrArg (Turn.ofLine line :: ·) hsplit)
        rwa [List.reverse_cons, List.append_assoc] at houtcome
      refine ⟨notices ++ later, ?_⟩
      rw [converse_lines hreply, hlater]
      rfl

end

/-- A line that stops the dialogue ends it as the input does, and the lines behind it are not read. -/
theorem converse_append_stop {line : String} (hstop : Turn.ofLine line = .stop) (calculator : Calculator)
    (before behind : List String) :
    converse calculator (before ++ line :: behind) = converse calculator before := by
  induction before generalizing calculator with
  | nil =>
    rw [List.nil_append, converse_stop hstop]
    rfl
  | cons first rest ih =>
    rw [List.cons_append, converse, converse]
    refine congrArg _ (funext fun reply => ?_)
    cases reply with
    | stop => rfl
    | lines next lines notices =>
      dsimp only
      rw [ih]

theorem inputLines_line {line : List Char} (hline : '\n' ∉ line) (rest : List Char) :
    inputLines (line ++ '\n' :: rest) = line :: inputLines rest := by
  induction line with
  | nil => rfl
  | cons c later ih =>
    have hc : c ≠ '\n' := (List.ne_of_not_mem_cons hline).symm
    rw [List.cons_append, inputLines, if_neg hc, ih (List.not_mem_of_not_mem_cons hline)]

/-- Lines that are joined are read one by one. -/
theorem inputLines_joinLines {lines : List String} (hlines : ∀ line ∈ lines, '\n' ∉ line.toList) :
    (inputLines (joinLines lines).toList).map String.ofList = lines := by
  induction lines with
  | nil => rfl
  | cons line rest ih =>
    have hjoin : (joinLines (line :: rest)).toList = line.toList ++ '\n' :: (joinLines rest).toList := by
      simp [joinLines, String.join_cons]
    rw [hjoin, inputLines_line (hlines line List.mem_cons_self), List.map_cons, String.ofList_toList,
      ih fun later hlater => hlines later (List.mem_cons_of_mem line hlater)]

/-- What is promised of a dialogue that reads these lines. -/
structure IsFaithful (calculator : Calculator) (lines : List String) : Prop where
  /-- The lines are answered by what the turns before them tell. -/
  shows : ∃ notices, converse calculator lines = .ok (transcript calculator [] (heard lines), notices)
  /-- Behind a line that stops the dialogue no line has an effect. -/
  stops : ∀ before line behind, lines = before ++ line :: behind → Turn.ofLine line = .stop →
    converse calculator lines = converse calculator before
  /-- An expression is answered by one line, its result in the unit in force or its fault. -/
  answers : ∀ before text behind, heard lines = before ++ .expression text :: behind →
    (∃ shown, outcomeBehind calculator before.reverse text = .ok ⟨.text text, .ok shown⟩ ∧
      answer calculator before.reverse (.expression text) = ["Result: " ++ shown.text]) ∨
    (∃ fault, outcomeBehind calculator before.reverse text = .ok ⟨.text text, .error fault⟩ ∧
      answer calculator before.reverse (.expression text) = ["Error: " ++ fault.message])
  /-- The command line that reads these lines ends well and shows the whole dialogue. -/
  reports : ∀ surroundings : Command.Surroundings,
    (inputLines surroundings.input.toList).map String.ofList = lines →
    ∃ report, Command.runDialogue surroundings calculator = .ok report ∧ report.exit = 0 ∧
      report.output = joinLines [greeting calculator] ++ transcript calculator [] (heard lines)

theorem answer_cases {start : Calculator} {log : List Turn} {text : String}
    (h : ∃ outcome, outcomeBehind start log text = .ok outcome) :
    (∃ shown, outcomeBehind start log text = .ok ⟨.text text, .ok shown⟩ ∧
      answer start log (.expression text) = ["Result: " ++ shown.text]) ∨
    (∃ fault, outcomeBehind start log text = .ok ⟨.text text, .error fault⟩ ∧
      answer start log (.expression text) = ["Error: " ++ fault.message]) := by
  obtain ⟨⟨expression, result⟩, houtcome⟩ := h
  obtain rfl : expression = .text text := Calculator.expression_of_assess houtcome
  cases result with
  | ok shown => exact Or.inl ⟨shown, houtcome, by simp only [answer, houtcome]⟩
  | error fault => exact Or.inr ⟨fault, houtcome, by simp only [answer, houtcome]⟩

/-- On a calculator that knows nothing of the session a dialogue shows what its lines tell, as long as every expression
has an outcome. -/
theorem dialogue_is_faithful {calculator : Calculator} (hfresh : IsFresh calculator) (lines : List String)
    (hanswered : IsAnswered calculator (heard lines)) : IsFaithful calculator lines := by
  have hshows : ∃ notices, converse calculator lines = .ok (transcript calculator [] (heard lines), notices) := by
    refine hfresh.tells.converse hfresh fun before text behind hsplit => ?_
    rw [List.append_nil]
    exact hanswered before text behind hsplit
  refine ⟨hshows, ?_, ?_, ?_⟩
  · rintro before line behind rfl hstop
    exact converse_append_stop hstop calculator before behind
  · intro before text behind hsplit
    exact answer_cases (hanswered before text behind hsplit)
  · intro surroundings hinput
    obtain ⟨notices, hconverse⟩ := hshows
    have hrun : Dialogue.run calculator surroundings.input =
        .ok (joinLines [greeting calculator] ++ transcript calculator [] (heard lines), notices) := by
      rw [Dialogue.run, hinput, hconverse]
      rfl
    have hreport : Command.runDialogue surroundings calculator = .ok
        { exit := 0, output := joinLines [greeting calculator] ++ transcript calculator [] (heard lines),
          notices := notices } := by
      rw [Command.runDialogue, hrun]
      rfl
    exact ⟨_, hreport, rfl, rfl⟩

/-- With twelve digits a dialogue in which the unit changes shows what its lines tell. -/
theorem dialogue_is_faithful_of_sine :
    IsFresh ⟨.radians, 12, 1000, .create 0 0⟩ ∧
    IsAnswered ⟨.radians, 12, 1000, .create 0 0⟩
      (heard ["deg", "sin(30)", "1/0", "history", " QUIT ", "never reached"]) ∧
    IsFaithful ⟨.radians, 12, 1000, .create 0 0⟩
      ["deg", "sin(30)", "1/0", "history", " QUIT ", "never reached"] ∧
    (inputLines (joinLines ["deg", "sin(30)", "1/0", "history", " QUIT ", "never reached"]).toList).map String.ofList =
      ["deg", "sin(30)", "1/0", "history", " QUIT ", "never reached"] := by
  have hoptions : Command.calculator {} = .ok ⟨.radians, 12, 1000, .create 0 0⟩ := by rfl
  have hfresh := isFresh_of_options hoptions
  have hanswered (turns : List Turn) : IsAnswered ⟨.radians, 12, 1000, .create 0 0⟩ turns :=
    isAnswered_of_precision (by decide) (by decide) (by decide) turns
  exact ⟨hfresh, hanswered _, dialogue_is_faithful hfresh _ (hanswered _), inputLines_joinLines (by decide)⟩

end Dialogue

end SciCalc
