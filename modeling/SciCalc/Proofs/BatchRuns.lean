import SciCalc.Proofs.BatchRows

/-!
# Runs of batches

A batch is loaded from a file, answered row by row, summarized and delivered. It ends well exactly if no row is at
fault.
-/

namespace SciCalc

open Sheet

namespace Batch

/-- The cell holds blanks and nothing else. -/
def isBlanks : Scalar → Bool
  | .text s => s.toList.all Text.isBlank
  | _ => false

/-- The sheet without the rows whose expression is missing or blank. -/
def withExpressions (sheet : Sheet) (column : String) : Sheet :=
  { sheet with rows := sheet.rows.filter fun row =>
      !(cellOf sheet.columns (expressionColumn column) row).isMissing &&
        !isBlanks (cellOf sheet.columns (expressionColumn column) row) }

section

variable {text column : String} {sheet loaded : Sheet}

theorem isWords_of_isRead {cell : Scalar} (h : Csv.IsRead cell) : cell.isWords = (!cell.isMissing && !isBlanks cell) := by
  rcases h with rfl | ⟨field, -, rfl⟩
  · rfl
  · show field.toList.any (!Text.isBlank ·) = !field.toList.all Text.isBlank
    rw [List.not_all_eq_any_not]

theorem cellOf_mem {columns : List String} {name : String} {row : List Scalar} (hrow : row.length = columns.length)
    (hname : name ∈ columns) : cellOf columns name row ∈ row := by
  have hindex : columns.idxOf name < row.length := hrow ▸ List.idxOf_lt_length_of_mem hname
  rw [cellOf, List.getD_eq_getElem?_getD, List.getElem?_eq_getElem hindex]
  exact List.getElem_mem hindex

/-- Rows of a sheet that is read hold an expression unless it is missing or blank. -/
theorem filter_hasExpression (hread : Csv.read text = .ok sheet) (hcolumn : expressionColumn column ∈ sheet.columns) :
    { sheet with rows := sheet.rows.filter (hasExpression (sheet.columns.idxOf (expressionColumn column))) } =
      withExpressions sheet column := by
  obtain ⟨hrectangular, hcells⟩ := Csv.read_cells hread
  refine congrArg (Sheet.mk sheet.columns) (List.filter_congr fun row hrow => ?_)
  exact isWords_of_isRead (hcells row hrow _ (cellOf_mem (hrectangular row hrow) hcolumn))

theorem load_of_read (hread : Csv.read text = .ok sheet) : ∃ notices : Nat → List Notice,
    load text column = expressionIndex sheet (expressionColumn column) >>= fun index =>
      .ok ({ sheet with rows := sheet.rows.filter (hasExpression index) }, notices index) := by
  simp only [load, hread]
  exact ⟨_, rfl⟩

/-- Loading drops the rows without an expression and changes nothing else. -/
theorem load_iff : (∃ notices, load text column = .ok (loaded, notices)) ↔
    ∃ sheet, Csv.read text = .ok sheet ∧ expressionColumn column ∈ sheet.columns ∧
      loaded = withExpressions sheet column := by
  constructor
  · rintro ⟨notices, h⟩
    cases hread : Csv.read text with
    | error fault =>
      simp only [load, hread] at h
      contradiction
    | ok sheet =>
      obtain ⟨dropped, hload⟩ := @load_of_read text column sheet hread
      obtain ⟨index, hindex, hloaded⟩ := bind_eq_ok (hload.symm.trans h)
      cases hloaded
      by_cases hcolumn : expressionColumn column ∈ sheet.columns
      · rw [expressionIndex_eq hcolumn] at hindex
        cases hindex
        exact ⟨sheet, rfl, hcolumn, filter_hasExpression hread hcolumn⟩
      · rw [expressionIndex, columnIndex?, List.idxOf?_eq_none_iff.mpr hcolumn] at hindex
        contradiction
  · rintro ⟨sheet, hread, hcolumn, rfl⟩
    obtain ⟨dropped, hload⟩ := @load_of_read text column sheet hread
    rw [← filter_hasExpression hread hcolumn, hload, expressionIndex_eq hcolumn]
    exact ⟨_, rfl⟩

theorem isRectangular_withExpressions (h : sheet.IsRectangular) (column : String) :
    (withExpressions sheet column).IsRectangular :=
  fun row hrow => h row ((List.mem_filter.mp hrow).1)

end

end Batch

namespace Command

open Batch

variable {options : Options} {surroundings : Surroundings} {calculator : Calculator} {path text : String}
  {sheet : Sheet} {dropped : List Notice} {unitColumn : Option String} {given : List Outcome} {report : Report}

theorem exit_of_deliver {result : Sheet} {name : Option String} {first : Report}
    (h : first.deliver surroundings name result = .ok report) : report.exit = first.exit := by
  unfold Report.deliver at h
  split at h
  · cases h
    rfl
  · obtain ⟨target, -, h⟩ := bind_eq_ok h
    cases h
    rfl

/-- What a batch reports before it is delivered. -/
def answered (dropped : List Notice) (given : List Outcome) : Report where
  exit := if (summarize given).failed = 0 then 0 else 1
  notices := dropped ++ notices given

/-- The outcomes of the batch of a command line. -/
def HasOutcomes (options : Options) (surroundings : Surroundings) (calculator : Calculator) (path : String)
    (sheet : Sheet) (given : List Outcome) : Prop :=
  ∃ text dropped unitColumn, surroundings.read path = .ok text ∧
    load text options.expressionColumn = .ok (sheet, dropped) ∧ options.angleColumn = unitColumn.map some ∧
    outcomes calculator sheet options.expressionColumn unitColumn = .ok given

theorem HasOutcomes.runTable_eq (h : HasOutcomes options surroundings calculator path sheet given) :
    ∃ dropped, runTable options surroundings calculator path =
      (answered dropped given).deliver surroundings options.outputPath (withOutcomes sheet given) := by
  obtain ⟨text, dropped, unitColumn, hread, hload, hangle, hgiven⟩ := h
  refine ⟨dropped, ?_⟩
  cases unitColumn with
  | none =>
    simp only [runTable, hread, ok_bind, hload, hangle, Option.map_none, pure_eq_ok, hgiven]
    rfl
  | some name =>
    simp only [runTable, hread, ok_bind, hload, hangle, Option.map_some, pure_eq_ok, hgiven]
    rfl

theorem hasOutcomes_of_runTable (h : runTable options surroundings calculator path = .ok report) :
    ∃ sheet given, HasOutcomes options surroundings calculator path sheet given := by
  obtain ⟨text, hread, h⟩ := bind_eq_ok h
  obtain ⟨⟨sheet, dropped⟩, hload, h⟩ := bind_eq_ok h
  cases hangle : options.angleColumn with
  | none =>
    simp only [hangle, pure_eq_ok, ok_bind] at h
    obtain ⟨given, hgiven, -⟩ := bind_eq_ok h
    exact ⟨sheet, given, text, dropped, none, hread, hload, hangle, hgiven⟩
  | some name =>
    cases name with
    | none =>
      simp only [hangle] at h
      contradiction
    | some name =>
      simp only [hangle, pure_eq_ok, ok_bind] at h
      obtain ⟨given, hgiven, -⟩ := bind_eq_ok h
      exact ⟨sheet, given, text, dropped, some name, hread, hload, hangle, hgiven⟩

theorem HasOutcomes.tally_eq (h : HasOutcomes options surroundings calculator path sheet given) :
    tally (withOutcomes sheet given) = summarize given := by
  obtain ⟨text, dropped, unitColumn, -, hload, -, hgiven⟩ := h
  obtain ⟨read, hread, hcolumn, rfl⟩ := load_iff.mp ⟨dropped, hload⟩
  have hrectangular := isRectangular_withExpressions (Csv.read_cells hread).1 options.expressionColumn
  obtain ⟨hcolumn, hunits⟩ := columns_of_outcomes hgiven
  exact tally_withOutcomes hrectangular (length_outcomes hcolumn hunits hgiven)

/-- The end of a report tells whether a row is at fault. -/
theorem HasOutcomes.exit_eq_zero_iff (h : HasOutcomes options surroundings calculator path sheet given)
    (hreport : runTable options surroundings calculator path = .ok report) :
    report.exit = 0 ↔ (tally (withOutcomes sheet given)).failed = 0 := by
  obtain ⟨dropped, hdeliver⟩ := h.runTable_eq
  rw [exit_of_deliver (hdeliver.symm.trans hreport), h.tally_eq]
  show (if (summarize given).failed = 0 then 0 else 1) = 0 ↔ (summarize given).failed = 0
  split
  · exact iff_of_true rfl ‹_›
  · exact iff_of_false Nat.one_ne_zero ‹_›

theorem HasOutcomes.exists_report (h : HasOutcomes options surroundings calculator path sheet given)
    (htarget : ∀ name, fileName? options.outputPath = some name → ∃ target, surroundings.target name = .ok target) :
    ∃ report, runTable options surroundings calculator path = .ok report := by
  obtain ⟨dropped, hdeliver⟩ := h.runTable_eq
  rw [hdeliver, Report.deliver]
  cases hname : fileName? options.outputPath with
  | none => exact ⟨_, rfl⟩
  | some name =>
    obtain ⟨target, htarget⟩ := htarget name hname
    simp only [htarget]
    exact ⟨_, rfl⟩

end Command

namespace Batch

open Command (fileName?)

/-- A batch is loaded without the rows that have no expression, answered row by row unless a row has no outcome at
all, and summarized as its sheet tells. It ends well exactly if no row is at fault. -/
theorem batch_answers_rows (calculator : Calculator) (column : String) (unitColumn : Option String) :
    (∀ text loaded, (∃ notices, load text column = .ok (loaded, notices)) ↔
      ∃ sheet, Csv.read text = .ok sheet ∧ expressionColumn column ∈ sheet.columns ∧
        loaded = withExpressions sheet column) ∧
    (∀ text sheet, Csv.read text = .ok sheet → sheet.IsRectangular) ∧
    (∀ sheet : Sheet, sheet.IsRectangular → expressionColumn column ∈ sheet.columns →
      (∀ name ∈ unitColumn, name ∈ sheet.columns) → AnswersRows calculator sheet column unitColumn) ∧
    ∀ options surroundings path,
      (∀ report, Command.runTable options surroundings calculator path = .ok report →
        ∃ sheet given, Command.HasOutcomes options surroundings calculator path sheet given ∧
          (report.exit = 0 ↔ (tally (withOutcomes sheet given)).failed = 0)) ∧
      ∀ sheet given, Command.HasOutcomes options surroundings calculator path sheet given →
        (∀ name, fileName? options.outputPath = some name → ∃ target, surroundings.target name = .ok target) →
        ∃ report, Command.runTable options surroundings calculator path = .ok report := by
  refine ⟨fun text loaded => load_iff, fun text sheet hread => (Csv.read_cells hread).1,
    fun sheet h hcolumn hunits => answersRows calculator h hcolumn hunits, ?_⟩
  intro options surroundings path
  constructor
  · intro report hreport
    obtain ⟨sheet, given, houtcomes⟩ := Command.hasOutcomes_of_runTable hreport
    exact ⟨sheet, given, houtcomes, houtcomes.exit_eq_zero_iff hreport⟩
  · intro sheet given houtcomes htarget
    exact houtcomes.exists_report htarget

/-- A sheet with a sum and a quotient by zero has outcomes, two of them. -/
theorem batch_answers_rows_of_two :
    ∃ given, outcomes ⟨.radians, 12, 1000, .create 10 1000⟩ ⟨["expression"], [[.text "1+1"], [.text "1/0"]]⟩ "" none =
      .ok given ∧ given.length = 2 ∧
      (tally (withOutcomes ⟨["expression"], [[.text "1+1"], [.text "1/0"]]⟩ given)).total = 2 := by
  have hanswers := (batch_answers_rows ⟨.radians, 12, 1000, .create 10 1000⟩ "" none).2.2.1
    ⟨["expression"], [[.text "1+1"], [.text "1/0"]]⟩ (by simp [IsRectangular])
    (List.mem_singleton_self "expression") (by simp)
  have hvalid : ∀ row ∈ [[Scalar.text "1+1"], [.text "1/0"]],
      HasUnit ⟨["expression"], [[.text "1+1"], [.text "1/0"]]⟩ none row := by
    intro row hrow name hname
    contradiction
  obtain ⟨given, hgiven⟩ := (hanswers.overflow (by decide) (by decide) hvalid).2 (by decide)
  have hlength := congrArg List.length (hanswers.rowWise given hgiven)
  rw [List.length_map, List.length_map] at hlength
  obtain ⟨htally, hcounts⟩ := hanswers.counted given hgiven
  refine ⟨given, hgiven, hlength.symm, ?_⟩
  rw [htally, hcounts.total]
  exact hlength.symm

/-- The calculator of one significant digit has an outcome for one, but none for seventeen and 307 zeros. So a sheet
with both has no outcomes. -/
theorem outcomes_with_great_row :
    ["expression"].Nodup ∧
    IsRectangular ⟨["expression"], [[.text (String.ofList Calculator.greatDigits)], [.text "1"]]⟩ ∧
    (∃ outcome, Calculator.calculate ⟨.radians, 1, 1000, .create 10 1000⟩ (.text "1") .absent none =
      (.ok outcome, ⟨.radians, 1, 1000, .create 10 1000⟩)) ∧
    ¬∃ given, outcomes ⟨.radians, 1, 1000, .create 10 1000⟩
      ⟨["expression"], [[.text (String.ofList Calculator.greatDigits)], [.text "1"]]⟩ "" none = .ok given := by
  refine ⟨by decide, by simp [IsRectangular], ?_, ?_⟩
  · have hone : Token.IsNumeral ['1'] := Token.isNumeral_digit rfl
    have hbits : (Decimal.Digits.ofNumeral ['1']).nearestBits = 0x3FF0000000000000 := by decide +kernel
    have hfinite := Decimal.isFinite_signAndBits false (by decide : 0x3FF0000000000000 < Decimal.Magnitude.infinityBits)
    have hvalue : Calculator.evaluate ⟨.radians, 1, 1000, .create 10 1000⟩ (.text "1") .absent =
        .ok (Decimal.ofSignAndBits false 0x3FF0000000000000) := by
      rw [← hbits]
      exact Calculator.evaluate_numeral hone rfl (by decide) (by rwa [Decimal.Digits.toFloat, hbits])
    have hnot : ¬Display.Overflows (0 + 1 : Nat) (Decimal.ofSignAndBits false 0x3FF0000000000000) := by
      rw [Display.overflows_iff false (by decide) (by decide)]
      decide +kernel
    obtain ⟨shown, hshown⟩ := Display.text_of_not_overflows hfinite (by decide) hnot Settings.standard.zeroThreshold
    refine ⟨⟨.text "1", .ok ⟨Decimal.ofSignAndBits false 0x3FF0000000000000, shown⟩⟩, ?_⟩
    rw [Calculator.calculate_none, Calculator.assess_of_text hvalue]
    simp only [Int.natCast_add, Int.natCast_zero, Int.natCast_one, Int.zero_add] at hshown
    simp only [hshown]
    rfl
  · rintro ⟨given, hgiven⟩
    have hrows := map_alone (List.mem_singleton_self "expression") (by simp) hgiven
    have hnone := @Calculator.calculate_greatDigits ⟨.radians, 1, 1000, .create 10 1000⟩ .absent .radians rfl
      (by decide +kernel) rfl none
    obtain ⟨outcome, rest, -, houtcome, -⟩ := List.map_eq_cons_iff.mp hrows.symm
    cases houtcome.trans hnone

end Batch

end SciCalc
