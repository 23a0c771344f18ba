import SciCalc.Command.Report
import SciCalc.Proofs.BatchSummary
import SciCalc.Proofs.Calculations

/-!
# Rows of a batch

A batch gives each row the outcome that its expression has alone. It has no outcomes if there is a row that has none.
-/

namespace SciCalc.Batch

open Sheet

/-- The unit that a row asks for. -/
def rowUnit (sheet : Sheet) (unitColumn : Option String) (row : List Scalar) : Scalar :=
  match unitColumn with
  | none => .absent
  | some name => unitOf (cellOf sheet.columns name row)

/-- What calculating the expression of a row alone gives, without a session. -/
def alone (calculator : Calculator) (sheet : Sheet) (column : String) (unitColumn : Option String) (row : List Scalar) :
    Except Failure Outcome × Calculator :=
  calculator.calculate (cellOf sheet.columns (expressionColumn column) row) (rowUnit sheet unitColumn row) none

/-- What the sheet with the outcomes of the rows holds. -/
structure Holds (sheet result : Sheet) (given : List Outcome) : Prop where
  columns : result.columns = sheet.columns ++
    [resultColumn, shownColumn, messageColumn, kindColumn].filter (fun name => !sheet.columns.contains name)
  isRectangular : result.IsRectangular
  length : result.rows.length = sheet.rows.length
  kept : ∀ name ∈ sheet.columns, name ∉ [resultColumn, shownColumn, messageColumn, kindColumn] →
    result.column name = sheet.column name
  results : result.column resultColumn = given.map fun outcome =>
    match outcome.answer with
    | .ok shown => .number shown.value
    | .error _ => .blank
  texts : result.column shownColumn = given.map fun outcome =>
    match outcome.answer with
    | .ok shown => .text shown.text
    | .error _ => .absent
  messages : result.column messageColumn = given.map fun outcome =>
    match outcome.answer with
    | .ok _ => .absent
    | .error fault => .text fault.message
  kinds : result.column kindColumn = given.map fun outcome =>
    match outcome.answer with
    | .ok _ => .absent
    | .error fault => .text fault.kind.name

section

variable {calculator : Calculator} {sheet : Sheet} {column : String} {unitColumn : Option String}
  {given : List Outcome}

/-- The columns of outcomes, each with the cell that an outcome has in it. -/
def fields : List (String × (Outcome → Scalar)) :=
  [(resultColumn, resultCell), (shownColumn, shownCell), (messageColumn, messageCell), (kindColumn, kindCell)]

theorem holdsEach_withOutcomes (h : sheet.IsRectangular) (hlength : given.length = sheet.rows.length) :
    HoldsEach sheet (withOutcomes sheet given) given fields := by
  have hnames : (fields.map Prod.fst).Nodup := by decide
  exact holdsEach h hlength hnames

theorem holds_withOutcomes (h : sheet.IsRectangular) (hlength : given.length = sheet.rows.length) :
    Holds sheet (withOutcomes sheet given) given := by
  have heach := holdsEach_withOutcomes h hlength
  have hfilled (f : Outcome → Scalar) {name : String} {g : Outcome → Scalar} (hmem : (name, f) ∈ fields)
      (hsame : ∀ entered answer, f ⟨entered, answer⟩ = g ⟨entered, answer⟩) :
      (withOutcomes sheet given).column name = given.map g :=
    (heach.filled (name, f) hmem).trans (List.map_congr_left fun outcome _ => hsame outcome.expression outcome.answer)
  refine ⟨heach.columns, heach.isRectangular, heach.length, heach.kept, ?_, ?_, ?_, ?_⟩
  · exact hfilled resultCell (by simp [fields]) fun entered answer => by cases answer <;> rfl
  · exact hfilled shownCell (by simp [fields]) fun entered answer => by cases answer <;> rfl
  · exact hfilled messageCell (by simp [fields]) fun entered answer => by cases answer <;> rfl
  · exact hfilled kindCell (by simp [fields]) fun entered answer => by cases answer <;> rfl

theorem tally_withOutcomes (h : sheet.IsRectangular) (hlength : given.length = sheet.rows.length) :
    tally (withOutcomes sheet given) = summarize given := by
  have heach := holdsEach_withOutcomes h hlength
  exact tally_eq (heach.length.trans hlength.symm) (heach.filled (messageColumn, messageCell) (by simp [fields]))
    (heach.filled (kindColumn, kindCell) (by simp [fields]))

theorem alone_eq (row : List Scalar) : alone calculator sheet column unitColumn row =
    (calculator.assess (cellOf sheet.columns (expressionColumn column) row) (rowUnit sheet unitColumn row),
      calculator) :=
  calculator.calculate_none _ _

/-- The calculator stays as it is. -/
theorem alone_pair (row : List Scalar) : alone calculator sheet column unitColumn row =
    ((alone calculator sheet column unitColumn row).1, calculator) := by
  rw [alone_eq]

theorem exists_alone_iff (row : List Scalar) : (∃ outcome, (alone calculator sheet column unitColumn row).1 = .ok outcome) ↔
    ∃ outcome, alone calculator sheet column unitColumn row = (.ok outcome, calculator) := by
  rw [alone_eq]
  simp

theorem expressionIndex_eq (h : expressionColumn column ∈ sheet.columns) :
    expressionIndex sheet (expressionColumn column) = .ok (sheet.columns.idxOf (expressionColumn column)) := by
  rw [expressionIndex, columnIndex?, idxOf?_of_mem h]

theorem columns_of_outcomes (h : outcomes calculator sheet column unitColumn = .ok given) :
    expressionColumn column ∈ sheet.columns ∧ ∀ name ∈ unitColumn, name ∈ sheet.columns := by
  obtain ⟨index, hindex, h⟩ := bind_eq_ok h
  obtain ⟨unitIndex, hunits, -⟩ := bind_eq_ok h
  constructor
  · by_cases hcolumn : expressionColumn column ∈ sheet.columns
    · exact hcolumn
    · rw [expressionIndex, columnIndex?, List.idxOf?_eq_none_iff.mpr hcolumn] at hindex
      contradiction
  · rintro name rfl
    by_cases hname : name ∈ sheet.columns
    · exact hname
    · have hnone : sheet.columnIndex? name = none := List.idxOf?_eq_none_iff.mpr hname
      simp only [Option.mapM_some, hnone] at hunits
      contradiction

/-- The outcomes are those of the rows alone. -/
theorem outcomes_eq (hcolumn : expressionColumn column ∈ sheet.columns)
    (hunits : ∀ name ∈ unitColumn, name ∈ sheet.columns) :
    outcomes calculator sheet column unitColumn =
      sheet.rows.mapM fun row => (alone calculator sheet column unitColumn row).1 := by
  simp only [alone_eq]
  cases unitColumn with
  | none => simp only [outcomes, expressionIndex_eq hcolumn]; rfl
  | some name =>
    have hname : sheet.columnIndex? name = some (sheet.columns.idxOf name) := idxOf?_of_mem (hunits name rfl)
    simp only [outcomes, expressionIndex_eq hcolumn, Option.mapM_some, hname]
    rfl

/-- The value of a row is rounded to infinity. -/
def RowOverflows (calculator : Calculator) (sheet : Sheet) (column : String) (unitColumn : Option String)
    (row : List Scalar) : Prop :=
  ∃ value, calculator.evaluate (cellOf sheet.columns (expressionColumn column) row) (rowUnit sheet unitColumn row) =
    .ok value ∧ Display.Overflows calculator.precision value

/-- The unit cell of a row names a unit unless it is blank. -/
def HasUnit (sheet : Sheet) (unitColumn : Option String) (row : List Scalar) : Prop :=
  ∀ name ∈ unitColumn, (cellOf sheet.columns name row).isWords →
    ∃ unit, AngleUnit.ofScalar (cellOf sheet.columns name row) = .ok unit

theorem HasUnit.unitFor {row : List Scalar} (h : HasUnit sheet unitColumn row) :
    ∃ unit, calculator.unitFor (rowUnit sheet unitColumn row) = .ok unit := by
  cases unitColumn with
  | none => exact ⟨calculator.unit, rfl⟩
  | some name =>
    have hcell := h name rfl
    rw [rowUnit, unitOf]
    generalize cellOf sheet.columns name row = cell at hcell ⊢
    by_cases hwords : cell.isWords
    · obtain ⟨unit, hunit⟩ := hcell hwords
      rw [if_pos hwords]
      cases cell with
      | text s => exact ⟨unit, hunit⟩
      | absent => contradiction
      | truth value => contradiction
      | integer value => contradiction
      | number value => contradiction
    · rw [if_neg hwords]
      exact ⟨calculator.unit, rfl⟩

/-- A row with a valid unit has an outcome unless its value is rounded to infinity. -/
theorem alone_cases (hlow : 1 ≤ calculator.precision) (hhigh : calculator.precision ≤ 17) {row : List Scalar}
    (hunit : HasUnit sheet unitColumn row) :
    (¬RowOverflows calculator sheet column unitColumn row ∧
      ∃ outcome, alone calculator sheet column unitColumn row = (.ok outcome, calculator)) ∨
    (RowOverflows calculator sheet column unitColumn row ∧ calculator.precision ∈ Display.overflowing ∧
      alone calculator sheet column unitColumn row = (.error .noExponent, calculator)) := by
  obtain ⟨unit, hunit⟩ := @HasUnit.unitFor calculator _ _ _ hunit
  rw [alone_eq, RowOverflows]
  rcases Calculator.assess_cases hunit hlow hhigh (cellOf sheet.columns (expressionColumn column) row) with
    ⟨hnot, outcome, houtcome⟩ | ⟨hover, hgreat, herror⟩
  · exact Or.inl ⟨hnot, outcome, congrArg (·, calculator) houtcome⟩
  · exact Or.inr ⟨hover, hgreat, congrArg (·, calculator) herror⟩

theorem zip_zipWith {α β : Type} (f : α → β → α) (xs : List α) (ys : List β) :
    xs.zip (xs.zipWith f ys) = (xs.zip ys).map fun pair => (pair.1, f pair.1 pair.2) := by
  induction xs generalizing ys with
  | nil => rfl
  | cons x xs ih =>
    cases ys with
    | nil => rfl
    | cons y ys => rw [List.zipWith_cons_cons, List.zip_cons_cons, List.zip_cons_cons, List.map_cons, ih]

theorem zip_rows_withOutcomes (h : sheet.IsRectangular) (hlength : given.length = sheet.rows.length) :
    sheet.rows.zip (withOutcomes sheet given).rows =
      (sheet.rows.zip given).map fun pair => (pair.1, setCells sheet.columns pair.1 pair.2 fields) := by
  rw [(holdsEach_withOutcomes h hlength).rows, zip_zipWith]

section

variable (hcolumn : expressionColumn column ∈ sheet.columns) (hunits : ∀ name ∈ unitColumn, name ∈ sheet.columns)
include hcolumn hunits

theorem exists_outcomes_iff : (∃ given, outcomes calculator sheet column unitColumn = .ok given) ↔
    ∀ row ∈ sheet.rows, ∃ outcome, alone calculator sheet column unitColumn row = (.ok outcome, calculator) := by
  rw [outcomes_eq hcolumn hunits, exists_mapM_iff]
  exact forall₂_congr fun row _ => exists_alone_iff row

theorem map_alone (h : outcomes calculator sheet column unitColumn = .ok given) :
    sheet.rows.map (alone calculator sheet column unitColumn) = given.map fun outcome => (.ok outcome, calculator) := by
  rw [outcomes_eq hcolumn hunits, mapM_eq_ok_iff] at h
  calc sheet.rows.map (alone calculator sheet column unitColumn)
      = (sheet.rows.map fun row => (alone calculator sheet column unitColumn row).1).map fun answer =>
          (answer, calculator) := by
        rw [List.map_map]
        exact List.map_congr_left fun row _ => alone_pair row
    _ = given.map fun outcome => (.ok outcome, calculator) := by
        rw [h, List.map_map]
        rfl

theorem length_outcomes (h : outcomes calculator sheet column unitColumn = .ok given) :
    given.length = sheet.rows.length := by
  have hlengths := congrArg List.length (map_alone hcolumn hunits h)
  rw [List.length_map, List.length_map] at hlengths
  exact hlengths.symm

/-- Rows in another order have the same outcomes in that order, and the same cells for them. -/
theorem outcomes_of_perm (h : sheet.IsRectangular) (hgiven : outcomes calculator sheet column unitColumn = .ok given)
    {rows : List (List Scalar)} (hperm : rows.Perm sheet.rows) :
    ∃ given', outcomes calculator { sheet with rows := rows } column unitColumn = .ok given' ∧
      (rows.zip given').Perm (sheet.rows.zip given) ∧
      (rows.zip (withOutcomes { sheet with rows := rows } given').rows).Perm
        (sheet.rows.zip (withOutcomes sheet given).rows) := by
  have hmapM := (outcomes_eq hcolumn hunits).symm.trans hgiven
  obtain ⟨given', hgiven', hzip⟩ := mapM_of_perm hperm hmapM
  have hsame : outcomes calculator { sheet with rows := rows } column unitColumn = .ok given' :=
    (@outcomes_eq calculator { sheet with rows := rows } column unitColumn hcolumn hunits).trans hgiven'
  have hrectangular : ({ sheet with rows := rows } : Sheet).IsRectangular :=
    fun row hrow => h row (hperm.mem_iff.mp hrow)
  have hlength' := @length_outcomes calculator { sheet with rows := rows } column unitColumn given' hcolumn hunits hsame
  refine ⟨given', hsame, hzip, ?_⟩
  rw [zip_rows_withOutcomes h (length_outcomes hcolumn hunits hgiven),
    @zip_rows_withOutcomes { sheet with rows := rows } given' hrectangular hlength']
  exact hzip.map _

/-- The batch fails as its first row without an outcome does. -/
theorem outcomes_eq_error {failure : Failure} (h : outcomes calculator sheet column unitColumn = .error failure) :
    ∃ before row behind, sheet.rows = before ++ row :: behind ∧
      (∀ earlier ∈ before, ∃ outcome, alone calculator sheet column unitColumn earlier = (.ok outcome, calculator)) ∧
      alone calculator sheet column unitColumn row = (.error failure, calculator) := by
  rw [outcomes_eq hcolumn hunits] at h
  obtain ⟨before, row, behind, hrows, hbefore, hrow⟩ := mapM_eq_error h
  refine ⟨before, row, behind, hrows, fun earlier hmem => (exists_alone_iff earlier).mp (hbefore earlier hmem), ?_⟩
  rw [alone_pair, hrow]

theorem exists_outcomes_iff_overflow (hlow : 1 ≤ calculator.precision) (hhigh : calculator.precision ≤ 17)
    (hvalid : ∀ row ∈ sheet.rows, HasUnit sheet unitColumn row) :
    ((∃ given, outcomes calculator sheet column unitColumn = .ok given) ↔
      ∀ row ∈ sheet.rows, ¬RowOverflows calculator sheet column unitColumn row) ∧
    (calculator.precision ∉ Display.overflowing → ∃ given, outcomes calculator sheet column unitColumn = .ok given) := by
  have hcases (row : List Scalar) (hrow : row ∈ sheet.rows) :=
    @alone_cases calculator sheet column unitColumn hlow hhigh row (hvalid row hrow)
  rw [exists_outcomes_iff hcolumn hunits]
  constructor
  · refine forall₂_congr fun row hrow => ?_
    rcases hcases row hrow with ⟨hnot, houtcome⟩ | ⟨hover, -, herror⟩
    · exact iff_of_true houtcome hnot
    · rw [herror]
      exact iff_of_false (by simp) (not_not_intro hover)
  · intro hprecision row hrow
    rcases hcases row hrow with ⟨-, houtcome⟩ | ⟨-, hgreat, -⟩
    · exact houtcome
    · exact absurd hgreat hprecision

end

end

/-- How a batch answers the rows of a sheet. -/
structure AnswersRows (calculator : Calculator) (sheet : Sheet) (column : String) (unitColumn : Option String) :
    Prop where
  /-- There are outcomes exactly if each row has one alone. -/
  complete : (∃ given, outcomes calculator sheet column unitColumn = .ok given) ↔
    ∀ row ∈ sheet.rows, ∃ outcome, alone calculator sheet column unitColumn row = (.ok outcome, calculator)
  /-- The first row that has none decides how the batch fails. -/
  failure : ∀ failure, outcomes calculator sheet column unitColumn = .error failure →
    ∃ before row behind, sheet.rows = before ++ row :: behind ∧
      (∀ earlier ∈ before, ∃ outcome, alone calculator sheet column unitColumn earlier = (.ok outcome, calculator)) ∧
      alone calculator sheet column unitColumn row = (.error failure, calculator)
  /-- The outcomes are those of the rows alone, in their order, and the calculator stays as it is. -/
  rowWise : ∀ given, outcomes calculator sheet column unitColumn = .ok given →
    sheet.rows.map (alone calculator sheet column unitColumn) = given.map fun outcome => (.ok outcome, calculator)
  holds : ∀ given, outcomes calculator sheet column unitColumn = .ok given →
    Holds sheet (withOutcomes sheet given) given
  permuted : ∀ given rows, outcomes calculator sheet column unitColumn = .ok given → rows.Perm sheet.rows →
    ∃ given', outcomes calculator { sheet with rows := rows } column unitColumn = .ok given' ∧
      (rows.zip given').Perm (sheet.rows.zip given) ∧
      (rows.zip (withOutcomes { sheet with rows := rows } given').rows).Perm
        (sheet.rows.zip (withOutcomes sheet given).rows)
  counted : ∀ given, outcomes calculator sheet column unitColumn = .ok given →
    tally (withOutcomes sheet given) = summarize given ∧ Counts given (summarize given)
  /-- With valid units only rounding to infinity keeps a row from having an outcome. -/
  overflow : 1 ≤ calculator.precision → calculator.precision ≤ 17 → (∀ row ∈ sheet.rows, HasUnit sheet unitColumn row) →
    ((∃ given, outcomes calculator sheet column unitColumn = .ok given) ↔
      ∀ row ∈ sheet.rows, ¬RowOverflows calculator sheet column unitColumn row) ∧
    (calculator.precision ∉ Display.overflowing → ∃ given, outcomes calculator sheet column unitColumn = .ok given)

theorem answersRows (calculator : Calculator) {sheet : Sheet} (h : sheet.IsRectangular) {column : String}
    (hcolumn : expressionColumn column ∈ sheet.columns) {unitColumn : Option String}
    (hunits : ∀ name ∈ unitColumn, name ∈ sheet.columns) : AnswersRows calculator sheet column unitColumn where
  complete := exists_outcomes_iff hcolumn hunits
  failure _ hfailure := outcomes_eq_error hcolumn hunits hfailure
  rowWise _ hgiven := map_alone hcolumn hunits hgiven
  holds _ hgiven := holds_withOutcomes h (length_outcomes hcolumn hunits hgiven)
  permuted _ _ hgiven hperm := outcomes_of_perm hcolumn hunits h hgiven hperm
  counted given hgiven := ⟨tally_withOutcomes h (length_outcomes hcolumn hunits hgiven), counts_summarize given⟩
  overflow hlow hhigh hvalid := exists_outcomes_iff_overflow hcolumn hunits hlow hhigh hvalid

end SciCalc.Batch
