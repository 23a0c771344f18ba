import SciCalc.Csv.Sheet
import SciCalc.Proofs.Attempt

/-!
# Columns of sheets

A column is put into a sheet by giving each row one cell, in the place of the column of that name or behind the others.
All other columns stay as they are. Sheets that are read are rectangular, and their cells are missing or texts.
-/

namespace SciCalc

namespace Sheet

/-- Every row has one cell for each column. -/
def IsRectangular (sheet : Sheet) : Prop := ∀ row ∈ sheet.rows, row.length = sheet.columns.length

def cellOf (columns : List String) (name : String) (row : List Scalar) : Scalar :=
  row.getD (columns.idxOf name) .absent

/-- The cells of the column of a name. -/
def column (sheet : Sheet) (name : String) : List Scalar := sheet.rows.map (cellOf sheet.columns name)

/-- The names with one more, if it is a new one. -/
def addName (columns : List String) (name : String) : List String :=
  if name ∈ columns then columns else columns ++ [name]

/-- The row with a cell in the column of a name. -/
def setCell (columns : List String) (name : String) (row : List Scalar) (cell : Scalar) : List Scalar :=
  if name ∈ columns then row.set (columns.idxOf name) cell else row ++ [cell]

theorem idxOf?_of_mem {names : List String} {name : String} (h : name ∈ names) :
    names.idxOf? name = some (names.idxOf name) :=
  List.findIdx?_eq_some_iff_findIdx_eq.mpr ⟨List.idxOf_lt_length_of_mem h, rfl⟩

section

variable {columns : List String} {name other : String} {row : List Scalar}

theorem set_eq (sheet : Sheet) (name : String) (cells : List Scalar) : sheet.set name cells =
    ⟨addName sheet.columns name, sheet.rows.zipWith (setCell sheet.columns name) cells⟩ := by
  by_cases hname : name ∈ sheet.columns
  · have hset : setCell sheet.columns name = fun row cell => row.set (sheet.columns.idxOf name) cell := by
      funext row cell
      exact if_pos hname
    rw [set, columnIndex?, idxOf?_of_mem hname, addName, if_pos hname, hset]
  · have hset : setCell sheet.columns name = fun row cell => row ++ [cell] := by
      funext row cell
      exact if_neg hname
    rw [set, columnIndex?, List.idxOf?_eq_none_iff.mpr hname, addName, if_neg hname, hset]

theorem mem_addName : other ∈ addName columns name ↔ other ∈ columns ∨ other = name := by
  rw [addName]
  split
  · rename_i hname
    exact ⟨Or.inl, fun h => h.elim id fun h => h ▸ hname⟩
  · rw [List.mem_append, List.mem_singleton]

theorem length_setCell (hrow : row.length = columns.length) (cell : Scalar) :
    (setCell columns name row cell).length = (addName columns name).length := by
  rw [setCell, addName]
  split
  · rw [List.length_set, hrow]
  · rw [List.length_append, List.length_append, hrow]
    rfl

theorem cellOf_setCell_self (hrow : row.length = columns.length) (cell : Scalar) :
    cellOf (addName columns name) name (setCell columns name row cell) = cell := by
  rw [cellOf, addName, setCell, List.getD_eq_getElem?_getD]
  split
  · rename_i hname
    have hindex : columns.idxOf name < row.length := hrow ▸ List.idxOf_lt_length_of_mem hname
    rw [List.getElem?_set_self hindex, Option.getD_some]
  · rename_i hname
    have hindex : (columns ++ [name]).idxOf name = row.length := by
      rw [List.idxOf_append, if_neg hname, hrow]
      simp
    rw [hindex, List.getElem?_append_right (Nat.le_refl _), Nat.sub_self]
    rfl

theorem cellOf_setCell_of_ne (hrow : row.length = columns.length) (hother : other ∈ columns) (hne : other ≠ name)
    (cell : Scalar) : cellOf (addName columns name) other (setCell columns name row cell) = cellOf columns other row := by
  have hindex : columns.idxOf other < row.length := hrow ▸ List.idxOf_lt_length_of_mem hother
  rw [cellOf, cellOf, addName, setCell, List.getD_eq_getElem?_getD, List.getD_eq_getElem?_getD]
  split
  · rename_i hname
    have hplaces : columns.idxOf name ≠ columns.idxOf other := by
      intro hsame
      have hfirst := List.getElem_idxOf (List.idxOf_lt_length_of_mem hname)
      have hsecond := List.getElem_idxOf (List.idxOf_lt_length_of_mem hother)
      simp only [hsame] at hfirst
      exact hne (hsecond.symm.trans hfirst)
    rw [List.getElem?_set_ne hplaces]
  · rw [List.idxOf_append, if_pos hother, List.getElem?_append_left hindex]

end

section

variable {sheet : Sheet} {name other : String} {cells : List Scalar}

theorem mem_columns_set : other ∈ (sheet.set name cells).columns ↔ other ∈ sheet.columns ∨ other = name := by
  rw [set_eq]
  exact mem_addName

theorem isRectangular_set (h : sheet.IsRectangular) (name : String) (cells : List Scalar) :
    (sheet.set name cells).IsRectangular := by
  rw [set_eq]
  intro row hrow
  obtain ⟨i, hi, rfl⟩ := List.getElem_of_mem hrow
  rw [List.getElem_zipWith]
  exact length_setCell (h _ (List.getElem_mem _)) _

theorem length_rows_set (hlength : cells.length = sheet.rows.length) (name : String) :
    (sheet.set name cells).rows.length = sheet.rows.length := by
  rw [set_eq, List.length_zipWith, hlength, Nat.min_self]

theorem column_set_self (h : sheet.IsRectangular) (hlength : cells.length = sheet.rows.length) (name : String) :
    (sheet.set name cells).column name = cells := by
  rw [column, set_eq, List.map_zipWith]
  refine List.ext_getElem (by rw [List.length_zipWith, hlength, Nat.min_self]) fun i hi hi' => ?_
  rw [List.getElem_zipWith]
  exact cellOf_setCell_self (h _ (List.getElem_mem _)) _

theorem column_set_of_ne (h : sheet.IsRectangular) (hlength : cells.length = sheet.rows.length)
    (hother : other ∈ sheet.columns) (hne : other ≠ name) :
    (sheet.set name cells).column other = sheet.column other := by
  rw [column, column, set_eq, List.map_zipWith]
  have hsame : sheet.rows.length = min sheet.rows.length cells.length := by rw [hlength, Nat.min_self]
  refine List.ext_getElem (by rw [List.length_zipWith, List.length_map, ← hsame]) fun i hi hi' => ?_
  rw [List.getElem_zipWith, List.getElem_map]
  exact cellOf_setCell_of_ne (h _ (List.getElem_mem _)) hother hne _

end

/-! ### Several columns -/

section

variable {α : Type}

/-- Puts in a column for each field, with one cell for each item. -/
def setEach (sheet : Sheet) (items : List α) (fields : List (String × (α → Scalar))) : Sheet :=
  fields.foldl (fun sheet field => sheet.set field.1 (items.map field.2)) sheet

/-- The row with the cells of an item. -/
def setCells (columns : List String) (row : List Scalar) (item : α) : List (String × (α → Scalar)) → List Scalar
  | [] => row
  | field :: fields => setCells (addName columns field.1) (setCell columns field.1 row (field.2 item)) item fields

variable {sheet : Sheet} {items : List α} {fields : List (String × (α → Scalar))}

/-- What the sheet holds after columns of these fields were put in. -/
structure HoldsEach (sheet result : Sheet) (items : List α) (fields : List (String × (α → Scalar))) : Prop where
  columns : result.columns = sheet.columns ++ (fields.map Prod.fst).filter (fun name => !sheet.columns.contains name)
  isRectangular : result.IsRectangular
  length : result.rows.length = sheet.rows.length
  kept : ∀ name ∈ sheet.columns, name ∉ fields.map Prod.fst → result.column name = sheet.column name
  filled : ∀ field ∈ fields, result.column field.1 = items.map field.2
  rows : result.rows = sheet.rows.zipWith (fun row item => setCells sheet.columns row item fields) items

theorem columns_addName {columns names : List String} {name : String} (hname : name ∉ names) :
    addName columns name ++ names.filter (fun other => !(addName columns name).contains other) =
      columns ++ (name :: names).filter (fun other => !columns.contains other) := by
  by_cases hold : name ∈ columns
  · rw [addName, if_pos hold, List.filter_cons_of_neg (by simp [hold])]
  · rw [addName, if_neg hold, List.filter_cons_of_pos (by simp [hold]), List.append_assoc]
    have hsame : names.filter (fun other => !(columns ++ [name]).contains other) =
        names.filter (fun other => !columns.contains other) := by
      refine List.filter_congr fun other hother => ?_
      have hne : other ≠ name := fun h => hname (h ▸ hother)
      simp [hne]
    rw [hsame]
    rfl

theorem zipWith_zipWith {β γ δ : Type} (f : γ → β → δ) (g : α → β → γ) (xs : List α) (ys : List β) :
    (xs.zipWith g ys).zipWith f ys = xs.zipWith (fun x y => f (g x y) y) ys := by
  induction xs generalizing ys with
  | nil => rfl
  | cons x xs ih =>
    cases ys with
    | nil => rfl
    | cons y ys => rw [List.zipWith_cons_cons, List.zipWith_cons_cons, List.zipWith_cons_cons, ih]

theorem zipWith_left {xs : List α} {β : Type} {ys : List β} (h : ys.length = xs.length) :
    xs.zipWith (fun x _ => x) ys = xs := by
  refine List.ext_getElem (by rw [List.length_zipWith, h, Nat.min_self]) fun i hi hi' => ?_
  rw [List.getElem_zipWith]

theorem holdsEach (h : sheet.IsRectangular) (hlength : items.length = sheet.rows.length)
    (hnames : (fields.map Prod.fst).Nodup) : HoldsEach sheet (sheet.setEach items fields) items fields := by
  induction fields generalizing sheet with
  | nil => exact ⟨by simp [setEach], h, rfl, fun _ _ _ => rfl, by simp, (zipWith_left hlength).symm⟩
  | cons field fields ih =>
    obtain ⟨hfresh, hnames⟩ := List.nodup_cons.mp hnames
    have hcells : (items.map field.2).length = sheet.rows.length := by rw [List.length_map, hlength]
    have hrows := length_rows_set hcells field.1
    have hnext := ih (isRectangular_set h field.1 _) (hlength.trans hrows.symm) hnames
    have hself := column_set_self h hcells field.1
    have hset := congrArg Sheet.columns (set_eq sheet field.1 (items.map field.2))
    have hrowsSet := congrArg Sheet.rows (set_eq sheet field.1 (items.map field.2))
    refine ⟨?_, hnext.isRectangular, hnext.length.trans hrows, ?_, ?_, ?_⟩
    · have hcolumns := hnext.columns
      rw [hset] at hcolumns
      exact hcolumns.trans (columns_addName hfresh)
    · intro name hname hother
      obtain ⟨hne, hrest⟩ := not_or.mp (mt List.mem_cons.mpr hother)
      rw [← column_set_of_ne h hcells hname hne]
      exact hnext.kept name (mem_columns_set.mpr (Or.inl hname)) hrest
    · intro other hmem
      rcases List.mem_cons.mp hmem with rfl | hmem
      · rw [← hself]
        exact hnext.kept _ (mem_columns_set.mpr (Or.inr rfl)) hfresh
      · exact hnext.filled other hmem
    · have hcells := hnext.rows
      rw [hset, hrowsSet, List.zipWith_map_right, zipWith_zipWith] at hcells
      exact hcells

end

end Sheet

/-! ### Sheets that are read -/

namespace Csv

theorem length_columnNames (fields : List String) : (columnNames fields).length = fields.length := by
  have hsettle (indices : List Nat) (state : List String × List String) :
      (indices.foldl settle state).1.length = state.1.length := by
    induction indices generalizing state with
    | nil => rfl
    | cons index rest ih =>
      rw [List.foldl_cons, ih]
      exact List.length_set
  rw [columnNames, hsettle, List.length_map, List.length_zipIdx]

theorem length_fillRow {width : Nat} {record : Record} {fields : List String} (h : fillRow width record = .ok fields) :
    fields.length = width := by
  simp only [fillRow] at h
  split at h
  · contradiction
  · cases h
    rw [List.length_append, List.length_replicate]
    omega

/-- A cell that is read is missing or a text, and the text is not empty. -/
def IsRead (cell : Scalar) : Prop := cell = .blank ∨ ∃ field, field ≠ "" ∧ cell = .text field

theorem isRead_cell (field : String) : IsRead (cell field) := by
  rw [cell]
  split
  · exact Or.inl rfl
  · rename_i hfield
    exact Or.inr ⟨field, fun h => hfield (by rw [h]; rfl), rfl⟩

/-- A sheet that is read has one cell for each row and column, missing or a text. -/
theorem read_cells {text : String} {sheet : Sheet} (h : read text = .ok sheet) :
    sheet.IsRectangular ∧ ∀ row ∈ sheet.rows, ∀ cell ∈ row, IsRead cell := by
  unfold read at h
  split at h
  · contradiction
  · contradiction
  · rename_i header rest openRow hrecords
    obtain ⟨rows, hrows, h⟩ := bind_eq_ok h
    cases openRow with
    | some row => contradiction
    | none =>
      cases h
      have hfilled : ∀ fields ∈ rows, fields.length =
          max header.fields.length ((rest.head?.map (·.fields.length)).getD 0) := by
        intro fields hfields
        have hmem : Except.ok fields ∈ rest.map (fillRow _) := mapM_eq_ok_iff.mp hrows ▸ List.mem_map_of_mem hfields
        obtain ⟨record, -, hrecord⟩ := List.mem_map.mp hmem
        exact length_fillRow hrecord
      constructor
      · intro row hrow
        obtain ⟨fields, hfields, rfl⟩ := List.mem_map.mp hrow
        rw [List.length_map, List.length_drop, hfilled fields hfields, length_columnNames]
        omega
      · intro row hrow c hc
        obtain ⟨fields, -, rfl⟩ := List.mem_map.mp hrow
        obtain ⟨field, -, rfl⟩ := List.mem_map.mp hc
        exact isRead_cell field

end Csv

end SciCalc
