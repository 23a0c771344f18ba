import SciCalc.Text.Compatibility.Form

/-!
# The canonical order of marks

Runs of marks are sorted by an insertion sort, which stops at starters. The order of a text is settled piece by piece: a
part can be sorted ahead of the rest, what follows a starter is sorted on its own, and a mark may be moved over marks of
smaller classes without an effect on the outcome.
-/

namespace SciCalc.Text.Compatibility

open orderMarks

variable {rank : Nat} {mark other starter : Marked} {marks behind : List Marked}

/-- A mark of the class may stand in front. -/
def Admits (rank : Nat) (marks : List Marked) : Prop := ∀ mark ∈ marks.head?, mark.rank = 0 ∨ rank ≤ mark.rank

/-- The marks between two starters ascend. -/
def IsOrdered : List Marked → Prop
  | [] => True
  | mark :: rest => Admits mark.rank rest ∧ IsOrdered rest

theorem admits_nil (rank : Nat) : Admits rank [] := nofun

theorem admits_cons : Admits rank (mark :: marks) ↔ mark.rank = 0 ∨ rank ≤ mark.rank := by
  simp [Admits]

theorem admits_zero (marks : List Marked) : Admits 0 marks := fun _ _ => Or.inr (Nat.zero_le _)

theorem Admits.of_le {smaller : Nat} (h : Admits rank marks) (hle : smaller ≤ rank) : Admits smaller marks := by
  intro mark hmark
  exact (h mark hmark).imp_right (Nat.le_trans hle)

/-! ### One insertion -/

theorem insertFront_of_admits (h : Admits mark.rank marks) : insertFront mark marks = mark :: marks := by
  cases marks with
  | nil => rfl
  | cons next rest =>
    rw [insertFront, if_pos]
    simpa using admits_cons.mp h

theorem insertFront_of_lt (hpos : other.rank ≠ 0) (hlt : other.rank < mark.rank) (rest : List Marked) :
    insertFront mark (other :: rest) = other :: insertFront mark rest := by
  rw [insertFront, if_neg]
  simp only [Bool.or_eq_true, decide_eq_true_eq]
  omega

theorem admits_insertFront (hmark : rank ≤ mark.rank) (h : Admits rank marks) : Admits rank (insertFront mark marks) := by
  cases marks with
  | nil => exact admits_cons.mpr (Or.inr hmark)
  | cons next rest =>
    rw [insertFront]
    split
    · exact admits_cons.mpr (Or.inr hmark)
    · exact admits_cons.mpr (admits_cons.mp h)

theorem isOrdered_insertFront (mark : Marked) (h : IsOrdered marks) : IsOrdered (insertFront mark marks) := by
  induction marks with
  | nil => exact ⟨admits_nil _, trivial⟩
  | cons next rest ih =>
    rw [insertFront]
    split
    · rename_i hstop
      refine ⟨admits_cons.mpr ?_, h⟩
      simpa using hstop
    · rename_i hpass
      simp only [Bool.or_eq_true, decide_eq_true_eq] at hpass
      exact ⟨admits_insertFront (by omega) h.1, ih h.2⟩

/-- Marks of different classes may be inserted in either order. -/
theorem insertFront_comm (hpos : other.rank ≠ 0) (hlt : other.rank < mark.rank) (marks : List Marked) :
    insertFront mark (insertFront other marks) = insertFront other (insertFront mark marks) := by
  induction marks with
  | nil =>
    have hadmits : Admits other.rank [mark] := admits_cons.mpr (Or.inr (Nat.le_of_lt hlt))
    exact (insertFront_of_lt hpos hlt []).trans (insertFront_of_admits hadmits).symm
  | cons next rest ih =>
    by_cases hadmits : Admits other.rank (next :: rest)
    · have hmark := admits_insertFront (Nat.le_of_lt hlt) hadmits
      rw [insertFront_of_admits hadmits, insertFront_of_lt hpos hlt, insertFront_of_admits hmark]
    · rw [admits_cons] at hadmits
      have hnext : next.rank ≠ 0 := by omega
      have hother : next.rank < other.rank := by omega
      have hmark : next.rank < mark.rank := by omega
      rw [insertFront_of_lt hnext hother, insertFront_of_lt hnext hmark, insertFront_of_lt hnext hmark,
        insertFront_of_lt hnext hother, ih]

/-- An insertion does not look past a starter. -/
theorem insertFront_append (hstarter : starter.rank = 0) (mark : Marked) (marks behind : List Marked) :
    insertFront mark (marks ++ starter :: behind) = insertFront mark marks ++ starter :: behind := by
  induction marks with
  | nil => exact insertFront_of_admits (admits_cons.mpr (Or.inl hstarter))
  | cons next rest ih =>
    rw [List.cons_append, insertFront, insertFront, ih]
    split <;> rfl

theorem insertFront_perm (mark : Marked) (marks : List Marked) : (insertFront mark marks).Perm (mark :: marks) := by
  induction marks with
  | nil => exact List.Perm.refl _
  | cons next rest ih =>
    rw [insertFront]
    split
    · exact List.Perm.refl _
    · exact (ih.cons next).trans (List.Perm.swap mark next rest)

/-! ### The order of a text -/

theorem orderMarks_starter (hstarter : starter.rank = 0) (rest : List Marked) :
    orderMarks (starter :: rest) = starter :: orderMarks rest := if_pos hstarter

theorem orderMarks_mark (hmark : mark.rank ≠ 0) (rest : List Marked) :
    orderMarks (mark :: rest) = insertFront mark (orderMarks rest) := if_neg hmark

theorem isOrdered_orderMarks (marks : List Marked) : IsOrdered (orderMarks marks) := by
  induction marks with
  | nil => trivial
  | cons mark rest ih =>
    by_cases hmark : mark.rank = 0
    · rw [orderMarks_starter hmark]
      refine ⟨?_, ih⟩
      rw [hmark]
      exact admits_zero _
    · rw [orderMarks_mark hmark]
      exact isOrdered_insertFront mark ih

theorem orderMarks_of_isOrdered (h : IsOrdered marks) : orderMarks marks = marks := by
  induction marks with
  | nil => rfl
  | cons mark rest ih =>
    by_cases hmark : mark.rank = 0
    · rw [orderMarks_starter hmark, ih h.2]
    · rw [orderMarks_mark hmark, ih h.2, insertFront_of_admits h.1]

theorem orderMarks_perm (marks : List Marked) : (orderMarks marks).Perm marks := by
  induction marks with
  | nil => exact List.Perm.refl _
  | cons mark rest ih =>
    by_cases hmark : mark.rank = 0
    · rw [orderMarks_starter hmark]
      exact ih.cons mark
    · rw [orderMarks_mark hmark]
      exact (insertFront_perm mark _).trans (ih.cons mark)

/-- What is sorted alike is sorted alike behind the same marks. -/
theorem orderMarks_append_congr {marks' : List Marked} (h : orderMarks marks = orderMarks marks') (front : List Marked) :
    orderMarks (front ++ marks) = orderMarks (front ++ marks') := by
  induction front with
  | nil => exact h
  | cons mark rest ih => rw [List.cons_append, List.cons_append, orderMarks, orderMarks, ih]

/-- The rest of a text may be sorted ahead. -/
theorem orderMarks_append_orderMarks (front marks : List Marked) :
    orderMarks (front ++ orderMarks marks) = orderMarks (front ++ marks) :=
  orderMarks_append_congr (orderMarks_of_isOrdered (isOrdered_orderMarks marks)) front

/-- What stands before a starter is sorted on its own, and so is what stands behind it. -/
theorem orderMarks_append (hstarter : starter.rank = 0) (marks behind : List Marked) :
    orderMarks (marks ++ starter :: behind) = orderMarks marks ++ starter :: orderMarks behind := by
  induction marks with
  | nil => exact orderMarks_starter hstarter behind
  | cons mark rest ih =>
    by_cases hmark : mark.rank = 0
    · rw [List.cons_append, orderMarks_starter hmark, orderMarks_starter hmark, ih, List.cons_append]
    · rw [List.cons_append, orderMarks_mark hmark, orderMarks_mark hmark, ih, insertFront_append hstarter]

/-- A mark may be moved over marks of smaller classes. -/
theorem orderMarks_move (h : ∀ other ∈ marks, other.rank ≠ 0 ∧ other.rank < mark.rank) (behind : List Marked) :
    orderMarks (mark :: (marks ++ behind)) = orderMarks (marks ++ mark :: behind) := by
  induction marks with
  | nil => rfl
  | cons other rest ih =>
    obtain ⟨⟨hpos, hlt⟩, hrest⟩ := List.forall_mem_cons.mp h
    have hmark : mark.rank ≠ 0 := by omega
    calc
      orderMarks (mark :: (other :: rest ++ behind))
          = insertFront mark (insertFront other (orderMarks (rest ++ behind))) := by
            rw [orderMarks_mark hmark, List.cons_append, orderMarks_mark hpos]
      _ = insertFront other (orderMarks (mark :: (rest ++ behind))) := by
            rw [insertFront_comm hpos hlt, orderMarks_mark hmark]
      _ = orderMarks (other :: rest ++ mark :: behind) := by
            rw [ih hrest, List.cons_append, orderMarks_mark hpos]

end SciCalc.Text.Compatibility
