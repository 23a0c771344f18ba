import SciCalc.Proofs.CompositionTables

/-!
# Composition

The run of the composition over a text as a relation: a starter takes the marks that compose with it and that no other mark
blocks, and what is left is composed in turn.
-/

namespace SciCalc.Text.Compatibility

variable {starter result code : Nat} {last : Option Marked} {mark : Marked} {rest kept marks passed : List Marked}
  {codes : List Nat}

/-! ### What a starter takes -/

/-- No mark that was skipped last blocks the mark. -/
def IsFree (last : Option Marked) (mark : Marked) : Prop := ∀ previous ∈ last, previous.rank < mark.rank

/--
The starter becomes the result with what it takes of the rest, and the other marks are kept. `last` is the mark that was
skipped last.
-/
inductive Absorbs : Nat → Option Marked → List Marked → Nat → List Marked → Prop
  | done (starter : Nat) (last : Option Marked) : Absorbs starter last [] starter []
  | take {starter composite result : Nat} {last : Option Marked} {mark : Marked} {rest kept : List Marked}
    (hfree : IsFree last mark) (hpair : composePair? starter mark.code = some composite)
    (h : Absorbs composite last rest result kept) : Absorbs starter last (mark :: rest) result kept
  | stop {starter : Nat} {last : Option Marked} {mark : Marked} (rest : List Marked) (hmark : mark.rank = 0)
    (hnone : IsFree last mark → composePair? starter mark.code = none) :
    Absorbs starter last (mark :: rest) starter (mark :: rest)
  | skip {starter result : Nat} {last : Option Marked} {mark : Marked} {rest kept : List Marked} (hmark : mark.rank ≠ 0)
    (hnone : IsFree last mark → composePair? starter mark.code = none) (h : Absorbs starter (some mark) rest result kept) :
    Absorbs starter last (mark :: rest) result (mark :: kept)

theorem absorb_take {composite : Nat} (hfree : IsFree passed.head? mark)
    (hpair : composePair? starter mark.code = some composite) (rest : List Marked) :
    absorb starter passed (mark :: rest) = absorb composite passed rest := by
  cases passed with
  | nil => simp [absorb, hpair]
  | cons previous passed =>
    have hlt : ¬mark.rank ≤ previous.rank := Nat.not_le.mpr (hfree previous rfl)
    simp [absorb, hpair, hlt]

theorem absorb_leave (hnone : IsFree passed.head? mark → composePair? starter mark.code = none) (rest : List Marked) :
    absorb starter passed (mark :: rest) = if mark.rank = 0 then (starter, passed.reverse ++ mark :: rest)
      else absorb starter (mark :: passed) rest := by
  cases passed with
  | nil =>
    have hpair := hnone nofun
    simp [absorb, hpair]
  | cons previous passed =>
    by_cases hle : mark.rank ≤ previous.rank
    · simp [absorb, hle]
    · have hpair := hnone (by simpa [IsFree] using hle)
      simp [absorb, hle, hpair]

theorem Absorbs.absorb_eq (h : Absorbs starter last rest result kept) (hlast : passed.head? = last) :
    absorb starter passed rest = (result, passed.reverse ++ kept) := by
  induction h generalizing passed with
  | done => rw [absorb, List.append_nil]
  | take hfree hpair h ih => rw [absorb_take (hlast ▸ hfree) hpair, ih hlast]
  | stop rest hmark hnone => rw [absorb_leave (hlast ▸ hnone), if_pos hmark]
  | @skip starter result last mark rest kept hmark hnone h ih =>
    have hskipped : absorb starter (mark :: passed) rest = (result, (mark :: passed).reverse ++ kept) := ih rfl
    rw [absorb_leave (hlast ▸ hnone), if_neg hmark, hskipped, List.reverse_cons, List.append_assoc]
    rfl

theorem exists_absorbs (starter : Nat) (last : Option Marked) (rest : List Marked) :
    ∃ result kept, Absorbs starter last rest result kept := by
  induction rest generalizing starter last with
  | nil => exact ⟨starter, [], .done starter last⟩
  | cons mark rest ih =>
    by_cases htake : IsFree last mark ∧ ∃ composite, composePair? starter mark.code = some composite
    · obtain ⟨hfree, composite, hpair⟩ := htake
      obtain ⟨result, kept, h⟩ := ih composite last
      exact ⟨result, kept, .take hfree hpair h⟩
    · have hnone : IsFree last mark → composePair? starter mark.code = none := by
        intro hfree
        apply Option.eq_none_iff_forall_ne_some.mpr
        intro composite hpair
        exact htake ⟨hfree, composite, hpair⟩
      by_cases hmark : mark.rank = 0
      · exact ⟨starter, mark :: rest, .stop rest hmark hnone⟩
      · obtain ⟨result, kept, h⟩ := ih starter (some mark)
        exact ⟨result, mark :: kept, .skip hmark hnone h⟩

theorem Absorbs.subset (h : Absorbs starter last rest result kept) : kept ⊆ rest := by
  induction h with
  | done => exact List.Subset.refl _
  | take hfree hpair h ih => exact fun mark hmark => List.mem_cons_of_mem _ (ih hmark)
  | stop rest hmark hnone => exact List.Subset.refl _
  | skip hmark hnone h ih => exact List.cons_subset_cons _ ih

/-- What nothing composes with takes nothing. -/
theorem Absorbs.of_barren (h : Absorbs starter last rest result kept) (hnone : ∀ second, composePair? starter second = none) :
    result = starter ∧ kept = rest := by
  induction h with
  | done => exact ⟨rfl, rfl⟩
  | take hfree hpair h ih =>
    rw [hnone] at hpair
    contradiction
  | stop rest hmark hnone' => exact ⟨rfl, rfl⟩
  | skip hmark hnone' h ih =>
    obtain ⟨hresult, hkept⟩ := ih hnone
    exact ⟨hresult, congrArg _ hkept⟩

theorem absorbs_barren (hnone : ∀ second, composePair? starter second = none) (last : Option Marked) (rest : List Marked) :
    Absorbs starter last rest starter rest := by
  obtain ⟨result, kept, h⟩ := exists_absorbs starter last rest
  obtain ⟨rfl, rfl⟩ := h.of_barren hnone
  exact h

/-! ### Composition -/

/-- The codes are composed of the marks. -/
inductive Composed : List Marked → List Nat → Prop
  | nil : Composed [] []
  | cons {mark : Marked} {rest kept : List Marked} {result : Nat} {codes : List Nat}
    (h : Absorbs mark.code none rest result kept) (hrest : Composed kept codes) : Composed (mark :: rest) (result :: codes)

theorem Composed.compose_eq (h : Composed marks codes) : compose marks = codes := by
  induction h with
  | nil => rw [compose]
  | @cons mark rest kept result codes h hrest ih =>
    have habsorb : absorb mark.code [] rest = (result, kept) := h.absorb_eq rfl
    rw [compose, habsorb]
    exact congrArg _ ih

theorem composed_compose (marks : List Marked) : Composed marks (compose marks) := by
  induction marks using compose.induct with
  | case1 => rw [compose]; exact .nil
  | case2 mark rest result ih =>
    obtain ⟨result', kept, h⟩ := exists_absorbs mark.code none rest
    have habsorb : result = (result', kept) := h.absorb_eq rfl
    rw [habsorb] at ih
    have hcomposed := Composed.cons h ih
    rwa [← hcomposed.compose_eq] at hcomposed

/-! ### The codes of a composition -/

theorem Absorbs.result_eq (h : Absorbs starter last rest result kept) :
    result = starter ∨ composites.testBit result = true := by
  induction h with
  | done => exact Or.inl rfl
  | take hfree hpair h ih =>
    rcases ih with rfl | hresult
    · exact Or.inr (testBit_composites hpair)
    · exact Or.inr hresult
  | stop => exact Or.inl rfl
  | skip hmark hnone h ih => exact ih

theorem Composed.mem (h : Composed marks codes) (hcode : code ∈ codes) :
    (∃ mark ∈ marks, mark.code = code) ∨ composites.testBit code = true := by
  induction h with
  | nil => contradiction
  | @cons mark rest kept result codes h hrest ih =>
    rcases List.mem_cons.mp hcode with rfl | hcode
    · exact h.result_eq.imp_left fun hresult => ⟨mark, List.mem_cons_self, hresult.symm⟩
    · refine (ih hcode).imp_left ?_
      intro ⟨other, hother, hcode⟩
      exact ⟨other, List.mem_cons_of_mem _ (h.subset hother), hcode⟩

theorem Absorbs.mem_kept (h : Absorbs starter last rest result kept) (hmark : mark ∈ rest)
    (halone : ∀ first, composePair? first mark.code = none) : mark ∈ kept := by
  induction h with
  | done => exact hmark
  | take hfree hpair h ih =>
    rcases List.mem_cons.mp hmark with rfl | hmark
    · rw [halone] at hpair
      contradiction
    · exact ih hmark
  | stop => exact hmark
  | skip hmark' hnone h ih =>
    rcases List.mem_cons.mp hmark with rfl | hmark
    · exact List.mem_cons_self
    · exact List.mem_cons_of_mem _ (ih hmark)

/-- What composes with nothing stays. -/
theorem Composed.mem_of_alone (h : Composed marks codes) (hmark : mark ∈ marks)
    (halone : ∀ first, composePair? first mark.code = none) (hbarren : ∀ second, composePair? mark.code second = none) :
    mark.code ∈ codes := by
  induction h with
  | nil => contradiction
  | cons h hrest ih =>
    rcases List.mem_cons.mp hmark with rfl | hmark
    · rw [(h.of_barren hbarren).1]
      exact List.mem_cons_self
    · exact List.mem_cons_of_mem _ (ih (h.mem_kept hmark halone))

end SciCalc.Text.Compatibility
