import Mathlib.Data.List.Basic
import SciCalc.Proofs.CanonicalOrder
import SciCalc.Proofs.Composition

/-!
# Folded texts

The compatibility form of a text decomposes again into the very codes that it was composed of, in their order. So the form
is its own form, and every part of a form is one.
-/

namespace SciCalc.Text.Compatibility

variable {starter result code : Nat} {last : Option Marked} {mark : Marked} {rest kept marks passed : List Marked}
  {codes : List Nat}

def marked (codes : List Nat) : List Marked := codes.map fun code => ⟨code, combiningClass code⟩

/-- The full decomposition in canonical order. -/
def unfolded (codes : List Nat) : List Marked := orderMarks (marked (codes.flatMap decompose))

/-- The compatibility form of the codes. -/
def folded (codes : List Nat) : List Nat := compose (unfolded codes)

def IsFolded (codes : List Nat) : Prop := folded codes = codes

theorem marked_append (codes codes' : List Nat) : marked (codes ++ codes') = marked codes ++ marked codes' :=
  List.map_append

/-! ### Decomposing again -/

/-- Marks that a text unfolds to. -/
structure IsSettled (marks : List Marked) : Prop where
  ordered : IsOrdered marks
  rank : ∀ mark ∈ marks, mark.rank = combiningClass mark.code
  whole : ∀ mark ∈ marks, decompose mark.code = [mark.code]

theorem isSettled_unfolded (codes : List Nat) : IsSettled (unfolded codes) := by
  have hmark : ∀ mark ∈ unfolded codes, mark.rank = combiningClass mark.code ∧ decompose mark.code = [mark.code] := by
    intro mark hmem
    obtain ⟨target, htarget, rfl⟩ := List.mem_map.mp ((orderMarks_perm _).mem_iff.mp hmem)
    obtain ⟨code, -, hcode⟩ := List.mem_flatMap.mp htarget
    exact ⟨rfl, decompose_target hcode⟩
  exact ⟨isOrdered_orderMarks _, fun mark hmem => (hmark mark hmem).1, fun mark hmem => (hmark mark hmem).2⟩

theorem IsSettled.tail (h : IsSettled (mark :: rest)) : IsSettled rest :=
  ⟨h.ordered.2, fun mark hmem => h.rank mark (List.mem_cons_of_mem _ hmem),
    fun mark hmem => h.whole mark (List.mem_cons_of_mem _ hmem)⟩

theorem IsSettled.cons (h : IsSettled (mark :: rest)) {rest' : List Marked} (hadmits : Admits mark.rank rest')
    (hrest' : IsSettled rest') : IsSettled (mark :: rest') :=
  ⟨⟨hadmits, hrest'.ordered⟩, List.forall_mem_cons.mpr ⟨h.rank mark List.mem_cons_self, hrest'.rank⟩,
    List.forall_mem_cons.mpr ⟨h.whole mark List.mem_cons_self, hrest'.whole⟩⟩

theorem isSettled_nil : IsSettled [] := ⟨trivial, nofun, nofun⟩

/-- The marks ascend from the one that was skipped last on. -/
def IsOrderedFrom (last : Option Marked) (rest : List Marked) : Prop := IsOrdered (last.toList ++ rest)

theorem isOrderedFrom_some : IsOrderedFrom (some mark) rest ↔ IsOrdered (mark :: rest) := Iff.rfl

theorem IsOrderedFrom.ordered (h : IsOrderedFrom last rest) : IsOrdered rest := by
  cases last with
  | none => exact h
  | some previous => exact h.2

theorem IsOrderedFrom.of_free (h : IsOrderedFrom last (mark :: rest)) (hfree : IsFree last mark) :
    IsOrderedFrom last rest := by
  cases last with
  | none => exact h.2
  | some previous => exact ⟨h.2.1.of_le (Nat.le_of_lt (hfree previous rfl)), h.2.2⟩

theorem IsOrderedFrom.le (h : IsOrderedFrom last (mark :: rest)) (hmark : mark.rank ≠ 0) :
    ∀ previous ∈ last, previous.rank ≤ mark.rank := by
  intro previous hprevious
  obtain rfl := Option.mem_def.mp hprevious
  exact (admits_cons.mp h.1).resolve_left hmark

theorem IsOrderedFrom.cons (h : IsOrderedFrom last (mark :: rest)) (hkept : IsOrderedFrom (some mark) kept) :
    IsOrderedFrom last (mark :: kept) := by
  cases last with
  | none => exact hkept
  | some previous => exact ⟨admits_cons.mpr (admits_cons.mp h.1), hkept⟩

/-- What is kept is still in order. -/
theorem Absorbs.isOrderedFrom (h : Absorbs starter last rest result kept) (hrest : IsOrderedFrom last rest) :
    IsOrderedFrom last kept := by
  induction h with
  | done => exact hrest
  | take hfree hpair h ih => exact ih (hrest.of_free hfree)
  | stop rest hmark hnone => exact hrest
  | skip hmark hnone h ih => exact hrest.cons (ih (isOrderedFrom_some.mpr hrest.ordered))

theorem Absorbs.isSettled (h : Absorbs starter none rest result kept) (hrest : IsSettled rest) : IsSettled kept :=
  ⟨h.isOrderedFrom hrest.ordered, fun mark hmark => hrest.rank mark (h.subset hmark),
    fun mark hmark => hrest.whole mark (h.subset hmark)⟩

/-- Decomposing the result and sorting what was skipped and kept gives back what there was before. -/
theorem Absorbs.orderMarks_eq (h : Absorbs starter last rest result kept) (hrest : IsOrderedFrom last rest)
    (hrank : ∀ mark ∈ rest, mark.rank = combiningClass mark.code)
    (hpassed : ∀ mark ∈ passed, mark.rank ≠ 0 ∧ ∃ previous ∈ last, mark.rank ≤ previous.rank) :
    orderMarks (marked (decompose result) ++ (passed ++ kept)) =
      orderMarks (marked (decompose starter) ++ (passed ++ rest)) := by
  induction h generalizing passed with
  | done => rfl
  | @take starter composite result last mark rest kept hfree hpair h ih =>
    obtain ⟨hmark, hrank⟩ := List.forall_mem_cons.mp hrank
    have hmove : orderMarks (mark :: (passed ++ rest)) = orderMarks (passed ++ mark :: rest) := by
      apply orderMarks_move
      intro other hother
      obtain ⟨hpos, previous, hprevious, hle⟩ := hpassed other hother
      exact ⟨hpos, Nat.lt_of_le_of_lt hle (hfree previous hprevious)⟩
    have hcomposite : marked (decompose composite) = marked (decompose starter) ++ [mark] := by
      have hlast : marked [mark.code] = [mark] := by rw [marked, List.map_singleton, ← hmark]
      rw [decompose_of_composePair? hpair, marked_append, hlast]
    rw [ih (hrest.of_free hfree) hrank hpassed, hcomposite, List.append_assoc]
    exact orderMarks_append_congr hmove _
  | stop rest hmark hnone => rfl
  | @skip starter result last mark rest kept hmark hnone h ih =>
    have hpassed' : ∀ other ∈ passed ++ [mark], other.rank ≠ 0 ∧ ∃ previous ∈ some mark, other.rank ≤ previous.rank := by
      intro other hother
      rcases List.mem_append.mp hother with hother | hother
      · obtain ⟨hpos, previous, hprevious, hle⟩ := hpassed other hother
        exact ⟨hpos, mark, rfl, Nat.le_trans hle (hrest.le hmark previous hprevious)⟩
      · rw [List.mem_singleton.mp hother]
        exact ⟨hmark, mark, rfl, Nat.le_refl _⟩
    have hih := ih (isOrderedFrom_some.mpr hrest.ordered) (List.forall_mem_cons.mp hrank).2 hpassed'
    rwa [List.append_assoc, List.append_assoc] at hih

/-- What settled marks are composed to unfolds to the marks. -/
theorem Composed.unfolded_eq (h : Composed marks codes) (hmarks : IsSettled marks) : unfolded codes = marks := by
  induction h with
  | nil => rfl
  | @cons mark rest kept result codes h hrest ih =>
    have hmark : marked (decompose mark.code) = [mark] := by
      rw [hmarks.whole mark List.mem_cons_self, marked, List.map_singleton, ← hmarks.rank mark List.mem_cons_self]
    have habsorbed :=
      @Absorbs.orderMarks_eq mark.code result none rest kept [] h hmarks.tail.ordered hmarks.tail.rank nofun
    calc
      unfolded (result :: codes)
          = orderMarks (marked (decompose result) ++ unfolded codes) := by
            rw [unfolded, List.flatMap_cons, marked_append, ← orderMarks_append_orderMarks]
            rfl
      _ = orderMarks (marked (decompose result) ++ kept) := by rw [ih (h.isSettled hmarks.tail)]
      _ = orderMarks (mark :: rest) := by
            rw [hmark] at habsorbed
            exact habsorbed
      _ = mark :: rest := orderMarks_of_isOrdered hmarks.ordered

/-- A text is its own form if it is composed of settled marks. -/
theorem isFolded_iff : IsFolded codes ↔ ∃ marks, IsSettled marks ∧ Composed marks codes := by
  constructor
  · intro h
    have hcomposed := composed_compose (unfolded codes)
    rw [← folded, h] at hcomposed
    exact ⟨_, isSettled_unfolded codes, hcomposed⟩
  · intro ⟨marks, hmarks, h⟩
    rw [IsFolded, folded, h.unfolded_eq hmarks, h.compose_eq]

theorem isFolded_folded (codes : List Nat) : IsFolded (folded codes) :=
  isFolded_iff.mpr ⟨_, isSettled_unfolded codes, composed_compose _⟩

/-! ### Parts of a folded text -/

theorem IsFolded.tail (h : IsFolded (code :: codes)) : IsFolded codes := by
  obtain ⟨marks, hmarks, hcomposed⟩ := isFolded_iff.mp h
  cases hcomposed with
  | cons habsorbs hrest => exact isFolded_iff.mpr ⟨_, habsorbs.isSettled hmarks.tail, hrest⟩

theorem IsFolded.right {front behind : List Nat} (h : IsFolded (front ++ behind)) : IsFolded behind := by
  induction front with
  | nil => exact h
  | cons code front ih => exact ih (IsFolded.tail h)

/-- The marks begin as the others do. They may end anywhere, and behind a starter they go on in their own way. -/
inductive Opens : List Marked → List Marked → Prop
  | nil (marks : List Marked) : Opens [] marks
  | starter {mark : Marked} (hmark : mark.rank = 0) (marks marks' : List Marked) : Opens (mark :: marks) (mark :: marks')
  | mark {mark : Marked} {marks marks' : List Marked} (hmark : mark.rank ≠ 0) (h : Opens marks marks') :
    Opens (mark :: marks) (mark :: marks')

theorem Opens.admits {marks' : List Marked} (h : Opens marks' marks) {rank : Nat} (hadmits : Admits rank marks) :
    Admits rank marks' := by
  cases h with
  | nil => exact admits_nil rank
  | starter hmark marks marks' => exact admits_cons.mpr (admits_cons.mp hadmits)
  | mark hmark h => exact admits_cons.mpr (admits_cons.mp hadmits)

/-- Where all is taken, an earlier mark that was skipped last blocks nothing either. -/
theorem Absorbs.of_le (h : Absorbs starter last rest result []) {earlier : Option Marked}
    (hle : ∀ previous ∈ earlier, ∃ next ∈ last, previous.rank ≤ next.rank) : Absorbs starter earlier rest result [] := by
  generalize hkept : ([] : List Marked) = kept at h ⊢
  induction h with
  | done starter last => exact .done starter earlier
  | take hfree hpair h ih =>
    refine .take (fun previous hprevious => ?_) hpair (ih hle hkept)
    obtain ⟨next, hnext, hle⟩ := hle previous hprevious
    exact Nat.lt_of_le_of_lt hle (hfree next hnext)
  | stop rest hmark hnone => contradiction
  | skip hmark hnone h ih => contradiction

/-- A starter can take the same from a shorter rest, of which a beginning of what it kept is left. -/
theorem Absorbs.exists_opens (h : Absorbs starter last rest result kept) (hfrom : IsOrderedFrom last rest)
    (hrest : IsSettled rest) {kept' : List Marked} (hopens : Opens kept' kept) (hkept' : IsSettled kept') :
    ∃ rest', Absorbs starter last rest' result kept' ∧ IsSettled rest' ∧
      ∀ rank, Admits rank rest → Admits rank rest' := by
  induction h generalizing kept' with
  | done starter last =>
    cases hopens
    exact ⟨[], .done starter last, hrest, fun rank h => h⟩
  | @take starter composite result last mark rest kept hfree hpair h ih =>
    obtain ⟨rest', h', hrest', hadmits⟩ := ih (hfrom.of_free hfree) hrest.tail hopens hkept'
    have hmark := hadmits mark.rank hrest.ordered.1
    exact ⟨mark :: rest', .take hfree hpair h', hrest.cons hmark hrest', fun rank h => admits_cons.mpr (admits_cons.mp h)⟩
  | @stop starter last mark rest hmark hnone =>
    cases hopens with
    | nil => exact ⟨[], .done starter last, isSettled_nil, fun rank h => admits_nil rank⟩
    | starter hmark' marks marks' =>
      exact ⟨mark :: marks, .stop marks hmark hnone, hkept', fun rank h => admits_cons.mpr (admits_cons.mp h)⟩
    | mark hmark' h => contradiction
  | @skip starter result last mark rest kept hmark hnone h ih =>
    have hskipped : IsOrderedFrom (some mark) rest := hrest.ordered
    cases hopens with
    | nil =>
      -- all behind the mark is taken, so it may be left out: it blocked nothing
      obtain ⟨rest', h', hrest', hadmits⟩ := ih hskipped hrest.tail (.nil kept) isSettled_nil
      refine ⟨rest', h'.of_le fun previous hprevious => ?_, hrest', fun rank h => hadmits rank ?_⟩
      · exact ⟨mark, rfl, hfrom.le hmark previous hprevious⟩
      · exact hrest.ordered.1.of_le ((admits_cons.mp h).resolve_left hmark)
    | starter hmark' marks marks' => contradiction
    | @mark _ marks marks' hmark' hopens =>
      obtain ⟨rest', h', hrest', hadmits⟩ := ih hskipped hrest.tail hopens hkept'.tail
      have hfirst := hadmits mark.rank hrest.ordered.1
      exact ⟨mark :: rest', .skip hmark hnone h', hrest.cons hfirst hrest',
        fun rank h => admits_cons.mpr (admits_cons.mp h)⟩

theorem Composed.exists_opens {front behind : List Nat} (h : Composed marks (front ++ behind)) (hmarks : IsSettled marks) :
    ∃ marks', Opens marks' marks ∧ IsSettled marks' ∧ Composed marks' front := by
  generalize hcodes : front ++ behind = codes at h
  induction h generalizing front with
  | nil =>
    rw [(List.append_eq_nil_iff.mp hcodes).1]
    exact ⟨[], .nil [], hmarks, .nil⟩
  | @cons mark rest kept result codes h hrest ih =>
    cases front with
    | nil => exact ⟨[], .nil _, isSettled_nil, .nil⟩
    | cons code front =>
      rw [List.cons_append, List.cons_eq_cons] at hcodes
      obtain ⟨rfl, hcodes⟩ := hcodes
      obtain ⟨kept', hopens, hkept', hcomposed⟩ := ih (h.isSettled hmarks.tail) hcodes
      by_cases hmark : mark.rank = 0
      · obtain ⟨rest', h', hrest', hadmits⟩ := h.exists_opens hmarks.tail.ordered hmarks.tail hopens hkept'
        have hsettled := hmarks.cons (hadmits mark.rank hmarks.ordered.1) hrest'
        exact ⟨mark :: rest', .starter hmark rest' rest, hsettled, .cons h' hcomposed⟩
      · have hbarren : ∀ second, composePair? mark.code second = none := by
          intro second
          apply Option.eq_none_iff_forall_ne_some.mpr
          intro composite hpair
          rw [hmarks.rank mark List.mem_cons_self] at hmark
          exact hmark (combiningClass_first hpair)
        obtain ⟨rfl, rfl⟩ := h.of_barren hbarren
        have hsettled := hmarks.cons (hopens.admits hmarks.ordered.1) hkept'
        exact ⟨mark :: kept', .mark hmark hopens, hsettled, .cons (absorbs_barren hbarren none kept') hcomposed⟩

theorem IsFolded.left {front behind : List Nat} (h : IsFolded (front ++ behind)) : IsFolded front := by
  obtain ⟨marks, hmarks, hcomposed⟩ := isFolded_iff.mp h
  obtain ⟨marks', -, hmarks', hfront⟩ := hcomposed.exists_opens hmarks
  exact isFolded_iff.mpr ⟨marks', hmarks', hfront⟩

/-! ### Cutting a text -/

/-- A starter of its own that composes with nothing before it. -/
structure IsFirm (code : Nat) : Prop where
  whole : decompose code = [code]
  starter : combiningClass code = 0
  alone : ∀ first, composePair? first code = none

theorem Absorbs.append (h : Absorbs starter last rest result kept) (hfirm : IsFirm code) (behind : List Marked) :
    Absorbs starter last (rest ++ ⟨code, 0⟩ :: behind) result (kept ++ ⟨code, 0⟩ :: behind) := by
  induction h with
  | done starter last => exact .stop behind rfl fun _ => hfirm.alone starter
  | take hfree hpair h ih => exact .take hfree hpair ih
  | stop rest hmark hnone => exact .stop _ hmark hnone
  | skip hmark hnone h ih => exact .skip hmark hnone ih

theorem Composed.append (h : Composed marks codes) (hfirm : IsFirm code) {behind : List Marked} {codes' : List Nat}
    (hbehind : Composed (⟨code, 0⟩ :: behind) codes') : Composed (marks ++ ⟨code, 0⟩ :: behind) (codes ++ codes') := by
  induction h with
  | nil => exact hbehind
  | cons h hrest ih => exact .cons (h.append hfirm behind) ih

theorem unfolded_cons (hfirm : IsFirm code) (behind : List Nat) :
    unfolded (code :: behind) = ⟨code, 0⟩ :: unfolded behind := by
  have hmarked : marked ((code :: behind).flatMap decompose) = ⟨code, 0⟩ :: marked (behind.flatMap decompose) := by
    rw [List.flatMap_cons, hfirm.whole, marked_append, marked, List.map_singleton, hfirm.starter]
    rfl
  rw [unfolded, hmarked, orderMarks_starter rfl, unfolded]

theorem unfolded_append (hfirm : IsFirm code) (front behind : List Nat) :
    unfolded (front ++ code :: behind) = unfolded front ++ ⟨code, 0⟩ :: unfolded behind := by
  have hmarked : marked ((front ++ code :: behind).flatMap decompose) =
      marked (front.flatMap decompose) ++ ⟨code, 0⟩ :: marked (behind.flatMap decompose) := by
    rw [List.flatMap_append, List.flatMap_cons, hfirm.whole, marked_append, marked_append, marked, marked, marked,
      List.map_singleton, hfirm.starter]
    rfl
  rw [unfolded, hmarked, orderMarks_append rfl, unfolded, unfolded]

/-- A text may be cut in front of a firm code. -/
theorem isFolded_append (hfirm : IsFirm code) {front behind : List Nat} :
    IsFolded (front ++ code :: behind) ↔ IsFolded front ∧ IsFolded (code :: behind) := by
  constructor
  · intro h
    exact ⟨h.left, h.right⟩
  · intro ⟨hfront, hbehind⟩
    have hcomposed := composed_compose (unfolded (code :: behind))
    rw [← folded, hbehind, unfolded_cons hfirm] at hcomposed
    have hwhole := (composed_compose (unfolded front)).append hfirm hcomposed
    rw [← unfolded_append hfirm, ← folded, hfront] at hwhole
    exact hwhole.compose_eq

/-- What composes with nothing behind it either may be left out in front. -/
theorem isFolded_cons (hfirm : IsFirm code) (hbarren : ∀ second, composePair? code second = none) :
    IsFolded (code :: codes) ↔ IsFolded codes := by
  constructor
  · exact IsFolded.tail
  · intro h
    have hcomposed := composed_compose (unfolded codes)
    rw [← folded, h] at hcomposed
    have hwhole : Composed (⟨code, 0⟩ :: unfolded codes) (code :: codes) :=
      .cons (absorbs_barren hbarren none (unfolded codes)) hcomposed
    rw [IsFolded, folded, unfolded_cons hfirm]
    exact hwhole.compose_eq

/-! ### The codes of a form -/

/-- A code of the form is one of a decomposition, or it is composed. -/
theorem mem_folded (h : code ∈ folded codes) : code ∈ codes.flatMap decompose ∨ composites.testBit code = true := by
  refine ((composed_compose _).mem h).imp_left ?_
  intro ⟨mark, hmark, hcode⟩
  obtain ⟨target, htarget, rfl⟩ := List.mem_map.mp ((orderMarks_perm _).mem_iff.mp hmark)
  rwa [← hcode]

theorem mem_folded_of_alone (h : code ∈ codes.flatMap decompose) (halone : ∀ first, composePair? first code = none)
    (hbarren : ∀ second, composePair? code second = none) : code ∈ folded codes := by
  have hmark : (⟨code, combiningClass code⟩ : Marked) ∈ unfolded codes :=
    (orderMarks_perm _).mem_iff.mpr (List.mem_map.mpr ⟨code, h, rfl⟩)
  exact (composed_compose _).mem_of_alone hmark halone hbarren

/-- A code of a folded text stands for itself, or it is composed. -/
theorem IsFolded.decompose_eq (h : IsFolded codes) (hcode : code ∈ codes) :
    decompose code = [code] ∨ composites.testBit code = true := by
  rw [← h] at hcode
  refine (mem_folded hcode).imp_left fun hmem => ?_
  obtain ⟨source, -, htarget⟩ := List.mem_flatMap.mp hmem
  exact decompose_target htarget

end SciCalc.Text.Compatibility

namespace SciCalc.Text

open Compatibility

theorem compatibilityForm_eq (s : List Char) : compatibilityForm s = (folded (s.map Char.toNat)).map Char.ofNat := by
  have hcodes : (s.map Char.toNat).flatMap decompose = s.flatMap fun c => decompose c.toNat :=
    List.flatMap_map _ _ _
  rw [folded, unfolded, hcodes]
  rfl

theorem map_toNat_compatibilityForm (s : List Char) :
    (compatibilityForm s).map Char.toNat = folded (s.map Char.toNat) := by
  rw [compatibilityForm_eq, List.map_map]
  refine (List.map_congr_left fun code hcode => ?_).trans (List.map_id _)
  have hvalid : code.isValidChar := by
    rcases mem_folded hcode with hmem | hcomposite
    · obtain ⟨source, hsource, htarget⟩ := List.mem_flatMap.mp hmem
      obtain ⟨c, -, rfl⟩ := List.mem_map.mp hsource
      exact isValidChar_of_mem_decompose htarget
    · apply isValidChar_of_testBit
      rw [Nat.testBit_or, hcomposite, Bool.or_true]
  have hchar : Char.ofNat code = Char.ofNatAux code hvalid := dif_pos hvalid
  rw [Function.comp_apply, hchar]
  rfl

theorem compatibilityForm_eq_iff {s : List Char} : compatibilityForm s = s ↔ IsFolded (s.map Char.toNat) := by
  have hinjective : Function.Injective (List.map Char.toNat) := List.map_injective_iff.mpr fun _ _ => Char.toNat_inj.mp
  rw [← hinjective.eq_iff, map_toNat_compatibilityForm]
  rfl

end SciCalc.Text
