import SciCalc.Batch
import SciCalc.Proofs.SheetColumns

/-!
# Summaries of batches

The summary of the outcomes can be read off the sheet that holds them: a row with a message is at fault, and its kind
stands beside the message. The counts of the kinds add up to the number of the rows at fault.
-/

namespace SciCalc

def Scalar.text? : Scalar → Option String
  | text s => some s
  | _ => none

theorem nodup_eraseDups (names : List String) : names.eraseDups.Nodup := by
  match names with
  | [] => exact List.nodup_nil
  | name :: rest =>
    rw [List.eraseDups_cons, List.nodup_cons]
    exact ⟨by simp, nodup_eraseDups (rest.filter fun other => !other == name)⟩
termination_by names.length
decreasing_by exact Nat.lt_succ_of_le (List.length_filter_le _ _)

/-- The counts of different names add up to the number of all, if no other names occur. -/
theorem sum_counts {names kinds : List String} (hnames : names.Nodup) (hkinds : ∀ kind ∈ kinds, kind ∈ names) :
    (names.map fun name => kinds.count name).foldr (· + ·) 0 = kinds.length := by
  induction names generalizing kinds with
  | nil =>
    have hnone : kinds = [] := List.eq_nil_iff_forall_not_mem.mpr fun kind h => List.not_mem_nil (hkinds kind h)
    rw [hnone]
    rfl
  | cons name names ih =>
    obtain ⟨hfresh, hnames⟩ := List.nodup_cons.mp hnames
    have hothers : ∀ kind ∈ kinds.filter (fun kind => !kind == name), kind ∈ names := by
      intro kind hkind
      obtain ⟨hmem, hne⟩ := List.mem_filter.mp hkind
      exact (List.mem_cons.mp (hkinds kind hmem)).resolve_left (by simpa using hne)
    have hcounts : names.map (fun other => kinds.count other) =
        names.map fun other => (kinds.filter fun kind => !kind == name).count other := by
      refine List.map_congr_left fun other hother => ?_
      have hne : other ≠ name := fun h => hfresh (h ▸ hother)
      rw [List.count_filter (by simpa using hne)]
    have hsplit := @List.length_eq_countP_add_countP _ (fun kind => kind == name) kinds
    simp only [decide_not, Bool.decide_eq_true] at hsplit
    rw [List.map_cons, List.foldr_cons, hcounts, ih hnames hothers, hsplit, List.count_eq_countP,
      ← List.countP_eq_length_filter]

namespace Batch

/-- The summary as it is read off a sheet. -/
def tally (sheet : Sheet) : Summary :=
  let marks := (sheet.column messageColumn).zip (sheet.column kindColumn)
  let failing := marks.filter fun mark => !mark.1.isMissing
  let kinds := failing.filterMap fun mark => mark.2.text?
  { total := sheet.rows.length
    ok := marks.countP fun mark => mark.1.isMissing
    failed := failing.length
    byKind := (kinds.eraseDups.mergeSort (· ≤ ·)).map fun kind => (kind, kinds.count kind) }

/-- The number of outcomes, those at fault, and those at fault of each kind. -/
structure Counts (given : List Outcome) (summary : Summary) : Prop where
  total : summary.total = given.length
  parts : summary.ok + summary.failed = summary.total
  failed : summary.failed = given.countP fun outcome => !outcome.isOk
  sum : (summary.byKind.map Prod.snd).foldr (· + ·) 0 = summary.failed
  byKind : ∀ kind count, (kind, count) ∈ summary.byKind ↔
    0 < count ∧ count = given.countP fun outcome => outcome.fault?.map (·.kind.name) == some kind

section

variable {given : List Outcome}

theorem isSome_fault? (outcome : Outcome) :
    (outcome.fault?.map (·.kind.name)).isSome = !outcome.isOk := by
  obtain ⟨expression, answer⟩ := outcome
  cases answer <;> rfl

/-- The kinds of the faults, one for each outcome at fault. -/
def faultKinds (given : List Outcome) : List String := given.filterMap fun outcome => outcome.fault?.map (·.kind.name)

theorem summarize_eq (given : List Outcome) : summarize given =
    ⟨given.length, given.length - (faultKinds given).length, (faultKinds given).length,
      ((faultKinds given).eraseDups.mergeSort (· ≤ ·)).map fun kind => (kind, (faultKinds given).count kind)⟩ := rfl

theorem length_faultKinds (given : List Outcome) :
    (faultKinds given).length = given.countP fun outcome => !outcome.isOk := by
  simp only [faultKinds, List.length_filterMap_eq_countP, isSome_fault?]

theorem counts_summarize (given : List Outcome) : Counts given (summarize given) := by
  have hle : (faultKinds given).length ≤ given.length := List.length_filterMap_le _ _
  have hmem (kind : String) : kind ∈ (faultKinds given).eraseDups.mergeSort (· ≤ ·) ↔ kind ∈ faultKinds given := by
    rw [List.mem_mergeSort, List.mem_eraseDups]
  have hnames : ((faultKinds given).eraseDups.mergeSort (· ≤ ·)).Nodup :=
    (List.mergeSort_perm _ _).nodup_iff.mpr (nodup_eraseDups _)
  rw [summarize_eq]
  refine ⟨rfl, Nat.sub_add_cancel hle, length_faultKinds given, ?_, fun kind count => ?_⟩
  · have hsum := sum_counts hnames fun kind => (hmem kind).mpr
    rw [List.map_map]
    exact hsum
  · have hcount : (faultKinds given).count kind =
        given.countP fun outcome => outcome.fault?.map (·.kind.name) == some kind := List.count_filterMap
    rw [← hcount, List.mem_map]
    constructor
    · rintro ⟨kind', hkind, heq⟩
      cases heq
      exact ⟨List.count_pos_iff.mpr ((hmem kind).mp hkind), rfl⟩
    · rintro ⟨hpos, rfl⟩
      exact ⟨kind, (hmem kind).mpr (List.count_pos_iff.mp hpos), rfl⟩

/-- What is read off the sheet with the outcomes is the summary of the outcomes. -/
theorem tally_eq {sheet : Sheet} (hrows : sheet.rows.length = given.length)
    (hmessages : sheet.column messageColumn = given.map messageCell)
    (hkinds : sheet.column kindColumn = given.map kindCell) : tally sheet = summarize given := by
  have hmissing (outcome : Outcome) : (messageCell outcome).isMissing = outcome.isOk := by
    obtain ⟨expression, answer⟩ := outcome
    cases answer <;> rfl
  have hmark (outcome : Outcome) : (if (!(messageCell outcome).isMissing) = true then (kindCell outcome).text? else none) =
      outcome.fault?.map (·.kind.name) := by
    obtain ⟨expression, answer⟩ := outcome
    cases answer <;> rfl
  have hcells : (sheet.column messageColumn).zip (sheet.column kindColumn) =
      given.map fun outcome => (messageCell outcome, kindCell outcome) := by
    rw [hmessages, hkinds, List.zip_map']
  have hfound : (((sheet.column messageColumn).zip (sheet.column kindColumn)).filter fun mark =>
      !mark.1.isMissing).filterMap (fun mark => mark.2.text?) = faultKinds given := by
    rw [hcells, List.filterMap_filter, List.filterMap_map]
    exact congrArg (given.filterMap ·) (funext hmark)
  have hfailed : (((sheet.column messageColumn).zip (sheet.column kindColumn)).filter fun mark =>
      !mark.1.isMissing).length = (faultKinds given).length := by
    rw [hcells, ← List.countP_eq_length_filter, List.countP_map, length_faultKinds]
    exact congrArg (given.countP ·) (funext fun outcome => congrArg Bool.not (hmissing outcome))
  have hok : ((sheet.column messageColumn).zip (sheet.column kindColumn)).countP (fun mark => mark.1.isMissing) =
      given.length - (faultKinds given).length := by
    have hsplit := @List.length_eq_countP_add_countP _ Outcome.isOk given
    simp only [decide_not, Bool.decide_eq_true] at hsplit
    rw [hcells, List.countP_map, length_faultKinds, hsplit, Nat.add_sub_cancel]
    exact congrArg (given.countP ·) (funext hmissing)
  simp only [tally, hfound, hfailed, hok, hrows, summarize_eq]

end

end Batch

end SciCalc
