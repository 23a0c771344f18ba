import Mathlib.Data.Nat.Bitwise
import SciCalc.Text.Compatibility.Form

/-!
# The decomposition tables

Decompositions do not decompose any more. A set of codes is the number that has these bits, so that whole tables are
compared at once.
-/

namespace SciCalc.Text.Compatibility

/-! ### Sets of codes -/

/-- The codes of all the sets. -/
def union {α : Type} (set : α → Nat) : List α → Nat
  | [] => 0
  | a :: rest => set a ||| union set rest

/-- The codes from the first to the last one. -/
def span (first last : Nat) : Nat := (2 ^ (last + 1 - first) - 1) <<< first

def single (code : Nat) : Nat := 1 <<< code

theorem testBit_union {α : Type} {set : α → Nat} {members : List α} {code : Nat} :
    (union set members).testBit code = true ↔ ∃ a ∈ members, (set a).testBit code = true := by
  induction members with
  | nil => simp [union]
  | cons a rest ih => simp [union, ih]

theorem testBit_span {first last code : Nat} : (span first last).testBit code = true ↔ first ≤ code ∧ code ≤ last := by
  rw [span, Nat.testBit_shiftLeft, Nat.testBit_two_pow_sub_one]
  simp only [Bool.and_eq_true, decide_eq_true_eq]
  omega

theorem testBit_single {member code : Nat} : (single member).testBit code = true ↔ code = member := by
  rw [single, Nat.testBit_shiftLeft, ← Nat.pow_zero 2, Nat.testBit_two_pow]
  simp only [Bool.and_eq_true, decide_eq_true_eq]
  omega

/-- Sets without a common code. -/
theorem not_testBit_of_disjoint {set other : Nat} (h : set &&& other = 0) {code : Nat} (hcode : set.testBit code = true) :
    other.testBit code = false := by
  have hand : (set &&& other).testBit code = false := by rw [h, Nat.zero_testBit]
  rw [Nat.testBit_and, hcode, Bool.true_and] at hand
  exact hand

/-! ### The sets of the tables -/

def syllables : Nat := span syllableBase (syllableBase + syllableCount - 1)

/-- The letters that syllables decompose into. -/
def jamo : Nat := span leadBase (tailBase + tailCount)

/-- What decomposes without an entry of its own. -/
def runKeys : Nat := syllables ||| union (fun row => span row.1 row.2.1) runs

/-- What decomposes. -/
def keys : Nat := runKeys ||| union (fun page => union (fun entry => single entry.1) page.2.2) pages

/-- What decompositions consist of. -/
def targets : Nat :=
  jamo ||| union (fun row => span row.2.2 (row.2.2 + (row.2.1 - row.1))) runs |||
    union (fun page => union (fun entry => union single entry.2) page.2.2) pages

variable {code target : Nat}

/-- Where decompositions come from. -/
inductive Decomposes : Nat → List Nat → Prop
  | itself (code : Nat) : Decomposes code [code]
  | syllable {lead vowel tail : Nat} (hlead : lead < leadCount) (hvowel : vowel < vowelCount) (htail : tail < tailCount) :
    Decomposes (syllableBase + (lead * vowelCount + vowel) * tailCount + tail)
      (if tail = 0 then [leadBase + lead, vowelBase + vowel] else [leadBase + lead, vowelBase + vowel, tailBase + tail])
  | run {code : Nat} {row : Nat × Nat × Nat} (hrow : row ∈ runs) (hfirst : row.1 ≤ code) (hlast : code ≤ row.2.1) :
    Decomposes code [row.2.2 + (code - row.1)]
  | entry {page : Nat × Nat × List (Nat × List Nat)} (hpage : page ∈ pages) {entry : Nat × List Nat}
    (hentry : entry ∈ page.2.2) : Decomposes entry.1 entry.2

theorem testBit_syllables : syllables.testBit code = true ↔ syllableBase ≤ code ∧ code < syllableBase + syllableCount := by
  rw [syllables, testBit_span]
  show 0xAC00 ≤ code ∧ code ≤ 0xAC00 + 11172 - 1 ↔ 0xAC00 ≤ code ∧ code < 0xAC00 + 11172
  omega

/-- The parts of a syllable are numbered, those of the lead first. -/
theorem parts_of_syllable (index : Nat) : index =
    (index / (vowelCount * tailCount) * vowelCount + index % (vowelCount * tailCount) / tailCount) * tailCount +
      index % tailCount := by
  show index = (index / 588 * 21 + index % 588 / 28) * 28 + index % 28
  omega

theorem bounds_of_syllable {index : Nat} (h : index < syllableCount) :
    index / (vowelCount * tailCount) < leadCount ∧ index % (vowelCount * tailCount) / tailCount < vowelCount := by
  constructor
  · apply Nat.div_lt_of_lt_mul
    rwa [Nat.mul_comm, ← Nat.mul_assoc]
  · apply Nat.div_lt_of_lt_mul
    rw [Nat.mul_comm tailCount]
    exact Nat.mod_lt _ (by decide)

theorem decomposes (code : Nat) : Decomposes code (decompose code) := by
  unfold decompose
  split
  · exact .itself code
  split
  · rename_i hsyllable
    simp only [Bool.and_eq_true, decide_eq_true_eq] at hsyllable
    obtain ⟨hlead, hvowel⟩ := bounds_of_syllable (by omega : code - syllableBase < syllableCount)
    have htail := Nat.mod_lt (code - syllableBase) (by decide : 0 < tailCount)
    have hwhole := Decomposes.syllable hlead hvowel htail
    rwa [Nat.add_assoc, ← parts_of_syllable, Nat.add_sub_cancel' hsyllable.1] at hwhole
  split
  · rename_i row hfind
    have hrange := List.find?_some hfind
    simp only [Bool.and_eq_true, decide_eq_true_eq] at hrange
    exact .run (List.mem_of_find?_eq_some hfind) hrange.1 hrange.2
  split
  · rename_i first last entries hfind
    cases hlookup : entries.lookup code with
    | none => exact .itself code
    | some targets =>
      obtain ⟨before, behind, rfl, -⟩ := List.lookup_eq_some_iff.mp hlookup
      exact @Decomposes.entry _ (List.mem_of_find?_eq_some hfind) (code, targets) (by simp)
  · exact .itself code

/-- What the pages list for the code. -/
def listed (code : Nat) (pages : List (Nat × Nat × List (Nat × List Nat))) : List Nat :=
  match pages.find? fun (first, last, _) => first ≤ code && code ≤ last with
  | some (_, _, entries) => (entries.lookup code).getD [code]
  | none => [code]

/-- Outside the syllables and the runs the entries tell. -/
theorem decompose_of_not_run (h : runKeys.testBit code = false) : decompose code =
    if code < 0xA0 then [code] else listed code pages := by
  have hnot : ¬(syllables ||| union (fun row => span row.1 row.2.1) runs).testBit code = true := Bool.eq_false_iff.mp h
  simp only [Nat.testBit_or, Bool.or_eq_true, testBit_union, testBit_span, not_or, not_exists, not_and] at hnot
  obtain ⟨hsyllable, hruns⟩ := hnot
  have hnoSyllable : ¬(syllableBase ≤ code && code < syllableBase + syllableCount) = true := by
    intro hbounds
    apply hsyllable
    simpa [testBit_syllables] using hbounds
  rw [decompose, if_neg hnoSyllable]
  split
  · rfl
  split
  · rename_i hfind
    have hrange := List.find?_some hfind
    simp only [Bool.and_eq_true, decide_eq_true_eq] at hrange
    exact absurd hrange.2 (hruns _ (List.mem_of_find?_eq_some hfind) hrange.1)
  · rfl

/-- What is no key does not decompose. -/
theorem decompose_of_not_key (h : keys.testBit code = false) : decompose code = [code] := by
  rw [keys, Nat.testBit_or, Bool.or_eq_false_iff] at h
  rw [decompose_of_not_run h.1]
  have hentries := Bool.eq_false_iff.mp h.2
  simp only [testBit_union, testBit_single, ne_eq, not_exists, not_and] at hentries
  split
  · rfl
  unfold listed
  split
  · rename_i first last entries hfind
    have hlookup : entries.lookup code = none := by
      apply List.lookup_eq_none_iff.mpr
      intro entry hentry
      have hne := hentries (first, last, entries) (List.mem_of_find?_eq_some hfind) entry hentry
      exact bne_iff_ne.mpr hne
    rw [hlookup, Option.getD_none]
  · rfl

theorem testBit_jamo {lead vowel tail : Nat} (hlead : lead < leadCount) (hvowel : vowel < vowelCount)
    (htail : tail < tailCount) (h : target ∈ if tail = 0 then [leadBase + lead, vowelBase + vowel]
      else [leadBase + lead, vowelBase + vowel, tailBase + tail]) : jamo.testBit target = true := by
  have hvowels : leadBase + leadCount ≤ vowelBase := by decide
  have htails : vowelBase + vowelCount ≤ tailBase + tailCount ∧ leadBase ≤ tailBase := by decide
  rw [jamo, testBit_span]
  split at h <;> simp only [List.mem_cons, List.not_mem_nil, or_false] at h <;> omega

theorem mem_decompose (h : target ∈ decompose code) : decompose code = [code] ∨ targets.testBit target = true := by
  rw [targets, Nat.testBit_or, Nat.testBit_or, Bool.or_eq_true, Bool.or_eq_true, testBit_union, testBit_union]
  simp only [testBit_union, testBit_span, testBit_single]
  have hdecomposes := decomposes code
  generalize decompose code = codes at h hdecomposes ⊢
  cases hdecomposes with
  | itself code => exact Or.inl rfl
  | syllable hlead hvowel htail => exact Or.inr (Or.inl (Or.inl (testBit_jamo hlead hvowel htail h)))
  | run hrow hfirst hlast =>
    refine Or.inr (Or.inl (Or.inr ⟨_, hrow, ?_⟩))
    rw [List.mem_singleton.mp h]
    omega
  | entry hpage hentry => exact Or.inr (Or.inr ⟨_, hpage, _, hentry, target, h, rfl⟩)

theorem decompose_of_testBit_targets (h : targets.testBit code = true) : decompose code = [code] := by
  have hdisjoint : targets &&& keys = 0 := by decide +kernel
  exact decompose_of_not_key (not_testBit_of_disjoint hdisjoint h)

/-- A decomposition does not decompose any more. -/
theorem decompose_target (h : target ∈ decompose code) : decompose target = [target] := by
  rcases mem_decompose h with hself | htarget
  · rw [hself, List.mem_singleton] at h
    rwa [h]
  · exact decompose_of_testBit_targets htarget

end SciCalc.Text.Compatibility
