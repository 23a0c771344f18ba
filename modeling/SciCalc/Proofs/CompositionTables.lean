import SciCalc.Proofs.DecompositionTables

/-!
# The composition tables

A composed character decomposes into the decompositions of its parts, and only starters compose with what follows them.
-/

namespace SciCalc.Text.Compatibility

/-- What composes with a code behind it. -/
def firsts : Nat :=
  span leadBase (leadBase + leadCount - 1) ||| syllables |||
    union (fun row => union (fun pair => single pair.1) row.2) compositionRows

/-- What composes with a code before it. -/
def seconds : Nat := span vowelBase (tailBase + tailCount - 1) ||| union (fun row => single row.1) compositionRows

def composites : Nat := syllables ||| union (fun row => union (fun pair => single pair.2) row.2) compositionRows

/-- What is no starter. -/
def markCodes : Nat := union (fun row => span row.1 row.2.1) (classRowsLow ++ classRowsHigh)

variable {code target first second composite : Nat}

/-- Where compositions come from. -/
inductive Composes : Nat → Nat → Nat → Prop
  | vowel {lead vowel : Nat} (hlead : lead < leadCount) (hvowel : vowel < vowelCount) :
    Composes (leadBase + lead) (vowelBase + vowel) (syllableBase + (lead * vowelCount + vowel) * tailCount + 0)
  | tail {lead vowel tail : Nat} (hlead : lead < leadCount) (hvowel : vowel < vowelCount) (hpos : 0 < tail)
    (htail : tail < tailCount) :
    Composes (syllableBase + (lead * vowelCount + vowel) * tailCount + 0) (tailBase + tail)
      (syllableBase + (lead * vowelCount + vowel) * tailCount + tail)
  | row {row : Nat × List (Nat × Nat)} (hrow : row ∈ compositionRows) {pair : Nat × Nat} (hpair : pair ∈ row.2) :
    Composes pair.1 row.1 pair.2

theorem composes_of_composePair? (h : composePair? first second = some composite) : Composes first second composite := by
  unfold composePair? at h
  by_cases hjamo : (leadBase ≤ first && first < leadBase + leadCount && vowelBase ≤ second &&
      second < vowelBase + vowelCount) = true
  · rw [if_pos hjamo] at h
    simp only [Bool.and_eq_true, decide_eq_true_eq] at hjamo
    obtain ⟨⟨⟨hlead, hleadEnd⟩, hvowel⟩, hvowelEnd⟩ := hjamo
    have hcomposes := @Composes.vowel (first - leadBase) (second - vowelBase) (by omega) (by omega)
    rw [Nat.add_sub_cancel' hlead, Nat.add_sub_cancel' hvowel, Nat.add_zero] at hcomposes
    rw [← Option.some.inj h]
    exact hcomposes
  rw [if_neg hjamo] at h
  by_cases hsyllable : (syllableBase ≤ first && first < syllableBase + syllableCount &&
      (first - syllableBase) % tailCount = 0 && tailBase < second && second < tailBase + tailCount) = true
  · rw [if_pos hsyllable] at h
    simp only [Bool.and_eq_true, decide_eq_true_eq] at hsyllable
    obtain ⟨⟨⟨⟨hfirst, hfirstEnd⟩, hopen⟩, htail⟩, htailEnd⟩ := hsyllable
    have hparts := parts_of_syllable (first - syllableBase)
    have hbounds := bounds_of_syllable (by omega : first - syllableBase < syllableCount)
    have hcomposes := @Composes.tail _ _ (second - tailBase) hbounds.1 hbounds.2 (by omega) (by omega)
    rw [hopen, Nat.add_zero] at hparts
    have hwhole := Nat.add_sub_cancel' hfirst
    rw [hparts] at hwhole
    rw [Nat.add_zero, hwhole, Nat.add_sub_cancel' (Nat.le_of_lt htail)] at hcomposes
    rw [← Option.some.inj h]
    exact hcomposes
  · rw [if_neg hsyllable] at h
    obtain ⟨pairs, hrow, hpair⟩ := Option.bind_eq_some_iff.mp h
    obtain ⟨before, behind, hrows, -⟩ := List.lookup_eq_some_iff.mp hrow
    obtain ⟨before', behind', rfl, -⟩ := List.lookup_eq_some_iff.mp hpair
    have hmem : (second, before' ++ (first, composite) :: behind') ∈ compositionRows := by
      rw [hrows]
      simp
    exact @Composes.row _ hmem (first, composite) (by simp)

theorem index_lt {lead vowel tail : Nat} (hlead : lead < leadCount) (hvowel : vowel < vowelCount)
    (htail : tail < tailCount) : (lead * vowelCount + vowel) * tailCount + tail < syllableCount := by
  have hlead : lead < 19 := hlead
  have hvowel : vowel < 21 := hvowel
  have htail : tail < 28 := htail
  show (lead * 21 + vowel) * 28 + tail < 11172
  omega

theorem decompose_syllable {lead vowel tail : Nat} (hlead : lead < leadCount) (hvowel : vowel < vowelCount)
    (htail : tail < tailCount) : decompose (syllableBase + (lead * vowelCount + vowel) * tailCount + tail) =
      if tail = 0 then [leadBase + lead, vowelBase + vowel]
      else [leadBase + lead, vowelBase + vowel, tailBase + tail] := by
  have hindex : (lead * vowelCount + vowel) * tailCount + tail < syllableCount ∧
      ((lead * vowelCount + vowel) * tailCount + tail) / (vowelCount * tailCount) = lead ∧
      ((lead * vowelCount + vowel) * tailCount + tail) % (vowelCount * tailCount) / tailCount = vowel ∧
      ((lead * vowelCount + vowel) * tailCount + tail) % tailCount = tail := by
    have hlead : lead < 19 := hlead
    have hvowel : vowel < 21 := hvowel
    have htail : tail < 28 := htail
    show (lead * 21 + vowel) * 28 + tail < 11172 ∧ ((lead * 21 + vowel) * 28 + tail) / 588 = lead ∧
      ((lead * 21 + vowel) * 28 + tail) % 588 / 28 = vowel ∧ ((lead * 21 + vowel) * 28 + tail) % 28 = tail
    omega
  generalize (lead * vowelCount + vowel) * tailCount = index at hindex ⊢
  obtain ⟨hcount, hl, hv, ht⟩ := hindex
  have hhigh : ¬syllableBase + index + tail < 0xA0 := by
    have hbase : 0xA0 ≤ syllableBase := by decide
    omega
  have hsyllable : (syllableBase ≤ syllableBase + index + tail &&
      syllableBase + index + tail < syllableBase + syllableCount) = true := by
    simp only [Bool.and_eq_true, decide_eq_true_eq]
    omega
  have hsub : syllableBase + index + tail - syllableBase = index + tail := by omega
  rw [decompose, if_neg hhigh, if_pos hsyllable, hsub]
  simp only [hl, hv, ht]

/-! ### Looking decompositions up

The recursor goes through an entry in fewer steps than a recursive definition does.
-/

/-- What the entries say of the code. -/
noncomputable def entryOf (code : Nat) (entries : List (Nat × List Nat)) : List Nat :=
  List.rec [code] (fun entry _ later => bif Nat.beq code entry.1 then entry.2 else later) entries

noncomputable def pageOf (code : Nat) (pages : List (Nat × Nat × List (Nat × List Nat))) : List Nat :=
  List.rec [code] (fun page _ later => bif Nat.ble code page.2.1 && Nat.ble page.1 code then entryOf code page.2.2 else later)
    pages

noncomputable def lookUp (code : Nat) : List Nat := bif Nat.ble 0xA0 code then pageOf code pages else [code]

theorem entryOf_eq (code : Nat) (entries : List (Nat × List Nat)) :
    entryOf code entries = (entries.lookup code).getD [code] := by
  induction entries with
  | nil => rfl
  | cons entry rest ih =>
    obtain ⟨key, found⟩ := entry
    show (bif Nat.beq code key then found else entryOf code rest) = _
    have hbeq : Nat.beq code key = (code == key) := by
      rw [Bool.eq_iff_iff, Nat.beq_eq, beq_iff_eq]
    rw [ih, List.lookup_cons, hbeq]
    cases code == key <;> rfl

theorem ble_eq_decide (low high : Nat) : Nat.ble low high = decide (low ≤ high) := by
  rw [Bool.eq_iff_iff, Nat.ble_eq, decide_eq_true_eq]

theorem pageOf_eq (code : Nat) (pages : List (Nat × Nat × List (Nat × List Nat))) :
    pageOf code pages = listed code pages := by
  induction pages with
  | nil => rfl
  | cons page rest ih =>
    obtain ⟨first, last, entries⟩ := page
    show (bif Nat.ble code last && Nat.ble first code then entryOf code entries else pageOf code rest) = _
    rw [ih, entryOf_eq, ble_eq_decide, ble_eq_decide, Bool.and_comm]
    cases hrange : decide (first ≤ code) && decide (code ≤ last) with
    | false => simp only [listed, List.find?_cons, hrange, cond_false]
    | true => simp only [listed, List.find?_cons, hrange, cond_true]

theorem decompose_eq_lookUp (h : runKeys.testBit code = false) : decompose code = lookUp code := by
  rw [decompose_of_not_run h, lookUp, pageOf_eq]
  by_cases hlow : code < 0xA0
  · have hble : Nat.ble 0xA0 code = false := by
      rw [ble_eq_decide]
      exact decide_eq_false (Nat.not_le.mpr hlow)
    rw [if_pos hlow, hble]
    rfl
  · have hble : Nat.ble 0xA0 code = true := Nat.ble_eq.mpr (Nat.not_lt.mp hlow)
    rw [if_neg hlow, hble]
    rfl

def sameCodes : List Nat → List Nat → Bool
  | [], [] => true
  | code :: rest, code' :: rest' => bif Nat.beq code code' then sameCodes rest rest' else false
  | _, _ => false

theorem eq_of_sameCodes {codes codes' : List Nat} (h : sameCodes codes codes' = true) : codes = codes' := by
  induction codes generalizing codes' with
  | nil =>
    cases codes' with
    | nil => rfl
    | cons code' rest' => contradiction
  | cons code rest ih =>
    cases codes' with
    | nil => contradiction
    | cons code' rest' =>
      rw [sameCodes] at h
      cases hcode : Nat.beq code code' with
      | false =>
        rw [hcode] at h
        contradiction
      | true =>
        rw [hcode] at h
        rw [Nat.eq_of_beq_eq_true hcode, ih h]

theorem decompose_pair {row : Nat × List (Nat × Nat)} (hrow : row ∈ compositionRows) {pair : Nat × Nat}
    (hpair : pair ∈ row.2) : decompose pair.2 = decompose pair.1 ++ [row.1] := by
  have hrows : (compositionRows.all fun row =>
      row.2.all fun pair => sameCodes (lookUp pair.2) (lookUp pair.1 ++ [row.1])) = true := by
    decide +kernel
  have houtside : union (fun row => union (fun pair => single pair.1 ||| single pair.2) row.2) compositionRows &&&
      runKeys = 0 := by
    decide +kernel
  have hcodes (code : Nat) (hcode : code = pair.1 ∨ code = pair.2) : runKeys.testBit code = false := by
    apply not_testBit_of_disjoint houtside
    rw [testBit_union]
    refine ⟨row, hrow, testBit_union.mpr ⟨pair, hpair, ?_⟩⟩
    rwa [Nat.testBit_or, Bool.or_eq_true, testBit_single, testBit_single]
  rw [decompose_eq_lookUp (hcodes pair.1 (Or.inl rfl)), decompose_eq_lookUp (hcodes pair.2 (Or.inr rfl))]
  exact eq_of_sameCodes (List.all_eq_true.mp (List.all_eq_true.mp hrows row hrow) pair hpair)

/-- A composed character decomposes into what its parts decompose into. -/
theorem decompose_of_composePair? (h : composePair? first second = some composite) :
    decompose composite = decompose first ++ [second] := by
  cases composes_of_composePair? h with
  | @vowel lead vowel hlead hvowel =>
    have hlead' : targets.testBit (leadBase + lead) = true := by
      have hjamo := testBit_jamo hlead hvowel (by decide : 0 < tailCount) List.mem_cons_self
      rw [targets, Nat.testBit_or, Nat.testBit_or, hjamo]
      rfl
    rw [decompose_syllable hlead hvowel (by decide), decompose_of_testBit_targets hlead']
    rfl
  | @tail lead vowel tail hlead hvowel hpos htail =>
    rw [decompose_syllable hlead hvowel htail, decompose_syllable hlead hvowel (by decide), if_neg (Nat.ne_of_gt hpos)]
    rfl
  | row hrow hpair => exact decompose_pair hrow hpair

theorem testBit_firsts (h : composePair? first second = some composite) : firsts.testBit first = true := by
  rw [firsts, Nat.testBit_or, Nat.testBit_or]
  simp only [Bool.or_eq_true, testBit_union, testBit_span, testBit_single, testBit_syllables]
  cases composes_of_composePair? h with
  | vowel hlead hvowel => omega
  | @tail lead vowel tail hlead hvowel hpos htail =>
    have hindex := index_lt hlead hvowel (by decide : 0 < tailCount)
    omega
  | row hrow hpair => exact Or.inr ⟨_, hrow, _, hpair, rfl⟩

theorem testBit_seconds (h : composePair? first second = some composite) : seconds.testBit second = true := by
  have htails : vowelBase + vowelCount ≤ tailBase ∧ 0 < tailCount := by decide
  rw [seconds, Nat.testBit_or]
  simp only [Bool.or_eq_true, testBit_union, testBit_span, testBit_single]
  cases composes_of_composePair? h with
  | vowel hlead hvowel => omega
  | tail hlead hvowel hpos htail => omega
  | row hrow hpair => exact Or.inr ⟨_, hrow, rfl⟩

theorem testBit_composites (h : composePair? first second = some composite) : composites.testBit composite = true := by
  rw [composites, Nat.testBit_or]
  simp only [Bool.or_eq_true, testBit_union, testBit_single, testBit_syllables]
  cases composes_of_composePair? h with
  | vowel hlead hvowel =>
    have hindex := index_lt hlead hvowel (by decide : 0 < tailCount)
    omega
  | tail hlead hvowel hpos htail =>
    have hindex := index_lt hlead hvowel htail
    omega
  | row hrow hpair => exact Or.inr ⟨_, hrow, _, hpair, rfl⟩

theorem composePair?_of_not_first (h : firsts.testBit first = false) (second : Nat) : composePair? first second = none := by
  cases hpair : composePair? first second with
  | none => rfl
  | some composite => exact Bool.noConfusion ((testBit_firsts hpair).symm.trans h)

theorem composePair?_of_not_second (h : seconds.testBit second = false) (first : Nat) :
    composePair? first second = none := by
  cases hpair : composePair? first second with
  | none => rfl
  | some composite => exact Bool.noConfusion ((testBit_seconds hpair).symm.trans h)

theorem combiningClass_of_not_mark (h : markCodes.testBit code = false) : combiningClass code = 0 := by
  unfold combiningClass
  split
  · rfl
  split
  · rename_i first last value hfind
    have hrange := List.find?_some hfind
    simp only [Bool.and_eq_true, decide_eq_true_eq] at hrange
    have hmark : markCodes.testBit code = true :=
      testBit_union.mpr ⟨_, List.mem_of_find?_eq_some hfind, testBit_span.mpr hrange⟩
    rw [h] at hmark
    contradiction
  · rfl

/-- What composes with a code behind it is a starter. -/
theorem combiningClass_first (h : composePair? first second = some composite) : combiningClass first = 0 := by
  have hdisjoint : firsts &&& markCodes = 0 := by decide +kernel
  exact combiningClass_of_not_mark (not_testBit_of_disjoint hdisjoint (testBit_firsts h))

/-! ### Characters -/

/-- Sets one of which has all the codes of the other. -/
theorem testBit_of_union_eq {set other : Nat} (h : set ||| other = other) {code : Nat} (hcode : set.testBit code = true) :
    other.testBit code = true := by
  rw [← h, Nat.testBit_or, hcode, Bool.true_or]

def scalars : Nat := span 0 0xD7FF ||| span 0xE000 0x10FFFF

theorem isValidChar_of_testBit (h : (targets ||| composites).testBit code = true) : code.isValidChar := by
  have hscalars : (targets ||| composites) ||| scalars = scalars := by decide +kernel
  have hcode := testBit_of_union_eq hscalars h
  rw [scalars, Nat.testBit_or, Bool.or_eq_true, testBit_span, testBit_span] at hcode
  rw [Nat.isValidChar]
  omega

theorem isValidChar_of_mem_decompose {c : Char} (h : target ∈ decompose c.toNat) : target.isValidChar := by
  rcases mem_decompose h with hself | htarget
  · rw [hself, List.mem_singleton] at h
    rw [h]
    exact c.valid
  · apply isValidChar_of_testBit
    rw [Nat.testBit_or, htarget, Bool.true_or]

end SciCalc.Text.Compatibility
