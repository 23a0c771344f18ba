import SciCalc.Text.Compatibility.Form

/-!
# Plain texts

The compatibility form composes nothing of printable ASCII characters and radical signs: a text that decomposes into
them has the text of these characters as its form.
-/

namespace SciCalc

/-- A printable ASCII character. -/
def Text.IsPrintableAscii (c : Char) : Prop := 0x20 ≤ c.toNat ∧ c.toNat < 0x7F

/-- What is true of each of the characters is true of all. -/
theorem Text.IsPrintableAscii.of_codes {c : Char} (h : IsPrintableAscii c) (p : Char → Prop)
    (hcodes : ∀ code < 0x7F, 0x20 ≤ code → p (Char.ofNat code)) : p c := by
  have hchar := hcodes c.toNat h.2 h.1
  rwa [Char.ofNat_toNat] at hchar

namespace Text.Compatibility

/-- A code below those that the compatibility form changes, or the code of the radical sign. -/
def IsInert (code : Nat) : Prop := code < 0x7F ∨ code = 0x221A

theorem composePair?_inert (first : Nat) {second : Nat} (h : IsInert second) : composePair? first second = none := by
  have hrows : ∀ row ∈ compositionRows, 0x7F ≤ row.1 ∧ row.1 ≠ 0x221A := by decide
  have hvowel : ¬(vowelBase ≤ second ∧ second < vowelBase + vowelCount) := by
    show ¬(0x1161 ≤ second ∧ second < 0x1176)
    rcases h with h | h <;> omega
  have htail : ¬(tailBase < second ∧ second < tailBase + tailCount) := by
    show ¬(0x11A7 < second ∧ second < 0x11C3)
    rcases h with h | h <;> omega
  have hlookup : compositionRows.lookup second = none := by
    apply List.lookup_eq_none_iff.mpr
    intro row hrow
    have hrow := hrows row hrow
    have hne : second ≠ row.1 := by
      rcases h with h | h <;> omega
    exact bne_iff_ne.mpr hne
  unfold composePair?
  rw [if_neg, if_neg, hlookup, Option.bind_none]
  · simp only [Bool.and_eq_true, decide_eq_true_eq]
    omega
  · simp only [Bool.and_eq_true, decide_eq_true_eq]
    omega

theorem orderMarks_starters {marks : List Marked} (h : ∀ mark ∈ marks, mark.rank = 0) : orderMarks marks = marks := by
  induction marks with
  | nil => rfl
  | cons mark rest ih =>
    obtain ⟨hmark, hrest⟩ := List.forall_mem_cons.mp h
    rw [orderMarks, if_pos hmark, ih hrest]

theorem compose_inert {codes : List Nat} (h : ∀ code ∈ codes, IsInert code) :
    compose (codes.map fun code => ⟨code, 0⟩) = codes := by
  induction codes with
  | nil => rw [List.map_nil, compose]
  | cons code rest ih =>
    obtain ⟨-, hrest⟩ := List.forall_mem_cons.mp h
    have habsorb : absorb code [] (rest.map fun code => ⟨code, 0⟩) = (code, rest.map fun code => ⟨code, 0⟩) := by
      cases rest with
      | nil => rfl
      | cons next rest => simp [absorb, composePair?_inert code (hrest next List.mem_cons_self)]
    rw [List.map_cons, compose, habsorb, ih hrest]

theorem combiningClass_inert {code : Nat} (h : IsInert code) : combiningClass code = 0 := by
  rcases h with h | rfl
  · exact if_pos (by omega)
  · decide

end Text.Compatibility

open Text

/-- The compatibility form is told by what the characters decompose into. -/
theorem Text.compatibilityForm_of_codes {s plain : List Char} (hinert : ∀ c ∈ plain, Compatibility.IsInert c.toNat)
    (hcodes : s.flatMap (fun c => Compatibility.decompose c.toNat) = plain.map Char.toNat) :
    compatibilityForm s = plain := by
  have hinertCodes : ∀ code ∈ plain.map Char.toNat, Compatibility.IsInert code := by
    intro code hcode
    obtain ⟨c, hc, rfl⟩ := List.mem_map.mp hcode
    exact hinert c hc
  have hmarked : (plain.map Char.toNat).map
      (fun code => (⟨code, Compatibility.combiningClass code⟩ : Compatibility.Marked)) =
        (plain.map Char.toNat).map fun code => ⟨code, 0⟩ := by
    apply List.map_congr_left
    intro code hcode
    rw [Compatibility.combiningClass_inert (hinertCodes code hcode)]
  have hordered : ∀ mark ∈ (plain.map Char.toNat).map (fun code => (⟨code, 0⟩ : Compatibility.Marked)),
      mark.rank = 0 := by
    simp
  rw [compatibilityForm, hcodes, hmarked, Compatibility.orderMarks_starters hordered,
    Compatibility.compose_inert hinertCodes, List.map_map]
  exact (List.map_congr_left fun c _ => Char.ofNat_toNat c).trans (List.map_id plain)

end SciCalc
