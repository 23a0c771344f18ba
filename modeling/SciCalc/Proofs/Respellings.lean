import SciCalc.Calculator
import SciCalc.Proofs.PrintedTrees
import SciCalc.Proofs.RadicalSigns

/-!
# Respellings

Other signs, full-width characters, radical signs, doubled stars and invisible characters leave the meaning of an
infix text: its plain spelling is the text without the blanks around it.
-/

namespace SciCalc

namespace Spelling

open Text

/-- The full-width form of a printable ASCII character. -/
def fullWidth (c : Char) : Char := if c = ' ' then Char.ofNat 0x3000 else Char.ofNat (c.toNat + 0xFEE0)

/-- The signs that an operator may be written with instead of its own. -/
def otherSigns : Char → List Char
  | '*' => ['×', '·', '⋅', '∗']
  | '/' => ['÷', '∕']
  | '-' => ['−', '‐', '‑', '‒', '–', '—', '―', '﹣', '－']
  | _ => []

/-- The characters of a text are written in one of their forms, with invisible characters anywhere between them. -/
inductive Written : List Char → List Char → Prop
  | nil : Written [] []
  | same (c : Char) {text spelling : List Char} (h : Written text spelling) : Written (c :: text) (c :: spelling)
  | wide {c : Char} (hc : IsPrintableAscii c) {text spelling : List Char} (h : Written text spelling) :
    Written (c :: text) (fullWidth c :: spelling)
  | sign {c form : Char} (hform : form ∈ otherSigns c) {text spelling : List Char} (h : Written text spelling) :
    Written (c :: text) (form :: spelling)
  | pi {form : Char} (hform : form = 'π' ∨ form = 'Π') {text spelling : List Char} (h : Written text spelling) :
    Written ('p' :: 'i' :: text) (form :: spelling)
  | invisible {c : Char} (hc : isInvisible c = true) (hlayout : c ∉ ['\t', '\n', '\r']) {text spelling : List Char}
    (h : Written text spelling) : Written text (c :: spelling)

/-- The text is recast with stars and radical signs, and then its characters are written in any of their forms. -/
def IsRespelling (text spelling : List Char) : Prop := ∃ recast, Recast text recast ∧ Written recast spelling

/-! ### Passes over single characters -/

/-- What the characters decompose into behind the passes that look at them one by one. -/
def codes (inRun : Bool) (s : List Char) : List Nat :=
  ((powers inRun (s.flatMap visible)).flatMap glyph).flatMap fun c => Compatibility.decompose c.toNat

/-- The passes take the form for these plain characters. -/
def StandsFor (form : Char) (plain : List Char) : Prop :=
  visible form = [form] ∧ superscriptDigits.lookup form = none ∧ superscriptSigns.lookup form = none ∧
    (glyph form).flatMap (fun c => Compatibility.decompose c.toNat) = plain.map Char.toNat

instance (form : Char) (plain : List Char) : Decidable (StandsFor form plain) :=
  inferInstanceAs (Decidable (_ ∧ _ ∧ _ ∧ _))

theorem StandsFor.codes_cons {form : Char} {plain : List Char} (h : StandsFor form plain) (inRun : Bool)
    (rest : List Char) : codes inRun (form :: rest) = plain.map Char.toNat ++ codes false rest := by
  obtain ⟨hvisible, hdigit, hsign, hcodes⟩ := h
  have hpowers : powers inRun (form :: rest.flatMap visible) = form :: powers false (rest.flatMap visible) := by
    simp only [powers, hdigit, hsign]
  rw [codes, List.flatMap_cons, hvisible, List.singleton_append, hpowers, List.flatMap_cons, List.flatMap_append,
    hcodes, codes]

theorem codes_invisible {c : Char} (hc : isInvisible c = true) (hlayout : c ∉ ['\t', '\n', '\r']) (inRun : Bool)
    (rest : List Char) : codes inRun (c :: rest) = codes inRun rest := by
  have hlayout : ¬(c = '\t' || c = '\n' || c = '\r') = true := by
    simpa [and_assoc] using hlayout
  have hvisible : visible c = [] := by
    rw [visible, if_neg hlayout, if_pos hc]
  rw [codes, List.flatMap_cons, hvisible, List.nil_append, codes]

theorem standsFor_self {c : Char} (h : IsPlainOrRadical c) : StandsFor c [c] := by
  rcases h with h | rfl
  · exact h.of_codes (fun c => StandsFor c [c]) (by decide +kernel)
  · decide +kernel

theorem standsFor_fullWidth {c : Char} (h : IsPrintableAscii c) : StandsFor (fullWidth c) [c] :=
  h.of_codes (fun c => StandsFor (fullWidth c) [c]) (by decide +kernel)

theorem standsFor_otherSign {c form : Char} (h : form ∈ otherSigns c) : StandsFor form [c] := by
  have hc : c ∈ ['*', '/', '-'] := by
    unfold otherSigns at h
    split at h
    · simp
    · simp
    · simp
    · exact absurd h List.not_mem_nil
  have hsigns : (['*', '/', '-'].all fun c => (otherSigns c).all fun form => decide (StandsFor form [c])) = true := by
    decide +kernel
  have hforms := List.all_eq_true.mp hsigns c hc
  exact of_decide_eq_true (List.all_eq_true.mp hforms form h)

theorem standsFor_pi {form : Char} (h : form = 'π' ∨ form = 'Π') : StandsFor form ['p', 'i'] := by
  rcases h with rfl | rfl <;> decide +kernel

theorem Written.codes_eq {text spelling : List Char} (h : Written text spelling)
    (hplain : ∀ c ∈ text, IsPlainOrRadical c) : ∀ inRun, codes inRun spelling = text.map Char.toNat := by
  induction h with
  | nil => exact fun inRun => rfl
  | same c h ih =>
    obtain ⟨hc, htext⟩ := List.forall_mem_cons.mp hplain
    intro inRun
    rw [(standsFor_self hc).codes_cons, ih htext]
    rfl
  | wide hc h ih =>
    obtain ⟨-, htext⟩ := List.forall_mem_cons.mp hplain
    intro inRun
    rw [(standsFor_fullWidth hc).codes_cons, ih htext]
    rfl
  | sign hform h ih =>
    obtain ⟨-, htext⟩ := List.forall_mem_cons.mp hplain
    intro inRun
    rw [(standsFor_otherSign hform).codes_cons, ih htext]
    rfl
  | pi hform h ih =>
    obtain ⟨-, hrest⟩ := List.forall_mem_cons.mp hplain
    obtain ⟨-, htext⟩ := List.forall_mem_cons.mp hrest
    intro inRun
    rw [(standsFor_pi hform).codes_cons, ih htext]
    rfl
  | invisible hc hlayout h ih =>
    intro inRun
    rw [codes_invisible hc hlayout, ih hplain]

theorem IsPlainOrRadical.isInert {c : Char} (h : IsPlainOrRadical c) : Compatibility.IsInert c.toNat := by
  rcases h with h | rfl
  · exact Or.inl h.2
  · exact Or.inr rfl

/-! ### All passes -/

theorem plain_of_isRespelling {text spelling : List Char} (hascii : ∀ c ∈ text, IsPrintableAscii c)
    (horderly : Token.IsOrderly text) (h : IsRespelling text spelling) : plain spelling = strip isBlank text := by
  obtain ⟨recast, hrecast, hwritten⟩ := h
  have hplain := hrecast.isPlainOrRadical hascii
  have hform : compatibilityForm ((powers false (spelling.flatMap visible)).flatMap glyph) = recast :=
    compatibilityForm_of_codes (fun c hc => (hplain c hc).isInert) (hwritten.codes_eq hplain false)
  rw [plain, hform, hrecast.carets_roots hascii horderly]

theorem Recast.refl (text : List Char) : Recast text text := by
  induction text with
  | nil => exact .nil
  | cons c rest ih => exact ih.keep c

theorem Written.refl (text : List Char) : Written text text := by
  induction text with
  | nil => exact .nil
  | cons c rest ih => exact ih.same c

/-- A text is a spelling of itself. -/
theorem plain_of_isOrderly {text : List Char} (hascii : ∀ c ∈ text, IsPrintableAscii c)
    (horderly : Token.IsOrderly text) : plain text = strip isBlank text :=
  plain_of_isRespelling hascii horderly ⟨text, .refl text, .refl text⟩

/-- A numeral is its own plain spelling. -/
theorem plain_numeral {text : List Char} (h : ∀ c ∈ text, Token.isNumeralChar c) : plain text = text := by
  have hword : ∀ c ∈ text, Token.isWordChar c := by
    intro c hc
    simp [Token.isWordChar, h c hc]
  have hsigns : ∀ c ∈ text, c ∉ Token.signs := fun c hc => Token.not_mem_signs_of_isWordChar (hword c hc)
  have horderly := @Token.isOrderly_append text [] hsigns trivial
  rw [List.append_nil] at horderly
  have hascii : ∀ c ∈ text, IsPrintableAscii c := fun c hc => isPrintableAscii_of_isNumeralChar (h c hc)
  rw [plain_of_isOrderly hascii horderly, strip_eq_self fun c hc => Token.isBlank_of_isWordChar (hword c hc)]

/-- A respelling of an infix text means what the text does: its plain spelling is the text without the blanks around it,
and it is evaluated alike. -/
theorem respelling_means_text {text : String} {phrase : Infix .sum} {spelling : List Char}
    (hascii : ∀ c ∈ text.toList, IsPrintableAscii c) (hlex : Token.lex text = .ok phrase.tokens)
    (hspelling : IsRespelling text.toList spelling) :
    plain spelling = strip isBlank text.toList ∧
    ∀ (calculator : Calculator) (given : Scalar),
      calculator.evaluate (.text (String.ofList spelling)) given = calculator.evaluate (.text text) given := by
  have horderly := Token.isOrderly_of_lex hlex
  have hplain := plain_of_isRespelling hascii horderly hspelling
  refine ⟨hplain, ?_⟩
  intro calculator given
  have hsame : ofScalar (.text (String.ofList spelling)) = ofScalar (.text text) := by
    show String.ofList (plain (String.ofList spelling).toList) = String.ofList (plain text.toList)
    rw [String.toList_ofList, hplain, plain_of_isOrderly hascii horderly]
  simp only [Calculator.evaluate, hsame]

/-- A power of a root, with stars, a radical sign, full-width characters and an invisible one. -/
theorem respelling_means_text_of_root : ∃ phrase : Infix .sum,
    (∀ c ∈ "(2^sqrt(4))".toList, IsPrintableAscii c) ∧ Token.lex "(2^sqrt(4))" = .ok phrase.tokens ∧
    IsRespelling "(2^sqrt(4))".toList ['(', '２', '\u200b', '*', '＊', '√', ' ', '4', ')'] ∧
    plain ['(', '２', '\u200b', '*', '＊', '√', ' ', '4', ')'] = "(2^sqrt(4))".toList := by
  have htwo : Token.IsNumeral ['2'] := Token.isNumeral_digit rfl
  have hfour : Token.IsNumeral ['4'] := Token.isNumeral_digit rfl
  have hroot := (Infix.isOperandText_number hfour).callOne (.unary .sqrt)
  obtain ⟨phrase, -, hspells⟩ := (Infix.isOperandText_number htwo).binary hroot .pow 0
  have hlex : Token.lex "(2^sqrt(4))" = .ok phrase.toSum.tokens := Token.lex_of_spells hspells
  have hascii : ∀ c ∈ "(2^sqrt(4))".toList, IsPrintableAscii c := by
    have hall : "(2^sqrt(4))".toList.all (fun c => 0x20 ≤ c.toNat && c.toNat < 0x7F) = true := by decide
    intro c hc
    simpa [IsPrintableAscii] using List.all_eq_true.mp hall c hc
  have htext : "(2^sqrt(4))".toList = ['(', '2', '^', 's', 'q', 'r', 't', '(', '4', ')', ')'] := rfl
  have hradical : Recast ['s', 'q', 'r', 't', '(', '4', ')', ')'] ['√', ' ', '4', ')'] :=
    .root (.number hfour) 1 (.refl [')'])
  have hrecast : Recast "(2^sqrt(4))".toList ['(', '2', '*', '*', '√', ' ', '4', ')'] := by
    rw [htext]
    exact .keep '(' (.keep '2' (.power hradical))
  have hbehind : Written ['*', '√', ' ', '4', ')'] [fullWidth '*', '√', ' ', '4', ')'] :=
    .wide ⟨by decide, by decide⟩ (.refl ['√', ' ', '4', ')'])
  have hstars : Written ['*', '*', '√', ' ', '4', ')'] ['\u200b', '*', fullWidth '*', '√', ' ', '4', ')'] :=
    .invisible (by decide) (by decide) (.same '*' hbehind)
  have hwritten : Written ['(', '2', '*', '*', '√', ' ', '4', ')']
      ['(', fullWidth '2', '\u200b', '*', fullWidth '*', '√', ' ', '4', ')'] :=
    .same '(' (.wide ⟨by decide, by decide⟩ hstars)
  have htwoWide : fullWidth '2' = '２' := by decide
  have hstarWide : fullWidth '*' = '＊' := by decide
  rw [htwoWide, hstarWide] at hwritten
  have hspelling : IsRespelling "(2^sqrt(4))".toList ['(', '２', '\u200b', '*', '＊', '√', ' ', '4', ')'] :=
    ⟨['(', '2', '*', '*', '√', ' ', '4', ')'], hrecast, hwritten⟩
  have hmeans := (respelling_means_text hascii hlex hspelling).1
  have hstrip : strip isBlank "(2^sqrt(4))".toList = "(2^sqrt(4))".toList := by decide
  exact ⟨phrase.toSum, hascii, hlex, hspelling, hmeans.trans hstrip⟩

end Spelling

end SciCalc
