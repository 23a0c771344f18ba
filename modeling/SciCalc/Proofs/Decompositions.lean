import SciCalc.Proofs.LongestMatches

/-!
# Decompositions

There is one way to cut a text into longest tokens with nothing but blanks outside them, and the lexer finds it. Where
blanks separate the tokens, the words are found again.
-/

namespace SciCalc.Token

/-- The text, which begins at `start`, is cut into longest tokens, one behind the other, and blanks. -/
structure IsDecomposition (start : Nat) (s : List Char) (tokens : List Token) : Prop where
  /-- A token is what stands at its place, and it is the longest there. -/
  longest : ∀ token ∈ tokens, ∃ before rest, s = before ++ (token.text.toList ++ rest) ∧
    token.offset = (start + before.length : Nat) ∧ IsLongest token.kind token.text.toList rest
  /-- A token begins where the tokens before it have ended. -/
  ordered : tokens.Pairwise fun (earlier later : Token) => earlier.offset + earlier.text.length ≤ later.offset
  /-- Outside the tokens there are blanks. -/
  covered : ∀ before c rest, s = before ++ c :: rest →
    (∀ token ∈ tokens, ¬(token.offset ≤ (start + before.length : Nat) ∧
      (start + before.length : Nat) < token.offset + token.text.length)) → Text.isBlank c

section

variable {start : Nat} {c : Char} {kind : Kind} {s text tail rest : List Char} {tokens later : List Token}

theorem isDecomposition_nil (start : Nat) : IsDecomposition start [] [] where
  longest := by simp
  ordered := .nil
  covered := by simp

theorem IsDecomposition.blank (h : IsDecomposition (start + 1) tail tokens) (hblank : Text.isBlank c = true) :
    IsDecomposition start (c :: tail) tokens where
  longest token ht := by
    obtain ⟨before, rest, htail, hoffset, hlongest⟩ := h.longest token ht
    refine ⟨c :: before, rest, by rw [htail, List.cons_append], ?_, hlongest⟩
    rw [hoffset, List.length_cons]
    omega
  ordered := h.ordered
  covered before first rest hs hout := by
    cases before with
    | nil =>
      obtain ⟨rfl, -⟩ := List.cons.inj hs
      exact hblank
    | cons head before =>
      refine h.covered before first rest (List.cons.inj hs).2 fun token ht hin => hout token ht ?_
      rw [List.length_cons]
      omega

theorem IsDecomposition.token (h : IsDecomposition (start + text.length) rest later)
    (hlongest : IsLongest kind text rest) :
    IsDecomposition start (text ++ rest) (⟨kind, String.ofList text, start⟩ :: later) where
  longest token ht := by
    rcases List.mem_cons.mp ht with rfl | ht
    · exact ⟨[], rest, by simp, rfl, by simpa using hlongest⟩
    · obtain ⟨before, behind, hrest, hoffset, hlater⟩ := h.longest token ht
      refine ⟨text ++ before, behind, by rw [hrest, List.append_assoc], ?_, hlater⟩
      rw [hoffset, List.length_append]
      omega
  ordered := by
    refine List.pairwise_cons.mpr ⟨fun token ht => ?_, h.ordered⟩
    obtain ⟨before, -, -, hoffset, -⟩ := h.longest token ht
    show (start : Int) + (String.ofList text).length ≤ token.offset
    rw [hoffset, String.length_ofList]
    omega
  covered before c behind hs hout := by
    have hfirst := hout _ List.mem_cons_self
    simp only [String.length_ofList] at hfirst
    rcases List.append_eq_append_iff.mp hs with ⟨more, rfl, hrest⟩ | ⟨more, rfl, hrest⟩
    · refine h.covered more c behind hrest fun token ht hin => hout token (List.mem_cons_of_mem _ ht) ?_
      rw [List.length_append]
      omega
    · cases more with
      | nil =>
        exact h.covered [] c behind hrest.symm fun token ht hin => hout token (List.mem_cons_of_mem _ ht) (by simpa using hin)
      | cons head more =>
        rw [List.length_append, List.length_cons] at hfirst
        omega

/-- Without tokens the text is blank. -/
theorem IsDecomposition.eq_blanks (h : IsDecomposition start s []) : ∀ c ∈ s, Text.isBlank c := by
  intro c hc
  obtain ⟨before, rest, hs⟩ := List.append_of_mem hc
  exact h.covered before c rest hs (by simp)

/-- In front of the first token there are blanks, and behind it the other tokens. -/
theorem IsDecomposition.of_cons {token : Token} (h : IsDecomposition start s (token :: later)) : ∃ gap rest,
    s = gap ++ (token.text.toList ++ rest) ∧ (∀ c ∈ gap, Text.isBlank c) ∧ token.offset = (start + gap.length : Nat) ∧
    IsLongest token.kind token.text.toList rest ∧
    IsDecomposition (start + gap.length + token.text.toList.length) rest later := by
  obtain ⟨gap, rest, hs, hoffset, hlongest⟩ := h.longest token List.mem_cons_self
  obtain ⟨hfirst, hordered⟩ := List.pairwise_cons.mp h.ordered
  have hlength : token.text.length = token.text.toList.length := String.length_toList.symm
  refine ⟨gap, rest, hs, fun c hc => ?_, hoffset, hlongest, ?_, hordered, ?_⟩
  · obtain ⟨before, behind, rfl⟩ := List.append_of_mem hc
    rw [List.length_append, List.length_cons] at hoffset
    refine h.covered before c _ (by rw [hs, List.append_assoc, List.cons_append]) fun token' ht' hin => ?_
    rcases List.mem_cons.mp ht' with rfl | ht'
    · omega
    · have := hfirst token' ht'
      omega
  · intro token' ht'
    obtain ⟨before', rest', hs', hoffset', hlongest'⟩ := h.longest token' (List.mem_cons_of_mem _ ht')
    have hplace := hfirst token' ht'
    have hbefore : (gap ++ token.text.toList).length ≤ before'.length := by
      rw [List.length_append]
      omega
    rw [hs, ← List.append_assoc] at hs'
    obtain ⟨between, rfl⟩ := List.prefix_of_prefix_length_le ⟨rest, hs'⟩ ⟨_, rfl⟩ hbefore
    rw [List.append_assoc (gap ++ _)] at hs'
    refine ⟨between, rest', List.append_cancel_left hs', ?_, hlongest'⟩
    simp only [List.length_append] at hoffset'
    omega
  · intro before c behind hrest hout
    refine h.covered (gap ++ (token.text.toList ++ before)) c behind (by simp [hs, hrest]) fun token' ht' hin => ?_
    simp only [List.length_append] at hin
    rcases List.mem_cons.mp ht' with rfl | ht'
    · omega
    · exact hout token' ht' (by omega)

theorem lexFrom_blanks {gap : List Char} (h : ∀ c ∈ gap, Text.isBlank c) (rest : List Char) (offset : Nat) :
    lexFrom offset (gap ++ rest) = lexFrom (offset + gap.length) rest := by
  induction gap generalizing offset with
  | nil => rfl
  | cons c gap ih =>
    obtain ⟨hc, hgap⟩ := List.forall_mem_cons.mp h
    rw [List.cons_append, lexFrom_blank hc, ih hgap, List.length_cons]
    congr 1
    omega

/-- The lexer finds a decomposition if there is one, and no other. -/
theorem lexFrom_eq_ok_iff : lexFrom start s = .ok tokens ↔ IsDecomposition start s tokens := by
  constructor
  · intro h
    induction s using lexing_induction generalizing start tokens with
    | nil =>
      rw [lexFrom] at h
      cases h
      exact isDecomposition_nil start
    | blank c tail hblank ih =>
      rw [lexFrom_blank hblank] at h
      exact (ih h).blank hblank
    | token kind text rest hlongest ih =>
      rw [lexFrom_of_isLongest hlongest] at h
      obtain ⟨later, hlater, rfl⟩ := map_eq_ok h
      exact (ih hlater).token hlongest
    | bad c tail hbad =>
      rw [lexFrom_of_startsBad hbad] at h
      contradiction
  · intro h
    induction tokens generalizing start s with
    | nil =>
      have hblanks := lexFrom_blanks h.eq_blanks [] start
      rw [List.append_nil] at hblanks
      rw [hblanks, lexFrom]
    | cons token later ih =>
      obtain ⟨gap, rest, rfl, hgap, hoffset, hlongest, hlater⟩ := h.of_cons
      rw [lexFrom_blanks hgap, lexFrom_of_isLongest hlongest, ih hlater, String.ofList_toList, ← hoffset]
      rfl

end

/-- The texts of the tokens with blanks between them. -/
inductive IsSpaced : List Token → List Char → Prop
  | nil : IsSpaced [] []
  | last (token : Token) : IsSpaced [token] token.text.toList
  | cons {token next : Token} {later : List Token} {gap rest : List Char} (hne : gap ≠ [])
    (hgap : ∀ c ∈ gap, Text.isBlank c) (hrest : IsSpaced (next :: later) rest) :
    IsSpaced (token :: next :: later) (token.text.toList ++ (gap ++ rest))

/-- Where a word would end every token is the longest. -/
theorem IsLexeme.isLongest {kind : Kind} {text rest : List Char} (h : IsLexeme kind text) (hrest : Stops rest) :
    IsLongest kind text rest := by
  cases h with
  | number h => exact isLongest_number_iff.mpr ⟨h, hrest.not_continues text⟩
  | identifier hstart htail => exact ⟨.identifier hstart htail, nofun, fun _ => hrest.isIdentifierPart⟩
  | sign hkind => exact isLongest_sign hkind rest

/-- Tokens with blanks between them are the tokens of their text. -/
theorem IsSpaced.lexFrom {tokens : List Token} {s : List Char} (h : IsSpaced tokens s)
    (hlexemes : ∀ token ∈ tokens, IsLexeme token.kind token.text.toList) (offset : Nat) :
    ∃ again, lexFrom offset s = .ok again ∧
      again.map (fun token => (token.kind, token.text)) = tokens.map (fun token => (token.kind, token.text)) := by
  induction h generalizing offset with
  | nil => exact ⟨[], by rw [Token.lexFrom], rfl⟩
  | last token =>
    have hlongest := (hlexemes token List.mem_cons_self).isLongest stops_nil
    have hlex := lexFrom_of_isLongest hlongest offset
    rw [List.append_nil, Token.lexFrom, String.ofList_toList] at hlex
    exact ⟨_, hlex, rfl⟩
  | @cons token next later gap rest hne hgap hrest ih =>
    obtain ⟨hfirst, hlater⟩ := List.forall_mem_cons.mp hlexemes
    obtain ⟨blank, blanks, rfl⟩ := List.exists_cons_of_ne_nil hne
    have hword : isWordChar blank = false := isWordChar_of_isBlank (hgap blank List.mem_cons_self)
    have hlongest := hfirst.isLongest (stops_cons hword (blanks ++ rest))
    obtain ⟨again, hagain, hwords⟩ := ih hlater (offset + token.text.toList.length + (blank :: blanks).length)
    refine ⟨⟨token.kind, token.text, offset⟩ :: again, ?_, ?_⟩
    · rw [List.cons_append, lexFrom_of_isLongest hlongest, ← List.cons_append, lexFrom_blanks hgap, hagain,
        String.ofList_toList]
      rfl
    · rw [List.map_cons, hwords]
      rfl

/-- The tokens of a text are the only way to cut it into longest tokens and blanks. With blanks between their texts
they are found again. -/
theorem isDecomposition_of_lex {text : String} {tokens : List Token} (h : lex text = .ok tokens) :
    IsDecomposition 0 text.toList tokens ∧ (∀ others, IsDecomposition 0 text.toList others → others = tokens) ∧
    ∀ spaced : String, IsSpaced tokens spaced.toList → ∃ again, lex spaced = .ok again ∧
      again.map (fun token => (token.kind, token.text)) = tokens.map (fun token => (token.kind, token.text)) := by
  have hdecomposition : IsDecomposition 0 text.toList tokens := lexFrom_eq_ok_iff.mp h
  refine ⟨hdecomposition, fun others hothers => ?_, fun spaced hspaced => ?_⟩
  · have hlex : lex text = .ok others := lexFrom_eq_ok_iff.mpr hothers
    rw [h] at hlex
    exact (Except.ok.inj hlex).symm
  · refine hspaced.lexFrom (fun token ht => ?_) 0
    obtain ⟨before, rest, -, -, hlongest⟩ := hdecomposition.longest token ht
    exact hlongest.lexeme

theorem isDecomposition_of_numbers_and_name :
    lex "1.2.3 a1(" = .ok [⟨.number, "1.2", 0⟩, ⟨.number, ".3", 3⟩, ⟨.identifier, "a1", 6⟩, ⟨.leftParen, "(", 8⟩] ∧
    IsDecomposition 0 "1.2.3 a1(".toList
      [⟨.number, "1.2", 0⟩, ⟨.number, ".3", 3⟩, ⟨.identifier, "a1", 6⟩, ⟨.leftParen, "(", 8⟩] ∧
    ∃ again, lex "1.2 .3 \ta1\n(" = .ok again ∧ again.map (fun token => (token.kind, token.text)) =
      [(.number, "1.2"), (.number, ".3"), (.identifier, "a1"), (.leftParen, "(")] := by
  have hparen : lexFrom 8 ['('] = .ok [⟨.leftParen, "(", 8⟩] := by
    rw [lexFrom_sign rfl rfl, lexFrom]
    rfl
  have hname : lexFrom 6 ['a', '1', '('] = .ok [⟨.identifier, "a1", 6⟩, ⟨.leftParen, "(", 8⟩] := by
    have hends : ∀ c ∈ ['('].head?, isIdentifierPart c = false := by
      rintro c ⟨⟩
      rfl
    have hword := @lexFrom_identifier 'a' ['1'] ['('] rfl (List.all_eq_true.mp rfl) hends 6
    exact hword.trans (congrArg _ hparen)
  have hpoint : lexFrom 3 ['.', '3', ' ', 'a', '1', '('] =
      .ok [⟨.number, ".3", 3⟩, ⟨.identifier, "a1", 6⟩, ⟨.leftParen, "(", 8⟩] := by
    have hnumber := @lexFrom_of_splitNumber? '.' ['3', ' ', 'a', '1', '('] ['.', '3'] [' ', 'a', '1', '('] rfl rfl 3
    exact hnumber.trans (congrArg _ ((lexFrom_blank rfl _ _).trans hname))
  have hlex : lex "1.2.3 a1(" =
      .ok [⟨.number, "1.2", 0⟩, ⟨.number, ".3", 3⟩, ⟨.identifier, "a1", 6⟩, ⟨.leftParen, "(", 8⟩] := by
    have hnumber := @lexFrom_of_splitNumber? '1' ['.', '2', '.', '3', ' ', 'a', '1', '('] ['1', '.', '2']
      ['.', '3', ' ', 'a', '1', '('] rfl rfl 0
    exact hnumber.trans (congrArg _ hpoint)
  have hspaced : IsSpaced
      [⟨.number, "1.2", 0⟩, ⟨.number, ".3", 3⟩, ⟨.identifier, "a1", 6⟩, ⟨.leftParen, "(", 8⟩]
      "1.2 .3 \ta1\n(".toList := by
    have hparen := IsSpaced.last ⟨.leftParen, "(", 8⟩
    have hname := @IsSpaced.cons ⟨.identifier, "a1", 6⟩ _ _ ['\n'] _ (by simp) (List.all_eq_true.mp rfl) hparen
    have hpoint := @IsSpaced.cons ⟨.number, ".3", 3⟩ _ _ [' ', '\t'] _ (by simp) (List.all_eq_true.mp rfl) hname
    exact @IsSpaced.cons ⟨.number, "1.2", 0⟩ _ _ [' '] _ (by simp) (List.all_eq_true.mp rfl) hpoint
  obtain ⟨hdecomposition, -, hagain⟩ := isDecomposition_of_lex hlex
  exact ⟨hlex, hdecomposition, hagain _ hspaced⟩

end SciCalc.Token
