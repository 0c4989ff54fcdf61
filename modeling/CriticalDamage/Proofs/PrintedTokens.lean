import CriticalDamage.Proofs.Tiling

/-!
# Printed tokens

The tokens of a text can be printed and read again. A printed token is a text of its own kind
(`Token.admits_chars`), so it is one lexeme, and a space ends every lexeme: the lexemes of tokens
that stand with single spaces between them are the printed tokens (`map_text_lexemes_spaced`). The
tokens of a text are in range and their words are formed (`isReadable_of_mem_tokens`), so what is
read is the tokens that were printed (`tokens_printed`).
-/

namespace CriticalDamage.Dice

/-- Tokens as a text, with a single space between every two. -/
def printed (ts : List Token) : String := " ".intercalate (ts.map Token.text)

theorem toList_printed (ts : List Token) :
    (printed ts).toList = [' '].intercalate (ts.map Token.chars) := by
  rw [printed, String.toList_intercalate, List.map_map]
  exact congrArg _ (List.map_congr_left fun t _ => String.toList_ofList)

/-! ## Tokens of a text -/

theorem Token.admits_chars {t : Token} (h : t.IsFormed) : t.kind.Admits t.chars := by
  cases t with
  | dice count sides =>
    exact .dice (isDigit_natural _) (by decide) (Decimal.natural_ne_nil _) (isDigit_natural _)
  | number n => exact .number (Decimal.natural_ne_nil n) (isDigit_natural n)
  | word cs =>
    obtain ⟨c, rest, rfl, hc, hrest⟩ := h
    exact .word hc hrest
  | symbol s => exact .symbol s

/-- A token that has been read from a text of its kind can be read. -/
theorem TokenKind.Admits.isReadable {text : List Char} {t : Token} (h : t.kind.Admits text)
    (ht : Token.ofText text = .ok t) : t.IsReadable := by
  cases t with
  | dice => trivial
  | number n =>
    cases h with
    | number hne hdigits =>
      rw [Token.ofText_number hne hdigits] at ht
      split at ht
      · next hlt => cases ht; exact hlt
      · cases ht
  | word cs =>
    cases h with
    | @word c rest hc hrest =>
      have hformed : (Token.word (c :: rest)).IsReadable := ⟨c, rest, rfl, hc, hrest⟩
      have hread := Token.ofText_chars hformed
      cases hread.symm.trans ht
      exact hformed
  | symbol => trivial

theorem isReadable_of_mem_tokens {cs : List Char} {t : Scanned} (h : t ∈ tokens cs) :
    t.token.IsReadable := by
  obtain ⟨gap, text, rest, -, hreading⟩ := exists_cuts_of_mem_read (mem_tokens_iff.mp h)
  obtain ⟨-, hlongest, htext⟩ := hreading.of_ok
  exact hlongest.admitted.isReadable htext

theorem Token.IsReadable.isFormed {t : Token} (h : t.IsReadable) : t.IsFormed := by
  cases t with
  | word => exact h
  | _ => trivial

/-! ## Lexemes between spaces -/

theorem Token.endsBefore_space (t : Token) : t.endsBefore ' ' = true := by
  cases t <;> rfl

/-- A gap before a text changes no lexeme but the gap of the first. -/
theorem map_text_lexemes_cons {b : Char} (hb : isGap b = true) (cs : List Char) :
    (lexemes (b :: cs)).map (·.text) = (lexemes cs).map (·.text) := by
  cases cs using lexemes_induction with
  | gap g hg => rw [lexemes_of_isGap hg, lexemes_of_isGap (List.forall_mem_cons.mpr ⟨hb, hg⟩)]
  | lexeme g c rest hg hc _ =>
    have hbg : ∀ x ∈ b :: g, isGap x = true := List.forall_mem_cons.mpr ⟨hb, hg⟩
    rw [lexemes_gap_append hg hc, ← List.cons_append, lexemes_gap_append hbg hc, List.map_cons,
      List.map_cons]

theorem map_text_lexemes_spaced {ts : List Token} (h : ∀ t ∈ ts, t.IsFormed) :
    (lexemes ([' '].intercalate (ts.map Token.chars))).map (·.text) = ts.map Token.chars := by
  induction ts with
  | nil => rw [List.map_nil, List.intercalate_nil, lexemes_nil, List.map_nil]
  | cons t ts ih =>
    obtain ⟨ht, hts⟩ := List.forall_mem_cons.mp h
    cases ts with
    | nil =>
      rw [List.map_singleton, List.intercalate_singleton, (Token.admits_chars ht).lexemes_eq,
        List.map_singleton]
    | cons u ts =>
      have hrest := ih hts
      rw [List.map_cons] at hrest
      rw [List.map_cons, List.map_cons, List.intercalate_cons_cons, List.append_assoc,
        List.singleton_append, lexemes_chars_append ht _ t.endsBefore_space, List.map_cons,
        map_text_lexemes_cons (by decide), hrest]

/-- A text whose lexemes are printed tokens has these tokens and no faults. -/
theorem tokens_of_map_text {cs : List Char} {ts : List Token} (h : ∀ t ∈ ts, t.IsReadable)
    (htexts : (lexemes cs).map (·.text) = ts.map Token.chars) :
    faults cs = [] ∧ (tokens cs).map (·.token) = ts := by
  have hfaults : faults cs = [] := by
    refine faults_eq_nil_iff.mpr fun l hl => ?_
    have hmem : l.text ∈ ts.map Token.chars := htexts ▸ List.mem_map_of_mem hl
    obtain ⟨t, ht, htext⟩ := List.mem_map.mp hmem
    exact ⟨t, htext ▸ Token.ofText_chars (h t ht)⟩
  exact ⟨hfaults, map_token_of_texts (spells_tokens hfaults) h htexts⟩

/-- The tokens of a text, printed with single spaces between them, are read as the same tokens and
without faults, whether or not the text itself had faults. -/
theorem tokens_printed (source : String) :
    faults (printed ((tokens source.toList).map (·.token))).toList = [] ∧
    (tokens (printed ((tokens source.toList).map (·.token))).toList).map (·.token) =
      (tokens source.toList).map (·.token) := by
  have hreadable : ∀ t ∈ (tokens source.toList).map (·.token), t.IsReadable :=
    List.forall_mem_map.mpr fun _ => isReadable_of_mem_tokens
  apply tokens_of_map_text hreadable
  rw [toList_printed]
  exact map_text_lexemes_spaced fun t ht => (hreadable t ht).isFormed

end CriticalDamage.Dice
