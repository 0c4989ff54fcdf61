import CriticalDamage.Proofs.Grammar
import CriticalDamage.Proofs.Lexemes

/-!
# Derivations of formulas

The reader accepts just the texts that the grammar derives. `Step` says what one token does to the
machine that reads formulas; a machine that accepts takes a step at every token (`exists_step`).
The tokens behind a machine are always a part of a derivation: those of the innermost open sum
(`Behind`) and those of the sums around it (`Around`). Every step goes on with that part
(`Step.behind`), so the tokens of a machine that accepts are derived (`isSum_of_run`). What the
reader takes for the text of a tag is what stands between its brackets (`covers_tagText`).
-/

namespace CriticalDamage.Formula

open Dice (Scanned Span)

/-! ## Steps of the machine -/

/-- A term may begin. -/
def Phase.AwaitsTerm (phase : Phase) : Prop := phase = .start ∨ phase = .operand

/-- What a token does to the phase, the innermost open sum and the sums around it, unless the
machine stops there or an element of a set ends. -/
inductive Step (t : Scanned) :
    Phase → OpenSum → List OpenSum → Phase → OpenSum → List OpenSum → Prop where
  | negative {s : OpenSum} {outer : List OpenSum} : t.token = .symbol .minus →
      Step t .start s outer .operand ⟨s.terms, true⟩ outer
  | term {phase : Phase} {s : OpenSum} {outer : List OpenSum} {f : Formula} : phase.AwaitsTerm →
      operand t.token = .ok (some f) → Step t phase s outer (.suffix f) s outer
  | enter {phase : Phase} {s : OpenSum} {outer : List OpenSum} : phase.AwaitsTerm →
      operand t.token = .ok none → Step t phase s outer .start .empty (s :: outer)
  | openTag {s : OpenSum} {outer : List OpenSum} {f : Formula} : t.token = .symbol .leftBracket →
      Step t (.suffix f) s outer (.tag f []) s outer
  | inTag {s : OpenSum} {outer : List OpenSum} {f : Formula} {text : List Char} :
      t.token ≠ .symbol .rightBracket → Step t (.tag f text) s outer
        (.tag f (if text.isEmpty then t.text else text ++ t.gap ++ t.text)) s outer
  | closeTag {s : OpenSum} {outer : List OpenSum} {f : Formula} {text : List Char} :
      t.token = .symbol .rightBracket → isTagText text = true →
      Step t (.tag f text) s outer (.suffix (.tagged f (String.ofList text))) s outer
  | sign {s : OpenSum} {outer : List OpenSum} {f : Formula} (negative : Bool) :
      t.token = .symbol (if negative then .minus else .plus) →
      Step t (.suffix f) s outer .operand ⟨s.push f, negative⟩ outer
  | leave {s around : OpenSum} {outer : List OpenSum} {f : Formula} :
      t.token = .symbol .rightParen →
      Step t (.suffix f) s (around :: outer) (.suffix (s.close f)) around outer

theorem ne_minus_of_operand {t : Dice.Token} {found : Option Formula}
    (h : operand t = .ok found) : t ≠ .symbol .minus := by
  rintro rfl
  cases h

section
variable {phase phase' : Phase} {s s' : OpenSum} {outer outer' : List OpenSum} {t : Scanned}

/-- A step does not depend on what is being read. -/
theorem Step.run_cons (h : Step t phase s outer phase' s' outer') (goal : Goal)
    (ts : List Scanned) : run goal phase s outer (t :: ts) = run goal phase' s' outer' ts := by
  cases h with
  | negative ht => simp only [run, ht, if_true]
  | term hphase ht | enter hphase ht =>
    rcases hphase with rfl | rfl
    · simp only [run, if_neg (ne_minus_of_operand ht), ht]
    · simp only [run, ht]
  | openTag ht => simp only [run, ht]
  | inTag ht => simp only [run, if_neg ht]
  | closeTag ht htext => simp only [run, ht, htext, if_true]
  | sign negative ht =>
    cases negative with
    | false =>
      have ht : t.token = .symbol .plus := ht
      simp only [run, ht]
    | true =>
      have ht : t.token = .symbol .minus := ht
      simp only [run, ht]
  | leave ht => simp [run, ht]

theorem exists_step_of_operand {ts : List Scanned} {fs : List Formula}
    (hphase : phase.AwaitsTerm) (hminus : phase = .start → t.token ≠ .symbol .minus)
    (h : run .single phase s outer (t :: ts) = .ok fs) :
    ∃ phase' s' outer', Step t phase s outer phase' s' outer' := by
  cases ht : operand t.token with
  | error e =>
    rcases hphase with rfl | rfl
    · simp only [run, if_neg (hminus rfl), ht] at h
      cases h
    · simp only [run, ht] at h
      cases h
  | ok found =>
    cases found with
    | none => exact ⟨_, _, _, .enter hphase ht⟩
    | some f => exact ⟨_, _, _, .term hphase ht⟩

/-- A machine that accepts a formula takes a step at every token. -/
theorem exists_step {ts : List Scanned} {fs : List Formula}
    (h : run .single phase s outer (t :: ts) = .ok fs) :
    ∃ phase' s' outer', Step t phase s outer phase' s' outer' := by
  cases phase with
  | start =>
    by_cases hminus : t.token = .symbol .minus
    · exact ⟨_, _, _, .negative hminus⟩
    · exact exists_step_of_operand (.inl rfl) (fun _ => hminus) h
  | operand => exact exists_step_of_operand (.inr rfl) nofun h
  | tag f text =>
    by_cases hclose : t.token = .symbol .rightBracket
    · by_cases htext : isTagText text = true
      · exact ⟨_, _, _, .closeTag hclose htext⟩
      · simp only [run, if_pos hclose, if_neg htext] at h
        cases h
    · exact ⟨_, _, _, .inTag hclose⟩
  | closed set => cases h
  | suffix f =>
    by_cases hbracket : t.token = .symbol .leftBracket
    · exact ⟨_, _, _, .openTag hbracket⟩
    · by_cases hplus : t.token = .symbol .plus
      · exact ⟨_, _, _, .sign false hplus⟩
      · by_cases hminus : t.token = .symbol .minus
        · exact ⟨_, _, _, .sign true hminus⟩
        · cases outer with
          | nil => simp [run] at h
          | cons around outer =>
            by_cases hparen : t.token = .symbol .rightParen
            · exact ⟨_, _, _, .leave hparen⟩
            · simp [run, hparen] at h

end

/-! ## Tokens behind the machine -/

/-- The tokens of an open sum, up to where its next term begins. -/
inductive Opens : List Scanned → OpenSum → Prop where
  | empty : Opens [] .empty
  | negative {t : Scanned} : t.token = .symbol .minus → Opens [t] ⟨[], true⟩
  | sign {ts : List Scanned} {fs : List Formula} {t : Scanned} (negative : Bool) : IsSum ts fs →
      t.token = .symbol (if negative then .minus else .plus) →
      Opens (ts ++ [t]) ⟨fs.reverse, negative⟩

/-- The tokens of an open sum, up to where the machine stands. -/
inductive Behind : List Scanned → Phase → OpenSum → Prop where
  | start : Behind [] .start .empty
  | operand {us : List Scanned} {s : OpenSum} : Opens us s → Behind us .operand s
  | suffix {us ts : List Scanned} {s : OpenSum} {f : Formula} : Opens us s → IsTerm ts f →
      Behind (us ++ ts) (.suffix f) s
  | tag {us ts tag : List Scanned} {t : Scanned} {s : OpenSum} {f : Formula} : Opens us s →
      IsTerm ts f → t.token = .symbol .leftBracket →
      (∀ u ∈ tag, u.text ≠ [] ∧ u.token ≠ .symbol .rightBracket) →
      Behind (us ++ ts ++ t :: tag) (.tag f (tagText tag)) s

/-- The tokens of the sums around, each with the parenthesis that its next term begins with. -/
inductive Around : List Scanned → List OpenSum → Prop where
  | nil : Around [] []
  | cons {vs us : List Scanned} {t : Scanned} {s : OpenSum} {outer : List OpenSum} :
      Around vs outer → Opens us s → t.token = .symbol .leftParen →
      Around (vs ++ us ++ [t]) (s :: outer)

section
variable {t : Scanned} {ts us tag : List Scanned} {f : Formula} {s : OpenSum}

theorem OpenSum.close_eq (s : OpenSum) (f : Formula) : s.close f = ofTerms (s.push f).reverse :=
  close_eq_ofTerms (List.reverse_reverse _).symm

/-- With a term more, the tokens of an open sum are a sum. -/
theorem Opens.isSum_append (h : Opens us s) (hf : IsTerm ts f) :
    IsSum (us ++ ts) (s.push f).reverse := by
  cases h with
  | empty => exact .first hf
  | negative ht => exact .negated ht hf
  | sign negative hs ht =>
    rw [List.append_assoc]
    cases negative with
    | false => simpa [OpenSum.push] using IsSum.plus hs ht hf
    | true => simpa [OpenSum.push] using IsSum.minus hs ht hf

theorem Behind.opens {phase : Phase} (h : Behind us phase s) (hphase : phase.AwaitsTerm) :
    Opens us s := by
  cases h with
  | start => exact .empty
  | operand hopens => exact hopens
  | suffix | tag => rcases hphase with h | h <;> cases h

theorem isTerm_of_operand (h : operand t.token = .ok (some f)) : IsTerm [t] f := by
  unfold operand at h
  split at h
  · next count sides ht =>
    split at h
    · next die hdie =>
      cases h
      exact .dice ht hdie
    · cases h
  · next n ht =>
    cases h
    exact .number ht
  · cases h
  · cases h

theorem leftParen_of_operand {t : Dice.Token} (h : operand t = .ok none) :
    t = .symbol .leftParen := by
  unfold operand at h
  split at h
  · split at h <;> cases h
  · cases h
  · rfl
  · cases h

theorem tagText_concat (h : ∀ u ∈ tag, u.text ≠ []) (t : Scanned) :
    tagText (tag ++ [t]) =
      if (tagText tag).isEmpty then t.text else tagText tag ++ t.gap ++ t.text := by
  cases tag with
  | nil => exact List.append_nil _
  | cons u tag =>
    have hne : (tagText (u :: tag)).isEmpty = false := by
      simpa [tagText] using fun hu => absurd hu (h u List.mem_cons_self)
    rw [hne]
    simp [tagText]

/-- A tag begins as its first token does. -/
theorem isTag_iff (htext : ∀ u ∈ tag, u.text ≠ []) :
    IsTag tag ↔ isTagText (tagText tag) = true ∧ ∀ u ∈ tag, u.token ≠ .symbol .rightBracket := by
  have hfirst : isTagText (tagText tag) = tag.head?.any (isTagText ·.text) := by
    cases tag with
    | nil => rfl
    | cons u tag =>
      cases hu : u.text with
      | nil => exact absurd hu (htext u List.mem_cons_self)
      | cons c cs => simp [tagText, isTagText, hu]
  rw [hfirst]
  exact ⟨fun h => ⟨h.first, h.inside⟩, fun h => ⟨h.1, h.2⟩⟩

end

/-- A step goes on with the tokens behind the machine. -/
theorem Step.behind {t : Scanned} {phase phase' : Phase} {s s' : OpenSum}
    {outer outer' : List OpenSum} {us vs : List Scanned}
    (h : Step t phase s outer phase' s' outer') (htext : t.text ≠ [])
    (hbehind : Behind us phase s) (haround : Around vs outer) :
    ∃ us' vs', vs ++ us ++ [t] = vs' ++ us' ∧ Behind us' phase' s' ∧ Around vs' outer' := by
  -- Only a parenthesis moves tokens between the innermost sum and those around it.
  cases h with
  | negative ht =>
    cases hbehind
    exact ⟨[t], vs, by simp, .operand (.negative ht), haround⟩
  | term hphase ht =>
    exact ⟨us ++ [t], vs, by simp, .suffix (hbehind.opens hphase) (isTerm_of_operand ht), haround⟩
  | enter hphase ht =>
    refine ⟨[], vs ++ us ++ [t], by simp, .start, ?_⟩
    exact .cons haround (hbehind.opens hphase) (leftParen_of_operand ht)
  | openTag ht =>
    cases hbehind with
    | @suffix us ts _ _ hopens hf =>
      exact ⟨us ++ ts ++ [t], vs, by simp, .tag hopens hf ht nofun, haround⟩
  | inTag ht =>
    cases hbehind with
    | @tag us ts tag u _ _ hopens hf hu htag =>
      refine ⟨us ++ ts ++ u :: (tag ++ [t]), vs, by simp, ?_, haround⟩
      rw [← tagText_concat fun w hw => (htag w hw).1]
      refine .tag hopens hf hu fun w hw => ?_
      rcases List.mem_append.mp hw with hw | hw
      · exact htag w hw
      · rw [List.mem_singleton.mp hw]
        exact ⟨htext, ht⟩
  | closeTag ht hstart =>
    cases hbehind with
    | @tag us ts tag u _ _ hopens hf hu htag =>
      have hmore : IsTag tag :=
        (isTag_iff fun w hw => (htag w hw).1).mpr ⟨hstart, fun w hw => (htag w hw).2⟩
      refine ⟨us ++ (ts ++ u :: (tag ++ [t])), vs, by simp, ?_, haround⟩
      exact .suffix hopens (.tagged hf hu hmore ht)
  | sign negative ht =>
    cases hbehind with
    | @suffix us ts _ _ hopens hf =>
      refine ⟨us ++ ts ++ [t], vs, by simp, .operand ?_, haround⟩
      have hsign := Opens.sign negative (hopens.isSum_append hf) ht
      rwa [List.reverse_reverse] at hsign
  | leave ht =>
    cases hbehind with
    | @suffix us ts _ _ hopens hf =>
      cases haround with
      | @cons vs ws u _ _ haround haroundOpens hu =>
        refine ⟨ws ++ u :: (us ++ ts ++ [t]), vs, by simp, ?_, haround⟩
        rw [OpenSum.close_eq]
        exact .suffix haroundOpens (.group hu (hopens.isSum_append hf) ht)

/-- The tokens of a machine that accepts are derived: those behind it and those that follow. -/
theorem isSum_of_run {us vs ts : List Scanned} {phase : Phase} {s : OpenSum}
    {outer : List OpenSum} {fs : List Formula} (htext : ∀ t ∈ ts, t.text ≠ [])
    (hbehind : Behind us phase s) (haround : Around vs outer)
    (h : run .single phase s outer ts = .ok fs) :
    ∃ gs, IsSum (vs ++ us ++ ts) gs ∧ fs = [ofTerms gs] := by
  induction ts generalizing us vs phase s outer with
  | nil =>
    cases hbehind with
    | start => cases h
    | operand => cases h
    | tag =>
      rw [run] at h
      split at h <;> cases h
    | @suffix us ts _ _ hopens hf =>
      cases haround with
      | cons => cases h
      | nil =>
        rw [run, OpenSum.close_eq] at h
        cases h
        refine ⟨_, ?_, rfl⟩
        rw [List.nil_append, List.append_nil]
        exact hopens.isSum_append hf
  | cons t ts ih =>
    obtain ⟨phase', s', outer', hstep⟩ := exists_step h
    obtain ⟨us', vs', htokens, hbehind', haround'⟩ :=
      hstep.behind (htext t List.mem_cons_self) hbehind haround
    rw [hstep.run_cons] at h
    obtain ⟨gs, hgs, hfs⟩ := ih (fun u hu => htext u (.tail t hu)) hbehind' haround' h
    refine ⟨gs, ?_, hfs⟩
    rwa [← htokens, List.append_assoc, List.singleton_append] at hgs

/-! ## Reading a text -/

/-- The tokens derive the formula. -/
def Derives (ts : List Scanned) (f : Formula) : Prop := ∃ fs, IsSum ts fs ∧ ofTerms fs = f

theorem Derives.unique {ts : List Scanned} {f g : Formula} (hf : Derives ts f)
    (hg : Derives ts g) : f = g := by
  obtain ⟨fs, hfs, rfl⟩ := hf
  obtain ⟨gs, hgs, rfl⟩ := hg
  exact Except.ok.inj ((ofTokens_of_isSum hfs).symm.trans (ofTokens_of_isSum hgs))

theorem ofTokens_eq_ok_iff {ts : List Scanned} (htext : ∀ t ∈ ts, t.text ≠ []) {f : Formula} :
    ofTokens ts = .ok f ↔ Derives ts f := by
  constructor
  · intro h
    rw [ofTokens] at h
    split at h
    · next g hrun =>
      cases h
      obtain ⟨gs, hgs, hfs⟩ := isSum_of_run htext .start .nil hrun
      exact ⟨gs, hgs, (List.singleton_inj.mp hfs).symm⟩
    · cases h
    · cases h
  · rintro ⟨fs, hfs, rfl⟩
    exact ofTokens_of_isSum hfs

theorem readChars_of_faults {cs : List Char} (h : Dice.faults cs = []) :
    readChars cs = ofTokens (Dice.tokens cs) := by
  rw [readChars, scan, Dice.scan_eq_tokens h]
  rfl

theorem faults_of_readChars {cs : List Char} {f : Formula} (h : readChars cs = .ok f) :
    Dice.faults cs = [] := by
  by_contra hne
  obtain ⟨e, he⟩ := Dice.scan_of_faults_ne_nil hne
  rw [readChars, scan, he] at h
  cases h

theorem read_eq_ok_iff {source : String} {f : Formula} :
    read source = .ok f ↔ readChars source.toList = .ok f := by
  rw [read]
  cases readChars source.toList <;> simp [Except.mapError]

theorem readChars_eq_ok_iff_derives {cs : List Char} {f : Formula} :
    readChars cs = .ok f ↔ Dice.faults cs = [] ∧ Derives (Dice.tokens cs) f := by
  constructor
  · intro h
    have hfaults := faults_of_readChars h
    rw [readChars_of_faults hfaults] at h
    exact ⟨hfaults, (ofTokens_eq_ok_iff fun t => Dice.ne_nil_of_mem_tokens hfaults).mp h⟩
  · rintro ⟨hfaults, h⟩
    rw [readChars_of_faults hfaults]
    exact (ofTokens_eq_ok_iff fun t => Dice.ne_nil_of_mem_tokens hfaults).mpr h

/-- A parenthesis that is never closed. -/
theorem ofTokens_of_unclosed {t : Scanned} {ts : List Scanned} {fs : List Formula}
    (ht : t.token = .symbol .leftParen) (h : IsSum ts fs) :
    ofTokens (t :: ts) = .error (.expectedAtEnd .rightParen) := by
  obtain ⟨s, f, -, hrun⟩ := run_of_isSum h .single [.empty] []
  have henter : Step t .start .empty [] .start .empty [.empty] :=
    .enter (.inl rfl) (by rw [ht, operand])
  rw [List.append_nil] at hrun
  rw [ofTokens, henter.run_cons, hrun]
  rfl

/-- A bracket that is never closed. -/
theorem ofTokens_of_unclosedTag {t : Scanned} {ts tag : List Scanned} {fs : List Formula}
    (h : IsSum ts fs) (ht : t.token = .symbol .leftBracket) (htag : IsTag tag) :
    ofTokens (ts ++ t :: tag) = .error (.expectedAtEnd .rightBracket) := by
  obtain ⟨s, f, -, hrun⟩ := run_of_isSum h .single [] (t :: tag)
  have hopen : run .single (.suffix f) s [] (t :: (tag ++ [])) =
      run .single (.tag f (tagText tag)) s [] [] := run_openTag ht htag
  rw [List.append_nil] at hopen
  rw [ofTokens, hrun, hopen, run, if_pos htag.isTagText_tagText]

/-- The text of a tag is the stretch of the source from its first token to its last. -/
theorem covers_tagText {cs : List Char} {before tag after : List Scanned} {first last : Scanned}
    (hfaults : Dice.faults cs = []) (htokens : Dice.tokens cs = before ++ tag ++ after)
    (hfirst : tag.head? = some first) (hlast : tag.getLast? = some last) :
    Span.Covers ⟨first.span.start, last.span.stop⟩ cs (tagText tag) := by
  obtain ⟨hplaced, gap, hcs⟩ := Dice.placed_tokens hfaults
  rw [htokens] at hplaced hcs
  obtain ⟨ts, rfl⟩ := List.head?_eq_some_iff.mp hfirst
  obtain ⟨init, hinit⟩ := List.getLast?_eq_some_iff.mp hlast
  have hsource : Dice.sourceText (first :: ts) = first.gap ++ tagText (first :: ts) := by
    rw [Dice.sourceText, List.flatMap_cons, tagText, List.append_assoc]
  have hstart : first.span.start = Dice.byteLength (Dice.sourceText before ++ first.gap) := by
    rw [List.append_assoc] at hplaced
    rw [hplaced.span_eq]
    exact Nat.zero_add _
  have hstop : last.span.stop = Dice.byteLength (Dice.sourceText (before ++ first :: ts)) := by
    rw [hinit, ← List.append_assoc, List.append_assoc] at hplaced
    rw [hplaced.span_eq, hinit, ← List.append_assoc]
    exact Nat.zero_add _
  refine ⟨Dice.sourceText before ++ first.gap, Dice.sourceText after ++ gap, ?_, hstart.symm, ?_⟩
  · rw [hcs, Dice.sourceText_append, Dice.sourceText_append, hsource]
    simp only [List.append_assoc]
  · rw [hstop, Dice.sourceText_append, hsource, List.append_assoc]

theorem read_eq_error {source : String} {reason : Reason}
    (hfaults : Dice.faults source.toList = [])
    (h : ofTokens (Dice.tokens source.toList) = .error reason) :
    read source = .error ⟨source, reason⟩ := by
  rw [read, readChars_of_faults hfaults, h]
  rfl

/-- The reader accepts just the texts without faults whose tokens derive a formula, and no tokens
derive two. Some tokens are a tag just when none is a closing bracket and the stretch of the text
from the first to the last begins as tags do. Every text is read or refused, also one in which a
parenthesis or a bracket is never closed. -/
theorem read_eq_ok_iff_derives :
    (∀ source f, read source = .ok f ↔
      Dice.faults source.toList = [] ∧ Derives (Dice.tokens source.toList) f) ∧
    (∀ ts f g, Derives ts f → Derives ts g → f = g) ∧
    (∀ (source : String) before tag after first last, Dice.faults source.toList = [] →
      Dice.tokens source.toList = before ++ tag ++ after → tag.head? = some first →
      tag.getLast? = some last →
        Span.Covers ⟨first.span.start, last.span.stop⟩ source.toList (tagText tag) ∧
        (IsTag tag ↔
          isTagText (tagText tag) = true ∧ ∀ t ∈ tag, t.token ≠ .symbol .rightBracket)) ∧
    (∀ source, (∃ f, read source = .ok f) ∨ ∃ reason, read source = .error ⟨source, reason⟩) ∧
    (∀ (source : String) t ts fs, Dice.faults source.toList = [] →
      Dice.tokens source.toList = t :: ts → t.token = .symbol .leftParen → IsSum ts fs →
        read source = .error ⟨source, .expectedAtEnd .rightParen⟩) ∧
    ∀ (source : String) ts t tag fs, Dice.faults source.toList = [] →
      Dice.tokens source.toList = ts ++ t :: tag → IsSum ts fs →
      t.token = .symbol .leftBracket → IsTag tag →
        read source = .error ⟨source, .expectedAtEnd .rightBracket⟩ := by
  refine ⟨?_, ?_, ?_, ?_, ?_, ?_⟩
  · intro source f
    exact read_eq_ok_iff.trans readChars_eq_ok_iff_derives
  · intro ts f g hf hg
    exact hf.unique hg
  · intro source before tag after first last hfaults htokens hfirst hlast
    refine ⟨covers_tagText hfaults htokens hfirst hlast, isTag_iff fun t ht => ?_⟩
    apply Dice.ne_nil_of_mem_tokens hfaults
    rw [htokens]
    exact List.mem_append_left after (List.mem_append_right before ht)
  · intro source
    rw [read]
    cases readChars source.toList with
    | ok f => exact .inl ⟨f, rfl⟩
    | error reason => exact .inr ⟨reason, rfl⟩
  · intro source t ts fs hfaults htokens ht hs
    exact read_eq_error hfaults (htokens ▸ ofTokens_of_unclosed ht hs)
  · intro source ts t tag fs hfaults htokens hs ht htag
    exact read_eq_error hfaults (htokens ▸ ofTokens_of_unclosedTag hs ht htag)

/-- A formula with a tag of two tokens, and two that end too early. -/
theorem read_eq_ok_iff_derives_tiered :
    (∃! f, Derives (Dice.tokens "1d6[tier-2]".toList) f) ∧
    Span.Covers ⟨4, 10⟩ "1d6[tier-2]".toList "tier-2".toList ∧
    read "(1d6" = .error ⟨"(1d6", .expectedAtEnd .rightParen⟩ ∧
    read "1d6[fire" = .error ⟨"1d6[fire", .expectedAtEnd .rightBracket⟩ := by
  obtain ⟨hread, hunique, htag, hends, hparen, hbracket⟩ := read_eq_ok_iff_derives
  let dice (start : Nat) : Scanned :=
    ⟨[], "1d6".toList, ⟨start, start + 3⟩, .dice ⟨1, by decide⟩ ⟨6, by decide⟩⟩
  have hdice : ∀ start, IsSum [dice start] [.dice ⟨1, by decide⟩ ⟨6, by decide, by decide⟩] :=
    fun start => .first (.dice rfl rfl)
  let leftParen : Scanned := ⟨[], ['('], ⟨0, 1⟩, .symbol .leftParen⟩
  let leftBracket : Scanned := ⟨[], ['['], ⟨3, 4⟩, .symbol .leftBracket⟩
  let tier : Scanned := ⟨[], "tier-".toList, ⟨4, 9⟩, .word "tier-".toList⟩
  let two : Scanned := ⟨[], ['2'], ⟨9, 10⟩, .number 2⟩
  let rightBracket : Scanned := ⟨[], [']'], ⟨10, 11⟩, .symbol .rightBracket⟩
  let fire : Scanned := ⟨[], "fire".toList, ⟨4, 8⟩, .word "fire".toList⟩
  have hfire : IsTag [fire] := ⟨by decide, by decide⟩
  refine ⟨?_, ?_, ?_, ?_⟩
  · rcases hends "1d6[tier-2]" with ⟨f, hf⟩ | ⟨reason, hreason⟩
    · have hderives := ((hread _ f).mp hf).2
      exact ⟨f, hderives, fun g hg => hunique _ g f hg hderives⟩
    · have hok : (read "1d6[tier-2]").isOk = true := by decide +kernel
      rw [hreason] at hok
      cases hok
  · exact (htag "1d6[tier-2]" [dice 0, leftBracket] [tier, two] [rightBracket] tier two
      (by decide +kernel) (by decide +kernel) rfl rfl).1
  · exact hparen "(1d6" leftParen [dice 1] _ (by decide +kernel) (by decide +kernel) rfl (hdice 1)
  · exact hbracket "1d6[fire" [dice 0] leftBracket [fire] _ (by decide +kernel)
      (by decide +kernel) (hdice 0) rfl hfire

end CriticalDamage.Formula
