import CriticalDamage.Formula.Reader

/-!
# The grammar of formulas

`IsTerm ts f` and `IsSum ts fs` derive a term and the terms of a sum from tokens. The reading
machine follows every derivation: over the tokens of a term it goes from a place where a term must
stand to the place after that term (`run_of_isTerm`), over those of a sum from the beginning of a
sum to the place after its last term (`run_of_isSum`), and it accepts a derived sum
(`ofTokens_of_isSum`).
-/

namespace CriticalDamage.Formula

open Dice (Scanned)

/-! ## Derivations -/

/-- The text of a tag, from its first token to its last. -/
def tagText : List Scanned → List Char
  | [] => []
  | t :: ts => t.text ++ ts.flatMap fun u => u.gap ++ u.text

/-- The tokens of a tag: the first begins as tags do, and none is a closing bracket. -/
structure IsTag (ts : List Scanned) : Prop where
  first : ts.head?.any (isTagText ·.text) = true
  inside : ∀ t ∈ ts, t.token ≠ .symbol .rightBracket

/-- The formula of a sum. A sum of one term is that term. -/
def ofTerms : List Formula → Formula
  | [f] => f
  | fs => .sum fs

mutual

/-- The tokens are dice, a number or a sum in parentheses, and tags after it. -/
inductive IsTerm : List Scanned → Formula → Prop where
  | dice {t : Scanned} {count sides : Count} {die : Die} : t.token = .dice count sides →
      Die.ofSides? sides.val = some die → IsTerm [t] (.dice count die)
  | number {t : Scanned} {n : Nat} : t.token = .number n → IsTerm [t] (.constant n)
  | group {t u : Scanned} {ts : List Scanned} {fs : List Formula} :
      t.token = .symbol .leftParen → IsSum ts fs → u.token = .symbol .rightParen →
      IsTerm (t :: (ts ++ [u])) (ofTerms fs)
  | tagged {t u : Scanned} {ts tag : List Scanned} {f : Formula} : IsTerm ts f →
      t.token = .symbol .leftBracket → IsTag tag → u.token = .symbol .rightBracket →
      IsTerm (ts ++ t :: (tag ++ [u])) (.tagged f (String.ofList (tagText tag)))

/-- The tokens are terms between signs, the first perhaps after a minus sign. -/
inductive IsSum : List Scanned → List Formula → Prop where
  | first {ts : List Scanned} {f : Formula} : IsTerm ts f → IsSum ts [f]
  | negated {t : Scanned} {ts : List Scanned} {f : Formula} : t.token = .symbol .minus →
      IsTerm ts f → IsSum (t :: ts) [.negate f]
  | plus {t : Scanned} {ts us : List Scanned} {fs : List Formula} {f : Formula} : IsSum ts fs →
      t.token = .symbol .plus → IsTerm us f → IsSum (ts ++ t :: us) (fs ++ [f])
  | minus {t : Scanned} {ts us : List Scanned} {fs : List Formula} {f : Formula} : IsSum ts fs →
      t.token = .symbol .minus → IsTerm us f → IsSum (ts ++ t :: us) (fs ++ [.negate f])

end

/-! ## The machine on derived tokens -/

theorem OpenSum.close_eq_ofTerms {s : OpenSum} {term : Formula} {fs : List Formula}
    (h : s.push term = fs.reverse) : s.close term = ofTerms fs := by
  rw [OpenSum.close, h]
  match fs with
  | [] => rfl
  | [f] => rfl
  | f :: g :: fs =>
    have hlen : (f :: g :: fs).reverse.length = fs.length + 2 := by simp
    rw [ofTerms]
    · split
      · next hf => rw [hf] at hlen; simp at hlen
      · simp
    · simp

section
variable {goal : Goal} {sum : OpenSum} {outer : List OpenSum} {rest : List Scanned}

/-- The machine collects the text of a tag. -/
theorem run_tag {term : Formula} {text : List Char} {ts : List Scanned} (htext : text ≠ [])
    (h : ∀ t ∈ ts, t.token ≠ .symbol .rightBracket) :
    run goal (.tag term text) sum outer (ts ++ rest) =
      run goal (.tag term (text ++ ts.flatMap fun u => u.gap ++ u.text)) sum outer rest := by
  induction ts generalizing text with
  | nil => simp
  | cons t ts ih =>
    have ht := h t List.mem_cons_self
    have hne : text.isEmpty = false := by simpa using htext
    rw [List.cons_append, run]
    simp only [if_neg ht, hne]
    rw [ih (by simp [htext]) fun u hu => h u (List.mem_cons_of_mem t hu)]
    simp

theorem IsTag.isTagText_tagText {tag : List Scanned} (h : IsTag tag) :
    isTagText (tagText tag) = true := by
  obtain ⟨hfirst, -⟩ := h
  cases tag with
  | nil => cases hfirst
  | cons v tag =>
    have hstart : isTagText v.text = true := hfirst
    cases hv : v.text with
    | nil => rw [hv] at hstart; cases hstart
    | cons c cs => rw [hv] at hstart; simpa [tagText, hv, isTagText] using hstart

/-- The machine stands inside a tag until its bracket is closed. -/
theorem run_openTag {term : Formula} {t : Scanned} {tag : List Scanned}
    (ht : t.token = .symbol .leftBracket) (h : IsTag tag) :
    run goal (.suffix term) sum outer (t :: (tag ++ rest)) =
      run goal (.tag term (tagText tag)) sum outer rest := by
  obtain ⟨hfirst, hinside⟩ := h
  cases tag with
  | nil => cases hfirst
  | cons v tag =>
    have hne : v.text ≠ [] := by
      rintro hv
      have hstart : isTagText v.text = true := hfirst
      rw [hv] at hstart
      cases hstart
    rw [run, ht]
    simp only [List.cons_append]
    rw [run]
    simp only [if_neg (hinside v List.mem_cons_self), List.isEmpty_nil, if_true]
    rw [run_tag hne fun w hw => hinside w (List.mem_cons_of_mem v hw), ← tagText]

theorem run_of_isTag {term : Formula} {t u : Scanned} {tag : List Scanned}
    (ht : t.token = .symbol .leftBracket) (h : IsTag tag) (hu : u.token = .symbol .rightBracket) :
    run goal (.suffix term) sum outer (t :: (tag ++ u :: rest)) =
      run goal (.suffix (.tagged term (String.ofList (tagText tag)))) sum outer rest := by
  rw [run_openTag ht h, run, if_pos hu, if_pos h.isTagText_tagText]

end

/-- The machine reads the tokens as a term, where a term must stand and where a sum begins. -/
def ReadsTerm (ts : List Scanned) (f : Formula) : Prop :=
  ∀ goal sum outer rest,
    run goal .operand sum outer (ts ++ rest) = run goal (.suffix f) sum outer rest ∧
      run goal .start sum outer (ts ++ rest) = run goal (.suffix f) sum outer rest

/-- The machine reads the tokens as a sum, up to the place after its last term. -/
def ReadsSum (ts : List Scanned) (fs : List Formula) : Prop :=
  ∀ goal outer rest, ∃ (sum : OpenSum) (term : Formula), sum.push term = fs.reverse ∧
    run goal .start .empty outer (ts ++ rest) = run goal (.suffix term) sum outer rest

theorem ReadsTerm.group {t u : Scanned} {ts : List Scanned} {fs : List Formula}
    (ht : t.token = .symbol .leftParen) (hs : ReadsSum ts fs)
    (hu : u.token = .symbol .rightParen) : ReadsTerm (t :: (ts ++ [u])) (ofTerms fs) := by
  intro goal sum outer rest
  obtain ⟨inner, term, hpush, hrun⟩ := hs goal (sum :: outer) (u :: rest)
  have hclose : run goal (.suffix term) inner (sum :: outer) (u :: rest) =
      run goal (.suffix (ofTerms fs)) sum outer rest := by
    rw [run, hu, ← OpenSum.close_eq_ofTerms hpush]
    rfl
  rw [hclose] at hrun
  simp [run, operand, ht, hrun]

theorem ReadsTerm.tagged {t u : Scanned} {ts tag : List Scanned} {f : Formula}
    (hf : ReadsTerm ts f) (ht : t.token = .symbol .leftBracket) (htag : IsTag tag)
    (hu : u.token = .symbol .rightBracket) :
    ReadsTerm (ts ++ t :: (tag ++ [u])) (.tagged f (String.ofList (tagText tag))) := by
  intro goal sum outer rest
  have hf := hf goal sum outer
  simp only [List.append_assoc, List.cons_append, List.nil_append, hf, run_of_isTag ht htag hu,
    and_self]

/-- After a sign the machine reads one more term. -/
theorem ReadsSum.signed {t : Scanned} {ts us : List Scanned} {fs : List Formula} {f : Formula}
    (hs : ReadsSum ts fs) (negative : Bool)
    (ht : t.token = .symbol (if negative then .minus else .plus)) (hf : ReadsTerm us f) :
    ReadsSum (ts ++ t :: us) (fs ++ [if negative then .negate f else f]) := by
  intro goal outer rest
  obtain ⟨sum, term, hpush, hrun⟩ := hs goal outer (t :: (us ++ rest))
  refine ⟨⟨sum.push term, negative⟩, f, by simp [OpenSum.push, ← hpush], ?_⟩
  rw [List.append_assoc, List.cons_append, hrun, run]
  cases negative <;> simp only [ht, if_true] <;> exact (hf goal _ outer rest).1

mutual

/-- A derived term is read. -/
theorem run_of_isTerm : ∀ {ts : List Scanned} {f : Formula}, IsTerm ts f → ReadsTerm ts f
  | _, _, .dice ht hd => fun _ _ _ _ => by simp [run, operand, ht, hd]
  | _, _, .number ht => fun _ _ _ _ => by simp [run, operand, ht]
  | _, _, .group ht hs hu => .group ht (run_of_isSum hs) hu
  | _, _, .tagged hf ht htag hu => (run_of_isTerm hf).tagged ht htag hu

/-- A derived sum is read. -/
theorem run_of_isSum : ∀ {ts : List Scanned} {fs : List Formula}, IsSum ts fs → ReadsSum ts fs
  | _, _, .first hf => fun goal outer rest =>
    ⟨.empty, _, rfl, (run_of_isTerm hf goal .empty outer rest).2⟩
  | _, _, .negated ht hf => fun goal outer rest =>
    ⟨⟨[], true⟩, _, rfl, by
      rw [List.cons_append, run, if_pos ht]
      exact (run_of_isTerm hf goal _ outer rest).1⟩
  | _, _, .plus hs ht hf => (run_of_isSum hs).signed false ht (run_of_isTerm hf)
  | _, _, .minus hs ht hf => (run_of_isSum hs).signed true ht (run_of_isTerm hf)

end

/-- A sum has a first term, and goes on term by term. -/
@[elab_as_elim]
theorem IsSum.induction {motive : ∀ ts fs, IsSum ts fs → Prop}
    (first : ∀ {ts f} (hf : IsTerm ts f), motive ts [f] (.first hf))
    (negated : ∀ {t ts f} (ht : t.token = .symbol .minus) (hf : IsTerm ts f),
      motive (t :: ts) [.negate f] (.negated ht hf))
    (plus : ∀ {t ts us fs f} (hs : IsSum ts fs) (ht : t.token = .symbol .plus) (hf : IsTerm us f),
      motive ts fs hs → motive (ts ++ t :: us) (fs ++ [f]) (.plus hs ht hf))
    (minus : ∀ {t ts us fs f} (hs : IsSum ts fs) (ht : t.token = .symbol .minus)
      (hf : IsTerm us f),
      motive ts fs hs → motive (ts ++ t :: us) (fs ++ [.negate f]) (.minus hs ht hf)) :
    ∀ {ts fs} (h : IsSum ts fs), motive ts fs h
  | _, _, .first hf => first hf
  | _, _, .negated ht hf => negated ht hf
  | _, _, .plus hs ht hf => plus hs ht hf (IsSum.induction first negated plus minus hs)
  | _, _, .minus hs ht hf => minus hs ht hf (IsSum.induction first negated plus minus hs)

/-- A derived sum is accepted. -/
theorem ofTokens_of_isSum {ts : List Scanned} {fs : List Formula} (h : IsSum ts fs) :
    ofTokens ts = .ok (ofTerms fs) := by
  obtain ⟨sum, term, hpush, hrun⟩ := run_of_isSum h .single [] []
  rw [List.append_nil] at hrun
  rw [ofTokens, hrun, run, OpenSum.close_eq_ofTerms hpush]

end CriticalDamage.Formula
