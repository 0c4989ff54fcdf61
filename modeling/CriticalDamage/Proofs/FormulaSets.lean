import CriticalDamage.Critical.Assembly
import CriticalDamage.Proofs.Conservation
import CriticalDamage.Proofs.Derivations
import Mathlib

/-!
# Sets of formulas

A set between braces is read as its elements are read one by one. Its lexemes are those of the
elements with the braces and commas between them (`faults_setChars_iff`), whatever the tags of the
elements hold. A machine that accepts the tokens of one formula stands after their last term when
they are over, whatever it is reading for (`exists_suffix_of_run`), so it takes the comma or the
brace that follows for the end of an element (`readSetChars_setChars`). The expressions of an
assembly hold no commas, and those that are not read have faults: its combined set is an
unambiguous encoding of its parts (`combined_encodes`).
-/

namespace CriticalDamage

open Dice (Lexeme Scanned Token)

theorem exists_forall₂_iff {α β : Type} {R : α → β → Prop} {l : List α} :
    (∃ m, List.Forall₂ R l m) ↔ ∀ a ∈ l, ∃ b, R a b := by
  induction l with
  | nil => exact iff_of_true ⟨[], .nil⟩ nofun
  | cons a l ih =>
    rw [List.forall_mem_cons, ← ih]
    constructor
    · rintro ⟨_, h⟩
      cases h with
      | cons ha hl => exact ⟨⟨_, ha⟩, _, hl⟩
    · rintro ⟨⟨b, hb⟩, m, hm⟩
      exact ⟨b :: m, .cons hb hm⟩

/-- The text of a set with the given elements. -/
def setChars (elements : List (List Char)) : List Char :=
  '\x7b' :: ([','].intercalate elements ++ ['\x7d'])

/-! ## Lexemes of a set -/

namespace Dice

/-- A symbol that stands in no word ends the lexeme before it. -/
theorem lexemes_append_symbol (cs : List Char) {s : Symbol} (hs : s ≠ .minus) (r : List Char) :
    lexemes (cs ++ s.char :: r) =
      lexemes cs ++ ⟨cs.rtakeWhile isGap, [s.char]⟩ :: lexemes r := by
  have hdigit : s.char.isDigit = false := by cases s <;> decide
  have hword : isWordPart s.char = false := by cases s <;> first | decide | exact absurd rfl hs
  have hgap : isGap s.char = false := by cases s <;> decide
  have hsplit : splitAfter s.char r = ([], r) := by cases s <;> rfl
  have htrail : ∀ x ∈ cs.rtakeWhile isGap, isGap x = true := by
    intro x hx
    rw [List.rtakeWhile, List.mem_reverse] at hx
    exact List.mem_takeWhile_imp hx
  rw [lexemes_append cs r hdigit hword, lexemes_gap_append htrail hgap, hsplit]

theorem exists_token_symbol (g : List Char) (s : Symbol) :
    ∃ t, Token.ofText (Lexeme.mk g [s.char]).text = .ok t :=
  ⟨.symbol s, Token.ofText_chars (Token.isReadable_symbol s)⟩

theorem exists_symbol_of_spells_cons {us : List Scanned} {g : List Char} {s : Symbol}
    {ls : List Lexeme} (h : List.Forall₂ Scanned.Spells us (⟨g, [s.char]⟩ :: ls)) :
    ∃ u vs, us = u :: vs ∧ u.token = .symbol s ∧ List.Forall₂ Scanned.Spells vs ls := by
  cases h with
  | @cons u _ vs _ hu hvs =>
    have htoken : Token.ofText [s.char] = .ok (.symbol s) :=
      Token.ofText_chars (Token.isReadable_symbol s)
    exact ⟨u, vs, rfl, Except.ok.inj (hu.token.symm.trans htoken), hvs⟩

theorem faults_append_symbol_iff (cs : List Char) {s : Symbol} (hs : s ≠ .minus)
    (r : List Char) : faults (cs ++ s.char :: r) = [] ↔ faults cs = [] ∧ faults r = [] := by
  rw [faults_eq_nil_iff, faults_eq_nil_iff, faults_eq_nil_iff, lexemes_append_symbol cs hs,
    List.forall_mem_append, List.forall_mem_cons]
  exact and_congr_right fun _ => and_iff_right (exists_token_symbol _ s)

theorem faults_nil : faults [] = [] := by
  rw [faults_eq_nil_iff, lexemes_nil]
  exact fun _ h => nomatch h

theorem faults_symbol_cons_iff {s : Symbol} (hs : s ≠ .minus) (r : List Char) :
    faults (s.char :: r) = [] ↔ faults r = [] :=
  (faults_append_symbol_iff [] hs r).trans (and_iff_right faults_nil)

theorem faults_intercalate_iff (elements : List (List Char)) :
    faults ([','].intercalate elements ++ ['\x7d']) = [] ↔ ∀ e ∈ elements, faults e = [] := by
  induction elements with
  | nil =>
    exact iff_of_true ((faults_symbol_cons_iff (s := .rightBrace) nofun []).mpr faults_nil) nofun
  | cons e es ih =>
    rw [List.forall_mem_cons]
    cases es with
    | nil =>
      rw [List.intercalate_singleton]
      refine (faults_append_symbol_iff e (s := .rightBrace) nofun []).trans ?_
      exact and_congr_right fun _ => iff_of_true faults_nil nofun
    | cons e' es =>
      rw [List.intercalate_cons_cons, List.append_assoc, List.append_assoc, List.singleton_append,
        ← ih]
      exact faults_append_symbol_iff e (s := .comma) nofun _

/-- A set has faults just when one of its elements has. -/
theorem faults_setChars_iff (elements : List (List Char)) :
    faults (setChars elements) = [] ↔ ∀ e ∈ elements, faults e = [] := by
  rw [← faults_intercalate_iff]
  exact faults_symbol_cons_iff (s := .leftBrace) nofun _

end Dice

/-! ## The machine on an element -/

namespace Formula

/-- What the machine reads of a token: all but its place. -/
def unplaced (t : Scanned) : Scanned := { t with span := ⟨0, 0⟩ }

theorem run_map_unplaced (ts : List Scanned) (goal : Goal) (phase : Phase) (sum : OpenSum)
    (outer : List OpenSum) :
    run goal phase sum outer (ts.map unplaced) = run goal phase sum outer ts := by
  induction ts generalizing goal phase sum outer with
  | nil => rfl
  | cons t ts ih =>
    have hgap : (unplaced t).gap = t.gap := rfl
    have htext : (unplaced t).text = t.text := rfl
    have htoken : (unplaced t).token = t.token := rfl
    simp only [List.map_cons, run, hgap, htext, htoken, ih]

/-- Tokens that stand for the same lexemes differ in their places only. -/
theorem map_unplaced_of_spells {ts us : List Scanned} {ls : List Lexeme}
    (ht : List.Forall₂ Scanned.Spells ts ls) (hu : List.Forall₂ Scanned.Spells us ls) :
    ts.map unplaced = us.map unplaced := by
  induction ht generalizing us with
  | nil =>
    cases hu
    rfl
  | @cons t l ts ls ht _ ih =>
    cases hu with
    | @cons u _ us _ hu hus =>
      have htoken : t.token = u.token := Except.ok.inj (ht.token.symm.trans hu.token)
      have hone : unplaced t = unplaced u := by
        rw [unplaced, unplaced, ht.gap, ht.text, hu.gap, hu.text, htoken]
      rw [List.map_cons, List.map_cons, hone, ih hus]

theorem run_congr_of_spells {ts us : List Scanned} {ls : List Lexeme}
    (ht : List.Forall₂ Scanned.Spells ts ls) (hu : List.Forall₂ Scanned.Spells us ls)
    (goal : Goal) (phase : Phase) (sum : OpenSum) (outer : List OpenSum) :
    run goal phase sum outer ts = run goal phase sum outer us := by
  rw [← run_map_unplaced ts, map_unplaced_of_spells ht hu, run_map_unplaced]

/-- The machine is still inside a formula. -/
def Phase.IsOpen : Phase → Prop
  | .closed _ => False
  | _ => True

theorem Step.isOpen {t : Scanned} {phase phase' : Phase} {sum sum' : OpenSum}
    {outer outer' : List OpenSum} (h : Step t phase sum outer phase' sum' outer') :
    phase'.IsOpen := by
  cases h <;> trivial

/-- A machine that accepts the tokens of one formula stands after their last term when they are
over, and outside all parentheses. -/
theorem exists_suffix_of_run {phase : Phase} {sum : OpenSum} {outer : List OpenSum}
    {ts : List Scanned} {fs : List Formula} (hopen : phase.IsOpen)
    (h : run .single phase sum outer ts = .ok fs) :
    ∃ (sum' : OpenSum) (term : Formula), fs = [sum'.close term] ∧
      ∀ goal rest, run goal phase sum outer (ts ++ rest) =
        run goal (.suffix term) sum' [] rest := by
  -- Every step leaves the machine open, and of the open phases only `suffix` may be the last.
  induction ts generalizing phase sum outer with
  | nil =>
    cases phase with
    | start => simp [run] at h
    | operand => simp [run] at h
    | tag term text =>
      simp only [run] at h
      split at h <;> cases h
    | closed set => exact hopen.elim
    | suffix term =>
      cases outer with
      | nil =>
        simp only [run] at h
        exact ⟨sum, term, (Except.ok.inj h).symm, fun _ _ => rfl⟩
      | cons around outer => simp [run] at h
  | cons t ts ih =>
    obtain ⟨phase', sum', outer', hstep⟩ := exists_step h
    rw [hstep.run_cons] at h
    obtain ⟨last, term, hfs, hrest⟩ := ih hstep.isOpen h
    exact ⟨last, term, hfs, fun goal rest => (hstep.run_cons goal _).trans (hrest goal rest)⟩

/-! ## Reading a set -/

/-- The machine over the tokens of a formula, wherever they come from. -/
theorem exists_suffix_of_readChars {cs : List Char} {f : Formula} (h : readChars cs = .ok f)
    {us : List Scanned} (hus : List.Forall₂ Scanned.Spells us (Dice.lexemes cs)) :
    ∃ (sum : OpenSum) (term : Formula), sum.close term = f ∧
      ∀ goal rest, run goal .start .empty [] (us ++ rest) =
        run goal (.suffix term) sum [] rest := by
  have hfaults := faults_of_readChars h
  rw [readChars_of_faults hfaults, ofTokens,
    run_congr_of_spells (Dice.spells_tokens hfaults) hus] at h
  split at h
  · next g hrun =>
    cases h
    have hopen : Phase.start.IsOpen := trivial
    obtain ⟨sum, term, hf, hrest⟩ := exists_suffix_of_run hopen hrun
    exact ⟨sum, term, (List.singleton_inj.mp hf).symm, hrest⟩
  · cases h
  · cases h

/-- The machine reads the rest of a set, from the beginning of an element to the closing brace. -/
theorem run_set_of_readChars {elements : List (List Char)} {fs : List Formula}
    (h : List.Forall₂ (fun cs f => readChars cs = .ok f) elements fs) (hne : elements ≠ [])
    (done : List Formula) {us : List Scanned}
    (hus : List.Forall₂ Scanned.Spells us
      (Dice.lexemes ([','].intercalate elements ++ ['\x7d']))) :
    run (.set done) .start .empty [] us = .ok (done.reverse ++ fs) := by
  -- `done` grows by one formula at every comma.
  induction h generalizing done us with
  | nil => exact absurd rfl hne
  | @cons cs f rest fs hcs hrest ih =>
    cases hrest with
    | nil =>
      have hlex := Dice.lexemes_append_symbol cs (s := .rightBrace) nofun []
      rw [List.intercalate_singleton] at hus
      obtain ⟨vs, ws, rfl, hvs, hws⟩ := Dice.spells_append (hlex ▸ hus)
      obtain ⟨sum, term, hclose, hrun⟩ := exists_suffix_of_readChars hcs hvs
      obtain ⟨w, xs, rfl, hw, hxs⟩ := Dice.exists_symbol_of_spells_cons hws
      rw [Dice.lexemes_nil] at hxs
      cases hxs
      rw [hrun]
      simp [run, hw, hclose]
    | @cons cs' f' rest fs hcs' hrest =>
      have hlex := Dice.lexemes_append_symbol cs (s := .comma) nofun
        ([','].intercalate (cs' :: rest) ++ ['\x7d'])
      rw [List.intercalate_cons_cons, List.append_assoc, List.append_assoc,
        List.singleton_append] at hus
      obtain ⟨vs, ws, rfl, hvs, hws⟩ := Dice.spells_append (hlex ▸ hus)
      obtain ⟨sum, term, hclose, hrun⟩ := exists_suffix_of_readChars hcs hvs
      obtain ⟨w, xs, rfl, hw, hxs⟩ := Dice.exists_symbol_of_spells_cons hws
      have hnext := ih (List.cons_ne_nil _ _) (f :: done) hxs
      rw [hrun]
      simpa [run, hw, hclose] using hnext

/-- A set is read as its elements are, one by one. -/
theorem readSetChars_setChars {elements : List (List Char)} {fs : List Formula}
    (h : List.Forall₂ (fun cs f => readChars cs = .ok f) elements fs) (hne : elements ≠ []) :
    readSetChars (setChars elements) = .ok fs := by
  have hfaults : Dice.faults (setChars elements) = [] := by
    rw [Dice.faults_setChars_iff]
    intro cs hcs
    obtain ⟨f, hf⟩ := exists_forall₂_iff.mp ⟨fs, h⟩ cs hcs
    exact faults_of_readChars hf
  obtain ⟨ts, hscan, hts⟩ := Dice.scan_of_faults_eq_nil hfaults
  have hlex := Dice.lexemes_symbol .leftBrace ([','].intercalate elements ++ ['\x7d'])
  obtain ⟨t, us, rfl, ht, hus⟩ := Dice.exists_symbol_of_spells_cons (hlex ▸ hts)
  rw [readSetChars, scan, hscan]
  change setOfTokens (t :: us) = .ok fs
  rw [setOfTokens, if_pos ht]
  exact run_set_of_readChars h hne [] hus

end Formula

/-! ## The combined set of an assembly -/

namespace Component

theorem comma_notMem_natural (n : Nat) : ',' ∉ Decimal.natural n :=
  fun h => absurd (Decimal.isDigit_of_mem_natural h) (by decide)

theorem comma_notMem_bracketed (t : Tag) : ',' ∉ bracketed t.chars := by
  have htag : ',' ∉ t.chars := fun h => absurd (t.isTagChar_of_mem h) (by decide)
  simp [bracketed, htag]

theorem comma_notMem_signed (n : Int) : ',' ∉ signed n := by
  rw [signed]
  split <;> simp [comma_notMem_natural]

theorem comma_notMem_body (c : Component) (o : HitOptions) : ',' ∉ c.body o := by
  rw [body]
  split
  · split <;> simp [comma_notMem_natural, comma_notMem_signed, Die.chars]
  · rw [Decimal.integer]
    split <;> simp [comma_notMem_natural]

theorem comma_notMem_grouped {cs : List Char} (h : ',' ∉ cs) : ',' ∉ grouped cs := by
  unfold grouped
  split
  · exact h
  · simp [h]

theorem comma_notMem_expressionChars (c : Component) (o : HitOptions) :
    ',' ∉ c.expressionChars o := by
  have hbody := c.comma_notMem_body o
  have htype : ',' ∉ bracketed c.type.chars := comma_notMem_bracketed c.type.tag
  rw [expressionChars]
  split
  · next cs hcs =>
    obtain ⟨t, rfl, -⟩ := Category.exists_ofTag hcs
    simp [comma_notMem_grouped hbody, comma_notMem_bracketed, htype]
  · simp [hbody, htype]

end Component

theorem exists_component_of_mem_assemble {s : Structure} {o : HitOptions} {p : Part}
    (h : p ∈ s.assemble o) : ∃ c : Component, p.expression = c.expression o := by
  obtain ⟨q, -, rfl⟩ := List.mem_map.mp h
  exact ⟨q.component, rfl⟩

/-- An expression that is not read has faults. -/
theorem Component.exists_read_of_faults {c : Component} {o : HitOptions}
    (h : Dice.faults (c.expressionChars o) = []) : ∃ f, Formula.read (c.expression o) = .ok f := by
  obtain ⟨htags, hfit⟩ := (c.faults_expressionChars_iff o).mp h
  exact ⟨_, c.read_expression o htags hfit⟩

theorem toList_set (elements : List String) :
    ("\x7b" ++ ",".intercalate elements ++ "\x7d").toList =
      setChars (elements.map String.toList) := by
  simp [setChars, String.toList_intercalate]

namespace Formula

theorem readSet_eq_ok_iff {source : String} {fs : List Formula} :
    readSet source = .ok fs ↔ readSetChars source.toList = .ok fs := by
  rw [readSet]
  cases readSetChars source.toList <;> simp [Except.mapError]

theorem readSet_of_forall₂ {sources : List String} {fs : List Formula}
    (h : List.Forall₂ (fun source f => read source = .ok f) sources fs) (hne : sources ≠ []) :
    readSet ("\x7b" ++ ",".intercalate sources ++ "\x7d") = .ok fs := by
  rw [readSet_eq_ok_iff, toList_set]
  refine readSetChars_setChars ?_ (by simpa using hne)
  rw [List.forall₂_map_left_iff]
  exact h.imp fun _ _ => read_eq_ok_iff.mp

theorem faults_of_readSetChars {cs : List Char} {fs : List Formula}
    (h : readSetChars cs = .ok fs) : Dice.faults cs = [] := by
  by_contra hne
  obtain ⟨e, he⟩ := Dice.scan_of_faults_ne_nil hne
  rw [readSetChars, scan, he] at h
  cases h

end Formula

theorem readSet_combined_iff (s : Structure) (o : HitOptions) (hne : s.assemble o ≠ [])
    (fs : List Formula) :
    Formula.readSet (combined (s.assemble o)) = .ok fs ↔
      List.Forall₂ (fun (p : Part) f => Formula.read p.expression = .ok f) (s.assemble o) fs := by
  have hread : ∀ {gs}, List.Forall₂ (fun (p : Part) f => Formula.read p.expression = .ok f)
      (s.assemble o) gs → Formula.readSet (combined (s.assemble o)) = .ok gs := fun h =>
    Formula.readSet_of_forall₂ (List.forall₂_map_left_iff.mpr h) (by simpa using hne)
  refine ⟨fun h => ?_, hread⟩
  -- The braces could enclose other formulas than the expressions do only if some expression were
  -- not read. But then it has faults, and the set has them too.
  have hfaults := Formula.faults_of_readSetChars (Formula.readSet_eq_ok_iff.mp h)
  rw [combined, toList_set, Dice.faults_setChars_iff] at hfaults
  have hparts : ∀ p ∈ s.assemble o, ∃ f, Formula.read p.expression = .ok f := by
    intro p hp
    obtain ⟨c, hc⟩ := exists_component_of_mem_assemble hp
    rw [hc]
    refine Component.exists_read_of_faults (hfaults _ ?_)
    refine List.mem_map.mpr ⟨p.expression, List.mem_map_of_mem hp, ?_⟩
    rw [hc, Component.expression, String.toList_ofList]
  obtain ⟨gs, hgs⟩ := exists_forall₂_iff.mpr hparts
  rw [Except.ok.inj (h.symm.trans (hread hgs))]
  exact hgs

/-- The combined set of an assembly is an unambiguous encoding of its parts. Between its braces it
is their expressions with a comma between any two, and no expression holds one; it is read as a set
just when every expression is read, and then as their formulas in order. Any formulas between
braces are read as they are one by one. -/
theorem combined_encodes :
    (∀ (s : Structure) (o : HitOptions), s.assemble o ≠ [] →
      (∃ inner, (combined (s.assemble o)).toList = '\x7b' :: (inner ++ ['\x7d']) ∧
        inner.splitOn ',' = (s.assemble o).map (·.expression.toList)) ∧
      ((∃ fs, Formula.readSet (combined (s.assemble o)) = .ok fs) ↔
        ∀ p ∈ s.assemble o, ∃ f, Formula.read p.expression = .ok f) ∧
      ∀ fs, Formula.readSet (combined (s.assemble o)) = .ok fs ↔
        List.Forall₂ (fun (p : Part) f => Formula.read p.expression = .ok f)
          (s.assemble o) fs) ∧
    ∀ (sources : List String) (fs : List Formula), sources ≠ [] →
      List.Forall₂ (fun source f => Formula.read source = .ok f) sources fs →
      Formula.readSet ("\x7b" ++ ",".intercalate sources ++ "\x7d") = .ok fs := by
  refine ⟨fun s o hne => ⟨?_, ?_, readSet_combined_iff s o hne⟩,
    fun sources fs hne h => Formula.readSet_of_forall₂ h hne⟩
  · refine ⟨[','].intercalate ((s.assemble o).map (·.expression.toList)), ?_, ?_⟩
    · rw [combined, toList_set, List.map_map]
      rfl
    · refine List.splitOn_intercalate ',' ?_ (by simpa using hne)
      intro cs hcs
      obtain ⟨p, hp, rfl⟩ := List.mem_map.mp hcs
      obtain ⟨c, hc⟩ := exists_component_of_mem_assemble hp
      rw [hc, Component.expression, String.toList_ofList]
      exact c.comma_notMem_expressionChars o
  · rw [← exists_forall₂_iff]
    exact exists_congr fun fs => readSet_combined_iff s o hne fs

/-- The three expressions of a burning sword, and two formulas whose tags hold a comma and braces. -/
theorem combined_encodes_burningSword :
    let parts := Assembly.burningSword.assemble default
    parts ≠ [] ∧
    (∃ inner, (combined parts).toList = '\x7b' :: (inner ++ ['\x7d']) ∧
      inner.splitOn ',' = parts.map (·.expression.toList)) ∧
    ∃ f g, Formula.read "1d6[a,b]" = .ok f ∧ Formula.read "2[x\x7by\x7d]" = .ok g ∧
      Formula.readSet "\x7b1d6[a,b],2[x\x7by\x7d]\x7d" = .ok [f, g] := by
  intro parts
  have hne : parts ≠ [] := by decide +kernel
  have exists_read : ∀ source, (Formula.read source).isOk = true →
      ∃ f, Formula.read source = .ok f := by
    intro source hsource
    cases h : Formula.read source with
    | ok f => exact ⟨f, rfl⟩
    | error e =>
      rw [h] at hsource
      cases hsource
  obtain ⟨f, hf⟩ := exists_read "1d6[a,b]" (by decide +kernel)
  obtain ⟨g, hg⟩ := exists_read "2[x\x7by\x7d]" (by decide +kernel)
  obtain ⟨hassembly, hset⟩ := combined_encodes
  exact ⟨hne, (hassembly _ default hne).1, f, g, hf, hg,
    hset ["1d6[a,b]", "2[x\x7by\x7d]"] [f, g] (List.cons_ne_nil _ _)
      (.cons hf (.cons hg .nil))⟩

end CriticalDamage
