import CriticalDamage.Text.CaseTable

/-!
# Lowercase

The full lowercase of a text. Every character is mapped by itself except the capital sigma, which
takes its final form at the end of a word, and the dotted capital I, which becomes two characters.
-/

namespace CriticalDamage.Text

/-- The lowercase of a character that does not depend on its neighbours. -/
def lowercaseChar (c : Char) : List Char :=
  if c.toNat < 128 then [c.toLower]
  else if c.toNat = 0x130 then ['i', Char.ofNat 0x307]
  else match caseRuns.find? (·.holds c.toNat) with
    | some r => [Char.ofNat (c.toNat + r.shift).toNat]
    | none => [c]

/-- The first character that is not case-ignorable is cased. -/
def reachesCased (cs : List Char) : Bool :=
  match cs.dropWhile isCaseIgnorable with
  | c :: _ => isCased c
  | [] => false

/-- The lowercase of the second list, when the first list stands before it, last character first. -/
def lowercaseAfter (before : List Char) : List Char → List Char
  | [] => []
  | c :: after =>
    let lower :=
      if c = 'Σ' then
        if reachesCased before && !reachesCased after then ['ς'] else ['σ']
      else lowercaseChar c
    lower ++ lowercaseAfter (c :: before) after

def lowercase (cs : List Char) : List Char := lowercaseAfter [] cs

end CriticalDamage.Text
