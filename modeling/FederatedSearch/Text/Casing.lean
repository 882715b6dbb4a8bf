import FederatedSearch.Text.CodeRange
import FederatedSearch.Text.CaseTables

/-!
Full Unicode lower-casing of texts. A letter is mapped on its own, except that a
capital sigma becomes the final form at the end of a word.
-/

namespace FederatedSearch.Text

def isCased : Char → Bool := inRanges casedRanges

def isCaseIgnorable : Char → Bool := inRanges caseIgnorableRanges

def simpleLower (c : Char) : Char :=
  let code := c.toNat
  match lowerRuns.find? fun run => run.first ≤ code && code ≤ run.last with
  | some run =>
      if (code - run.first) % run.step = 0 then Char.ofNat (run.target + (code - run.first))
      else c
  | none => c

/-- The lower-case form of one character out of context. The dotted capital I is
the only character whose form has two characters. -/
def lowerChar (c : Char) : List Char :=
  if c.toNat < 0x80 then [c.toLower]
  else if c = 'İ' then ['i', '\u0307']
  else [simpleLower c]

def continuesWord (text : List Char) : Bool :=
  match text.dropWhile isCaseIgnorable with
  | [] => false
  | c :: _ => isCased c

/-- A capital sigma is final if a letter comes before it and none after it. -/
def lowerSigma (before after : List Char) : Char :=
  if continuesWord before && !continuesWord after then 'ς' else 'σ'

/-- Lower-cases a text of which `before` has been read, nearest character first. -/
def lowerAfter (before : List Char) : List Char → List Char
  | [] => []
  | c :: rest =>
      (if c = 'Σ' then [lowerSigma before rest] else lowerChar c) ++ lowerAfter (c :: before) rest

def lower (text : List Char) : List Char := lowerAfter [] text

def lowered (s : String) : String := String.ofList (lower s.toList)

def sameIgnoringAsciiCase (a b : List Char) : Bool := a.map Char.toLower == b.map Char.toLower

theorem lowered_to_list (s : String) : (lowered s).toList = lower s.toList := by
  simp [lowered]

theorem lower_after_ascii (before : List Char) {text : List Char}
    (ascii : ∀ c ∈ text, c.toNat < 0x80) : lowerAfter before text = text.map Char.toLower := by
  induction text generalizing before with
  | nil => rfl
  | cons c rest induction =>
      have first : c.toNat < 0x80 := ascii c (by simp)
      have notSigma : c ≠ 'Σ' := by rintro rfl; revert first; decide
      rw [lowerAfter, if_neg notSigma, lowerChar, if_pos first,
        induction _ fun d member => ascii d (by simp [member])]
      rfl

theorem lower_ascii {text : List Char} (ascii : ∀ c ∈ text, c.toNat < 0x80) :
    lower text = text.map Char.toLower :=
  lower_after_ascii [] ascii

end FederatedSearch.Text
