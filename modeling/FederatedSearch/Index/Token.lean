import FederatedSearch.Index.LetterForms
import FederatedSearch.Index.Stem
import FederatedSearch.Index.WordCharacters

/-!
The words of a text as an index sees them. A word is a longest run of letters and
numbers, in which some combining marks are skipped; it is known by its folded letters,
or by their stem.
-/

namespace FederatedSearch.Index

open FederatedSearch.Text

structure Token where
  /-- What the word is known by. -/
  key : List UInt8
  /-- The offset of its first character in the text. -/
  start : Nat
  /-- The offset behind its last character. -/
  stop : Nat

def isWordCharacter (c : Char) : Bool :=
  if c.toNat < 0x80 then c.isAlphanum else inRanges wordRanges c

/-- Combining marks that do not end a word. -/
def skippedMarks : List (Nat × Nat) :=
  [(0x300, 0x304), (0x306, 0x30C), (0x30F, 0x30F), (0x311, 0x311), (0x31B, 0x31B),
   (0x323, 0x328), (0x32D, 0x32E), (0x330, 0x331)]

def isSkippedMark : Char → Bool := inRanges skippedMarks

def continuesToken (c : Char) : Bool := isWordCharacter c || isSkippedMark c

def tokenKey (stemming : Bool) (word : List Char) : List UInt8 :=
  let folded := (word.filter (!isSkippedMark ·)).map foldLetter
  let bytes := (String.ofList folded).toUTF8.toList
  if stemming then stem bytes else bytes

def tokensFrom (stemming : Bool) (offset : Nat) (text : List Char) : List Token :=
  match text with
  | [] => []
  | c :: rest =>
      if isWordCharacter c then
        let word := c :: rest.takeWhile continuesToken
        ⟨tokenKey stemming word, offset, offset + word.length⟩ ::
          tokensFrom stemming (offset + word.length) (rest.dropWhile continuesToken)
      else tokensFrom stemming (offset + 1) rest
termination_by text.length
decreasing_by
  · have shorter := (List.dropWhile_sublist continuesToken (l := rest)).length_le
    simp only [List.length_cons]
    omega
  · simp

def tokens (stemming : Bool) (text : List Char) : List Token := tokensFrom stemming 0 text

end FederatedSearch.Index
