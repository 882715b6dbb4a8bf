import FederatedSearch.Index.Token

/-!
Snippets: the part of a text around what was found in it, with markers around the words
that were sought. The part is the one that has the most of the phrases, and better begins
with a sentence.
-/

namespace FederatedSearch.Index

structure Markers where
  opening : String
  closing : String

def Markers.none : Markers := ⟨"", ""⟩

/-- An occurrence of a phrase: the position of its first word, the number of the phrase in
the query, and its length in words. -/
structure Occurrence where
  position : Nat
  phrase : Nat
  length : Nat

def inOrder (occurrences : List Occurrence) : List Occurrence :=
  occurrences.mergeSort fun a b => a.position ≤ b.position

def slice (text : List Char) (start stop : Nat) : List Char :=
  (text.drop start).take (stop - start)

/-- A full stop or a colon ends a sentence if a space follows; what comes behind begins one. -/
def endsSentence (gap : List Char) : Bool :=
  let isSpace (c : Char) := c == ' ' || c == '\t' || c == '\n' || c == '\r'
  let before := gap.reverse.dropWhile isSpace
  before.length < gap.length && (before.head? == some '.' || before.head? == some ':')

def sentencesFrom (text : List Char) (position : Nat) (previous : Token) :
    List Token → List Nat
  | [] => []
  | token :: rest =>
      let others := sentencesFrom text (position + 1) token rest
      if endsSentence (slice text previous.stop token.start) then position :: others else others

def sentenceStarts (text : List Char) : List Token → List Nat
  | [] => []
  | first :: rest => 0 :: sentencesFrom text 1 first rest

structure Window where
  start : Nat
  width : Nat

def Window.inside (window : Window) (occurrences : List Occurrence) : List Occurrence :=
  occurrences.filter fun occurrence =>
    window.start ≤ occurrence.position && occurrence.position < window.start + window.width

/-- Each phrase in the window is worth a thousand, and each further occurrence one. -/
def Window.worth (window : Window) (occurrences : List Occurrence) : Nat :=
  let inside := window.inside occurrences
  inside.length + 999 * (inside.map (·.phrase)).eraseDups.length

/-- The window moved so that what is found in it stands in the middle of it, if the text has
enough words. -/
def Window.centred (window : Window) (occurrences : List Occurrence) (wordCount : Nat) : Window :=
  match (window.inside occurrences).head?, (window.inside occurrences).getLast? with
  | some first, some last =>
      let found : Int := last.position + last.length - first.position
      let wanted := first.position - ((window.width : Int) - found).tdiv 2
      let start := if wordCount < wanted + window.width then wordCount - (window.width : Int)
        else wanted
      { window with start := start.toNat }
  | _, _ => window

def sentenceWorth (start : Nat) : Nat := if start = 0 then 120 else 100

/-- The windows that an occurrence suggests, with their worth: the one around it, and in a
longer text the one at the beginning of its sentence. -/
def Occurrence.windows (occurrence : Occurrence) (occurrences : List Occurrence)
    (sentences : List Nat) (width wordCount : Nat) : List (Window × Nat) :=
  let here : Window := ⟨occurrence.position, width⟩
  let around := (here.centred occurrences wordCount, here.worth occurrences)
  match (sentences.filter (· ≤ occurrence.position)).getLast? with
  | some start =>
      if width < wordCount ∧ start < occurrence.position then
        let sentence : Window := ⟨start, width⟩
        [around, (sentence, sentence.worth occurrences + sentenceWorth start)]
      else [around]
  | none => [around]

/-- The first of the most valuable windows; without any, the one at the beginning. -/
def bestWindow (width : Nat) (windows : List (Window × Nat)) : Window :=
  (windows.foldl (fun best window => if best.2 < window.2 then window else best)
    (⟨0, width⟩, 0)).1

/-- The ranges of words, both ends included, that occurrences cover. Those which share a word
make one range. -/
def coveredRanges : List Occurrence → List (Nat × Nat)
  | [] => []
  | first :: rest => extend first.position (first.position + first.length - 1) rest
where
  /-- The ranges of which the first one reaches from `start` to `stop` so far. -/
  extend (start stop : Nat) : List Occurrence → List (Nat × Nat)
    | [] => [(start, stop)]
    | next :: rest =>
        let nextStop := next.position + next.length - 1
        if next.position ≤ stop then extend start (max stop nextStop) rest
        else (start, stop) :: extend next.position nextStop rest

/-- A piece of a text is shown up to its first null character. -/
def shown (text : List Char) (start stop : Nat) : List Char :=
  (slice text start stop).takeWhile (· ≠ '\x00')

def marked (markers : Markers) (text : List Char) (start stop : Nat) :
    List (Nat × Nat) → List Char
  | [] => shown text start stop
  | (first, past) :: rest =>
      shown text start first ++ markers.opening.toList ++ shown text first past ++
        markers.closing.toList ++ marked markers text past stop rest

def snippet (width : Nat) (ellipsis : String) (markers : Markers) (text : List Char)
    (tokens : List Token) (occurrences : List Occurrence) : List Char :=
  let sorted := inOrder occurrences
  let sentences := sentenceStarts text tokens
  let window := bestWindow width
    (sorted.flatMap fun occurrence => occurrence.windows sorted sentences width tokens.length)
  let last := window.start + window.width - 1
  let words := (tokens.drop window.start).take window.width
  let start := if window.start = 0 then 0 else (words.head?.map (·.start)).getD 0
  let stop := (words.getLast?.map (·.stop)).getD start
  let ranges := (coveredRanges sorted).filter fun (first, _) =>
    window.start ≤ first && first ≤ last
  let offsets := ranges.filterMap fun (first, past) => do
    return ((← tokens[first]?).start, (← tokens[min past last]?).stop)
  let before := if window.start = 0 then [] else ellipsis.toList
  let after := if tokens.length ≤ last + 1 then shown text stop text.length else ellipsis.toList
  before ++ marked markers text start stop offsets ++ after

end FederatedSearch.Index
