/-!
Stems of English words: endings are taken off or replaced in steps, under conditions on
what is left of the word. A word is given as bytes; whatever is no vowel counts as a
consonant, and so does every byte of a letter beyond ASCII.
-/

namespace FederatedSearch.Index

abbrev Word := List UInt8

def Word.of (letters : String) : Word := letters.toUTF8.toList

def vowels : Word := Word.of "aeiou"

def letterY : UInt8 := 'y'.toUInt8

/-- For each letter, whether it is a vowel; a `y` is one behind a consonant. -/
def vowelPattern (afterConsonant : Bool) : Word → List Bool
  | [] => []
  | letter :: rest =>
      let isVowel := vowels.contains letter || (afterConsonant && letter == letterY)
      isVowel :: vowelPattern (!isVowel) rest

def countSyllables : List Bool → Nat
  | true :: false :: rest => countSyllables rest + 1
  | _ :: rest => countSyllables rest
  | [] => 0

/-- The measure of a word: the number of its groups of vowels that consonants follow. -/
def measure (word : Word) : Nat := countSyllables (vowelPattern false word)

/-- There is a vowel; here a `y` is one everywhere but at the beginning. -/
def hasVowel : Word → Bool
  | [] => false
  | first :: rest =>
      vowels.contains first || rest.any fun letter => vowels.contains letter || letter == letterY

/-- The word ends in a consonant, a vowel and a consonant that is not `w`, `x` or `y`. -/
def endsShort (word : Word) : Bool :=
  match (vowelPattern false word).reverse, word.getLast? with
  | false :: true :: false :: _, some last => !(Word.of "wxy").contains last
  | _, _ => false

def withoutEnding? (ending word : Word) : Option Word :=
  if ending.length < word.length ∧ ending.isSuffixOf word then
    some (word.take (word.length - ending.length))
  else none

abbrev EndingRules := List (String × String)

/-- Replaces the first ending of the list that the word has, if what stands before it
meets the condition. -/
def replaceEnding (admits : Word → Bool) : EndingRules → Word → Word
  | [], word => word
  | (ending, replacement) :: rules, word =>
      match withoutEnding? (Word.of ending) word with
      | some kept => if admits kept then kept ++ Word.of replacement else word
      | none => replaceEnding admits rules word

def withoutPlural (word : Word) : Word :=
  replaceEnding (fun _ => true)
    [("sses", "ss"), ("ies", "i"), ("ss", "ss"), ("s", "")] word

def mendedEnd (word : Word) : Word :=
  let restored := replaceEnding (fun _ => true) [("at", "ate"), ("bl", "ble"), ("iz", "ize")] word
  if restored ≠ word then restored
  else
    match word.reverse with
    | last :: other :: _ =>
        if last = other ∧ !vowels.contains last ∧ !(Word.of "lsz").contains last then
          word.dropLast
        else if measure word = 1 ∧ endsShort word then word ++ Word.of "e"
        else word
    | _ => word

def withoutInflection (word : Word) : Word :=
  match withoutEnding? (Word.of "eed") word with
  | some kept => if 0 < measure kept then kept ++ Word.of "ee" else word
  | none =>
      match (withoutEnding? (Word.of "ed") word).or (withoutEnding? (Word.of "ing") word) with
      | some kept => if hasVowel kept then mendedEnd kept else word
      | none => word

def withFinalI (word : Word) : Word :=
  replaceEnding hasVowel [("y", "i")] word

def doubleEndings : EndingRules :=
  [("ational", "ate"), ("tional", "tion"), ("enci", "ence"), ("anci", "ance"), ("izer", "ize"),
   ("logi", "log"), ("bli", "ble"), ("alli", "al"), ("entli", "ent"), ("eli", "e"),
   ("ousli", "ous"), ("ization", "ize"), ("ation", "ate"), ("ator", "ate"), ("alism", "al"),
   ("iveness", "ive"), ("fulness", "ful"), ("ousness", "ous"), ("aliti", "al"), ("iviti", "ive"),
   ("biliti", "ble")]

def simpleEndings : EndingRules :=
  [("ical", "ic"), ("ness", ""), ("icate", "ic"), ("iciti", "ic"), ("ful", ""), ("ative", ""),
   ("alize", "al")]

def lastEndings : List String :=
  ["al", "ance", "ence", "er", "ic", "able", "ible", "ant", "ement", "ment", "ent", "ion", "ou",
   "ism", "ate", "iti", "ous", "ive", "ize"]

/-- Takes off a last ending behind two syllables; `ion` only behind an `s` or a `t`. -/
def withoutLastEnding (word : Word) : Word :=
  let isIon := (Word.of "ion").isSuffixOf word
  replaceEnding
    (fun kept => 1 < measure kept && (!isIon || kept.getLast?.any (Word.of "st").contains))
    (lastEndings.map (·, "")) word

def withoutFinalE (word : Word) : Word :=
  replaceEnding (fun kept => 1 < measure kept || (measure kept = 1 && !endsShort kept))
    [("e", "")] word

def withoutDoubleL (word : Word) : Word :=
  if (Word.of "ll").isSuffixOf word ∧ 1 < measure word.dropLast then word.dropLast else word

/-- The stem of a word. Words of less than 3 or more than 64 bytes stay as they are. -/
def stem (word : Word) : Word :=
  if word.length < 3 ∨ 64 < word.length then word
  else
    withoutDoubleL <| withoutFinalE <| withoutLastEnding <|
      replaceEnding (fun kept => 0 < measure kept) simpleEndings <|
        replaceEnding (fun kept => 0 < measure kept) doubleEndings <|
          withFinalI <| withoutInflection <| withoutPlural word

end FederatedSearch.Index
