import FederatedSearch.Index.Expression
import FederatedSearch.Index.Table
import FederatedSearch.Index.Token

/-!
Phrases in rows. The text of a term is split into words like the texts of rows; the term
matches a row which has these words, one behind the other, in one of its columns.
-/

namespace FederatedSearch.Index

structure Phrase where
  columns : List Column
  words : List Word

def Phrase.ofTerm (stemming : Bool) (term : Term) : Phrase :=
  ⟨term.columns, (tokens stemming term.text.toList).map (·.key)⟩

/-- Where the words of a phrase begin among words that are counted from a position on. A
phrase without words begins nowhere. -/
def occurrencesFrom (position : Nat) (phrase : List Word) : List Word → List Nat
  | [] => []
  | word :: rest =>
      let others := occurrencesFrom (position + 1) phrase rest
      if phrase ≠ [] ∧ phrase.isPrefixOf (word :: rest) then position :: others else others

def total (counts : List Nat) : Nat := counts.foldr (· + ·) 0

structure SplitRow where
  row : Row
  titleTokens : List Token
  descriptionTokens : List Token
  contentTokens : List Token

namespace SplitRow

def ofRow (stemming : Bool) (row : Row) : SplitRow :=
  let split (column : Column) := tokens stemming (row.text column).toList
  ⟨row, split .title, split .description, split .content⟩

def tokens (split : SplitRow) : Column → List Token
  | .title => split.titleTokens
  | .description => split.descriptionTokens
  | .content => split.contentTokens

def length (split : SplitRow) : Nat := total ((Column.all.map split.tokens).map List.length)

def occurrences (split : SplitRow) (phrase : Phrase) (column : Column) : List Nat :=
  if phrase.columns.contains column then
    occurrencesFrom 0 phrase.words ((split.tokens column).map (·.key))
  else []

def frequency (split : SplitRow) (phrase : Phrase) : Nat :=
  total ((Column.all.map (split.occurrences phrase)).map List.length)

def contains (split : SplitRow) (phrase : Phrase) : Bool := 0 < split.frequency phrase

def decides (stemming : Bool) (split : SplitRow) (term : Term) : Bool :=
  split.contains (.ofTerm stemming term)

end SplitRow

mutual

/-- The terms of an expression that tell why it matches: those that are not part of a group
which does not hold. -/
def Expression.witnesses (decides : Term → Bool) : Expression → List (Option Term)
  | .term sought => [some sought]
  | .group .and parts =>
      if Expression.allHold decides parts then witnessesOfAll decides parts
      else (Expression.termsOfAll parts).map fun _ => none
  | .group .or parts => witnessesOfAll decides parts

def witnessesOfAll (decides : Term → Bool) : List Expression → List (Option Term)
  | [] => []
  | part :: rest => part.witnesses decides ++ witnessesOfAll decides rest

end

end FederatedSearch.Index
