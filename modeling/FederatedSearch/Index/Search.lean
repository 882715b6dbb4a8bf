import FederatedSearch.Index.ExpressionText
import FederatedSearch.Index.Options
import FederatedSearch.Index.Rank
import FederatedSearch.Index.Snippet

/-!
Searches in a table. A query for everything lists the rows in order; an expression finds
the rows that it matches, best rank first.
-/

namespace FederatedSearch.Index

structure Match where
  id : String
  /-- At most one; the higher the better. -/
  score : Float32
  snippet : String

namespace Table

/-- The first rows, each with a score of one and the beginning of its content. -/
def scan (table : Table) (options : IndexOptions) (limit : Nat) : List Match :=
  (table.rows.take limit).map fun row =>
    ⟨row.id, 1, String.ofList (row.content.toList.take options.previewLength)⟩

def contentOccurrences (split : SplitRow) (phrases : List (Option Phrase)) : List Occurrence :=
  phrases.zipIdx.flatMap fun (phrase, number) =>
    match phrase with
    | some phrase =>
        (split.occurrences phrase .content).map fun position =>
          ⟨position, number, phrase.words.length⟩
    | none => []

structure RankedRow where
  row : Row
  rank : Float
  snippet : List Char

def matching (table : Table) (options : IndexOptions) (markers : Markers)
    (expression : Expression) : List RankedRow :=
  let rows := table.rows.map (SplitRow.ofRow table.stemming)
  let average := averageLength rows
  let rarities := expression.terms.map fun term =>
    rarity rows.length (rows.filter (·.contains (.ofTerm table.stemming term))).length
  (rows.filter fun split => expression.holds (split.decides table.stemming)).map fun split =>
    let phrases := (expression.witnesses (split.decides table.stemming)).map
      (·.map (Phrase.ofTerm table.stemming))
    let frequencies := phrases.map fun phrase => (phrase.map split.frequency).getD 0
    { row := split.row
      rank := rankOf split average (rarities.zip frequencies)
      snippet := snippet options.snippetTokens options.ellipsis markers
        split.row.content.toList split.contentTokens (contentOccurrences split phrases) }

/-- The best of the rows that an expression matches; equally good ones stay in order. -/
def ranked (table : Table) (options : IndexOptions) (markers : Markers) (limit : Nat)
    (expression : Expression) : List Match :=
  (((table.matching options markers expression).mergeSort fun a b => a.rank ≤ b.rank).take
    limit).map fun found =>
      ⟨found.row.id, scoreOfRank found.rank options.scoreDivisor, String.ofList found.snippet⟩

def search (table : Table) (options : IndexOptions) (markers : Markers) (limit : Nat) :
    EngineQuery → List Match
  | .everything => table.scan options limit
  | .matching expression => table.ranked options markers limit expression

end Table

end FederatedSearch.Index
