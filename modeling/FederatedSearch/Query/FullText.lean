import FederatedSearch.Index.ExpressionText
import FederatedSearch.Query.Field

/-!
The full-text part of a query tree: what an index is asked. The leaves that an index can
decide become terms of the match expression; all other leaves are left out of it.
What stands under a negation is not asked of the index: its texts are listed as
excluded terms, and records that hold one of them are dropped afterwards.
-/

namespace FederatedSearch

open FederatedSearch.Index FederatedSearch.Text

/-- A leaf that an index decides: a text sought in one column, or in all of them. -/
structure FullTextLeaf where
  column : Option Column
  text : String
deriving DecidableEq

def FieldRef.column? (reference : FieldRef) : Option Column :=
  match RecordField.resolve reference with
  | .ok field => field.column?
  | .error _ => none

/-- The literal as the text of a term; lists and the null value are none. -/
def FullTextLeaf.ofComparison? (reference : FieldRef) (value : Literal) : Option FullTextLeaf := do
  return ⟨some (← reference.column?), ← value.asText?⟩

namespace Query

/-- The leaves that an index decides: searches for a text, without a field or in a column;
a column that equals or contains a value; and texts and numbers that stand alone. -/
def fullTextLeaf? : Query → Option FullTextLeaf
  | .textSearch none sought => some ⟨none, sought⟩
  | .textSearch (some reference) sought => reference.column?.map fun column => ⟨some column, sought⟩
  | .comparison reference .equal value => FullTextLeaf.ofComparison? reference value
  | .comparison reference .contains value => FullTextLeaf.ofComparison? reference value
  | .literal (.text sought) => some ⟨none, sought⟩
  | .literal (.number value) => some ⟨none, Literal.numberText value⟩
  | _ => none

def isFullTextLeaf (query : Query) : Bool := query.fullTextLeaf?.isSome

end Query

def FullTextLeaf.term? (leaf : FullTextLeaf) : Option Term :=
  let text := trimmed leaf.text
  if text = "" then none else some ⟨leaf.column, text⟩

/-- A text that rules out the records which contain it in a column, or in any of the
columns if none is named. -/
structure ExcludedTerm where
  term : String
  field : Option String
deriving DecidableEq

def ExcludedTerm.ofTerm (term : Term) : ExcludedTerm := ⟨term.text, term.column.map (·.name)⟩

namespace Query

def connective? : LogicalOperator → Option Connective
  | .and => some .and
  | .or => some .or
  | .not | .nor => none

mutual

/-- What of a tree an index can be asked, if there is anything. -/
def expression? : Query → Option Expression
  | .logical operator children =>
      match connective? operator with
      | some connective => Expression.combine connective (expressions children)
      | none => none
  | leaf => (leaf.fullTextLeaf?.bind FullTextLeaf.term?).map .term

def expressions : List Query → List Expression
  | [] => []
  | child :: rest =>
      match expression? child with
      | some expression => expression :: expressions rest
      | none => expressions rest

end

mutual

def leafTerms : Query → List Term
  | .logical _ children => leafTermsOfAll children
  | leaf => (leaf.fullTextLeaf?.bind FullTextLeaf.term?).toList

def leafTermsOfAll : List Query → List Term
  | [] => []
  | child :: rest => leafTerms child ++ leafTermsOfAll rest

end

mutual

def negatedTerms : Query → List Term
  | .logical operator children =>
      if operator.isNegation then leafTermsOfAll children else negatedTermsOfAll children
  | _ => []

def negatedTermsOfAll : List Query → List Term
  | [] => []
  | child :: rest => negatedTerms child ++ negatedTermsOfAll rest

end

end Query

structure FullTextPart where
  engineQuery : EngineQuery
  excludedTerms : List ExcludedTerm

/-- What a tree asks of an index. If nothing is left to ask, the index is asked for everything;
of equal excluded terms the first is kept. -/
def Query.fullTextPart (query : Query) : FullTextPart :=
  { engineQuery := match query.expression? with
      | some expression => .matching expression
      | none => .everything
    excludedTerms := (query.negatedTerms.map .ofTerm).eraseDups }

end FederatedSearch
