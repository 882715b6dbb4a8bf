import FederatedSearch.Query.FullText
import FederatedSearch.Text.Occurrence

/-!
Exclusion of records by terms. A term rules out a record if it occurs in the text of
its column, whatever the case of the letters.
-/

namespace FederatedSearch

open FederatedSearch.Text

/-- The needle, which is in lower case, occurs in the text in some case. -/
def occursIgnoringCase (needle : List Char) (text : String) : Bool :=
  occursIn needle (lower text.toList)

/-- Excluded terms ready for use: those with a blank text rule out nothing and are left out. -/
structure ExclusionFilter where
  terms : List ExcludedTerm

namespace ExclusionFilter

def ofTerms (terms : List ExcludedTerm) : ExclusionFilter :=
  ⟨terms.filter fun term => !isBlankText term.term⟩

def isEmpty (filter : ExclusionFilter) : Bool := filter.terms.isEmpty

def searchedTexts (record : Record) (field : Option String) : List String :=
  match field with
  | some name => (record.columnNamed name).toList
  | none => Column.all.filterMap record.column

def termExcludes (record : Record) (term : ExcludedTerm) : Bool :=
  (searchedTexts record term.field).any (occursIgnoringCase (lower term.term.toList))

def excludes (filter : ExclusionFilter) (record : Record) : Bool :=
  filter.terms.any (termExcludes record)

end ExclusionFilter

end FederatedSearch
