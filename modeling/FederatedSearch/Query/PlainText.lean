import FederatedSearch.Query.Tree

/-!
Query texts. A parser turns the text of a query into a tree or says where it fails; the
plain parser takes the whole text as one search.
-/

namespace FederatedSearch

structure QuerySyntaxError where
  message : String
  position : Nat
deriving DecidableEq

def QuerySyntaxError.text (error : QuerySyntaxError) : String :=
  "Syntax error at position " ++ toString error.position ++ ": " ++ error.message

abbrev QueryParser := String → Except QuerySyntaxError Query

/-- A search for the whole text without the blanks around it, in all columns. -/
def parsePlainText : QueryParser := fun text =>
  let sought := Text.trimmed text
  if sought = "" then .error ⟨"empty query", 0⟩ else .ok (Query.text sought)

end FederatedSearch
