import FederatedSearch.Decimal.Fixed
import FederatedSearch.Query.Field
import FederatedSearch.Query.PlainText

/-!
Errors of searches. An error that concerns one node names it, so that a caller can leave
the node out and try again.
-/

namespace FederatedSearch

inductive SearchError where
  | nodeNotFound (node : String)
  | accessDenied (node reason : String)
  /-- The node did not answer in time; `elapsed` is in milliseconds. -/
  | nodeTimeout (node : String) (elapsed : Nat)
  | nodeUnavailable (node reason : String)
  | indexNotFound (node : Option String) (index : String)
  | indexUnavailable (node : Option String) (index reason : String)
  /-- An index that has to be searched was excluded. -/
  | indexRequired (node : Option String) (index : String)
  | querySyntax (node : Option String) (message : String) (position : Nat)
  | queryTooComplex (node : Option String) (reason : String)
  /-- The whole search took too long; `elapsed` is in milliseconds. -/
  | queryTimeout (node : Option String) (elapsed : Nat)
  | invalidConfiguration (node : Option String) (reason : String)
  | invalidNodePart (node : Option String) (value : String)
  | invalidRequest (reason : String)
deriving DecidableEq

namespace SearchError

def kind : SearchError → String
  | nodeNotFound .. => "node_not_found"
  | accessDenied .. => "node_access_denied"
  | nodeTimeout .. => "node_timeout"
  | nodeUnavailable .. => "node_unavailable"
  | indexNotFound .. => "index_not_found"
  | indexUnavailable .. => "index_unavailable"
  | indexRequired .. => "index_required"
  | querySyntax .. => "query_syntax_error"
  | queryTooComplex .. => "query_too_complex"
  | queryTimeout .. => "query_timeout"
  | invalidConfiguration .. => "invalid_configuration"
  | invalidNodePart .. => "invalid_node_prefix"
  | invalidRequest .. => "invalid_request"

def node? : SearchError → Option String
  | nodeNotFound node | accessDenied node _ | nodeTimeout node _ | nodeUnavailable node _ =>
      some node
  | indexNotFound node _ | indexUnavailable node _ _ | indexRequired node _
  | querySyntax node _ _ | queryTooComplex node _ | queryTimeout node _
  | invalidConfiguration node _ | invalidNodePart node _ => node
  | invalidRequest _ => none

def secondsText (milliseconds : Nat) : String :=
  Decimal.fixed64 3 (Float.ofNat (milliseconds / 1000) +
    Float.ofNat (milliseconds % 1000 * 1000000) / 1000000000)

/-- The text of an error in which `duration` writes the elapsed time. -/
def messageWith (duration : Nat → String) : SearchError → String
  | nodeNotFound node => "Node not found: " ++ node
  | accessDenied node reason => "Access denied to node '" ++ node ++ "': " ++ reason
  | nodeTimeout node elapsed => "Node '" ++ node ++ "' timed out after " ++ duration elapsed ++ "s"
  | nodeUnavailable node reason => "Node '" ++ node ++ "' unavailable: " ++ reason
  | indexNotFound _ index => "Search index not found: " ++ index
  | indexUnavailable _ index reason => "Search index '" ++ index ++ "' unavailable: " ++ reason
  | indexRequired _ index =>
      "Search index '" ++ index ++ "' is required and cannot be excluded"
  | querySyntax _ message position =>
      "Query syntax error at position " ++ toString position ++ ": " ++ message
  | queryTooComplex _ reason => "Query too complex: " ++ reason
  | queryTimeout _ elapsed => "Query timed out after " ++ duration elapsed ++ "s"
  | invalidConfiguration _ reason => "Invalid configuration: " ++ reason
  | invalidNodePart _ value => "Invalid node prefix in '" ++ value ++ "'"
  | invalidRequest reason => "Invalid request: " ++ reason

def message : SearchError → String := messageWith secondsText

/-- Attributes an error to a node. An error that names a node keeps it, and a malformed
request concerns none. -/
def forNode (error : SearchError) (id : String) : SearchError :=
  match error with
  | indexNotFound none index => .indexNotFound (some id) index
  | indexUnavailable none index reason => .indexUnavailable (some id) index reason
  | indexRequired none index => .indexRequired (some id) index
  | querySyntax none message position => .querySyntax (some id) message position
  | queryTooComplex none reason => .queryTooComplex (some id) reason
  | queryTimeout none elapsed => .queryTimeout (some id) elapsed
  | invalidConfiguration none reason => .invalidConfiguration (some id) reason
  | invalidNodePart none value => .invalidNodePart (some id) value
  | _ => error

def position? : SearchError → Option Nat
  | querySyntax _ _ position => some position
  | _ => none

end SearchError

/-- A query that is no condition makes a malformed request. -/
def CompileError.toSearchError (error : CompileError) : SearchError :=
  .invalidRequest error.message

def QuerySyntaxError.toSearchError (error : QuerySyntaxError) : SearchError :=
  .querySyntax none error.message error.position

structure QueryValidation where
  valid : Bool
  message : Option String
  position : Option Nat

def QueryValidation.ofResult {α : Type} : Except SearchError α → QueryValidation
  | .ok _ => ⟨true, none, none⟩
  | .error error => ⟨false, some error.message, error.position?⟩

theorem bind_eq_ok {ε α β : Type} {first : Except ε α} {next : α → Except ε β} {result : β} :
    first >>= next = .ok result ↔ ∃ value, first = .ok value ∧ next value = .ok result := by
  cases first <;> simp [bind, Except.bind]

end FederatedSearch
