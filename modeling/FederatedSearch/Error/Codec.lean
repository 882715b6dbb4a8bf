import FederatedSearch.Document.Decoding
import FederatedSearch.Error

/-!
Errors of searches as documents. An error is read from its kind and the values that errors
of this kind carry; it is shown with its kind, its node and its message.
-/

namespace FederatedSearch.SearchError

def decode? (document : Document) : Option SearchError := do
  let text (name : String) : Option String := (document.get? name).bind Decoder.text
  let number (name : String) : Option Nat := (document.get? name).bind Decoder.natural
  let node? ← match document.get? "node_id" with
    | some node => Decoder.optional Decoder.text node
    | none => some none
  match ← text "kind" with
  | "node_not_found" => return .nodeNotFound (← node?)
  | "node_access_denied" => return .accessDenied (← node?) (← text "reason")
  | "node_timeout" => return .nodeTimeout (← node?) (← number "elapsed_ms")
  | "node_unavailable" => return .nodeUnavailable (← node?) (← text "reason")
  | "index_not_found" => return .indexNotFound node? (← text "index_id")
  | "index_unavailable" => return .indexUnavailable node? (← text "index_id") (← text "reason")
  | "index_required" => return .indexRequired node? (← text "index_id")
  | "query_syntax_error" => return .querySyntax node? (← text "message") (← number "position")
  | "query_too_complex" => return .queryTooComplex node? (← text "reason")
  | "query_timeout" => return .queryTimeout node? (← number "elapsed_ms")
  | "invalid_configuration" => return .invalidConfiguration node? (← text "reason")
  | "invalid_node_prefix" => return .invalidNodePart node? (← text "value")
  | "invalid_request" => return .invalidRequest (← text "reason")
  | _ => none

def encode (duration : Nat → String) (error : SearchError) : Document :=
  .table [
    ("error", .text error.kind),
    ("node_id", .ofOption .text error.node?),
    ("message", .text (error.messageWith duration))]

end FederatedSearch.SearchError
