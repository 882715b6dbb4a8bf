import FederatedSearch.Proofs.Gathering
import FederatedSearch.Proofs.Grouping
import FederatedSearch.Proofs.Inquiry

/-!
What a node asks of its store. Records are read once, in the order in which they are first
found, up to one that cannot be read. What comes out is what comes out if the record of every
match is read anew.
-/

namespace FederatedSearch

open FederatedSearch.Index

namespace RecordSource

/-- The ids up to the first whose look-up fails, and this one. -/
def reached (source : RecordSource) : List String → List String
  | [] => []
  | id :: rest => id :: match source id with
    | .error _ => []
    | .ok _ => source.reached rest

section

variable {source : RecordSource} {ids later : List String} {failure : StoreError}

end

end RecordSource

section

variable {source : RecordSource} {seen : List String} {known : LookedUp} {id : String}

end

namespace Node

section

variable {node : Node} {plan : NodePlan} {request : SearchRequest} {seen : List String}

section

variable {index : NodeIndex} {matched : List Match} {gathering : Gathering}

end

variable {found : NodeIndex → List Match} {gathering : Gathering} {indexes : List NodeIndex}

end

def plainRow (node : Node) (request : SearchRequest) (index : NodeIndex) (found : Match)
    (record : Record) : IndexHit Float32 :=
  let text := if found.snippet = "" then record.content else found.snippet
  let content := match request.snippetOnly, request.snippetLength with
    | true, some length => String.ofList (text.toList.take length)
    | true, none => text
    | false, _ => record.content
  ⟨{ record with content }, node.id, index.descriptor.id, none, found.score⟩

/-- The row of a match, if the store holds its record and the record passes both filters. -/
def plainRow? (node : Node) (request : SearchRequest) (excluded : ExclusionFilter)
    (structured : Option Predicate) (index : NodeIndex) (found : Match) :
    Option (IndexHit Float32) :=
  match node.records found.id with
  | .ok (some record) =>
      if excluded.excludes record then none
      else match structured with
        | some accepts =>
            if accepts record then some (node.plainRow request index found record) else none
        | none => some (node.plainRow request index found record)
  | _ => none

section

variable (node : Node) (request : SearchRequest) (index : NodeIndex) (found : Match)

theorem hit_plainly (record : Record) :
    found.toHit request node.id index.descriptor.id record =
      node.plainRow request index found record := by
  unfold Match.toHit snippetContent plainRow
  cases request.snippetOnly <;> cases request.snippetLength <;> rfl

theorem hit_of_match_plainly {plan : NodePlan} {excluded : ExclusionFilter}
    {structured : Option Predicate} (keeps : plan.keeps = keepsRecord excluded structured) :
    node.hitOf? plan request index.descriptor.id found =
      node.plainRow? request excluded structured index found := by
  rw [hitOf?, plainRow?, RecordSource.recordAt, keeps]
  cases node.records found.id with
  | error failure => rfl
  | ok record? =>
      cases record? with
      | none => rfl
      | some record =>
          simp only [Except.toOption, Option.join_some, Option.filter, keepsRecord]
          by_cases excludes : excluded.excludes record = true
          · simp [excludes]
          · cases structured with
            | none => simp [excludes, hit_plainly]
            | some accepts =>
                by_cases accepted : accepts record = true <;>
                  simp [excludes, accepted, hit_plainly]

end

section

variable {node : Node} {query : Query} {request : SearchRequest} {plan : NodePlan}
variable {found : NodeIndex → List Match}

end

end Node

end FederatedSearch
