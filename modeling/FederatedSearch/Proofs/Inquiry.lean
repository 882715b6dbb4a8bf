import FederatedSearch.Node.Execution

/-!
Conversations with a store. The search of a node is one: it asks for one record after the
other, and what it does next depends on the answers alone. So it can be told what a search
asks of a store, beside what it makes of the answers.
-/

namespace FederatedSearch

open FederatedSearch.Index

/-- A course of action that may ask a store for records, one after the other. -/
inductive Inquiry (α : Type) where
  | done (value : α)
  | ask (id : String) (next : Except StoreError (Option Record) → Inquiry α)

namespace Inquiry

variable {α β : Type}

def andThen : Inquiry α → (α → Inquiry β) → Inquiry β
  | .done value, next => next value
  | .ask id more, next => .ask id fun answer => (more answer).andThen next

def outcome (source : RecordSource) : Inquiry α → α
  | .done value => value
  | .ask id next => (next (source id)).outcome source

/-- The ids that a source is asked for, in order. -/
def asked (source : RecordSource) : Inquiry α → List String
  | .done _ => []
  | .ask id next => id :: (next (source id)).asked source

def lookUp (known : LookedUp) (id : String) :
    Inquiry (Except StoreError (Option Record × LookedUp)) :=
  match known.find? (·.1 == id) with
  | some (_, record) => .done (.ok (record, known))
  | none => .ask id fun answer => .done (answer.map fun record => (record, known ++ [(id, record)]))

def gatherMatches (node : String) (plan : NodePlan) (request : SearchRequest) (index : String) :
    Gathering → List Match → Inquiry (Except SearchError Gathering)
  | gathering, [] => .done (.ok gathering)
  | gathering, found :: rest =>
      (lookUp gathering.known found.id).andThen fun
        | .error failure => .done (.error (.nodeUnavailable node failure.message))
        | .ok (record?, known) =>
            let gathering := { gathering with known }
            gatherMatches node plan request index
              (match record?.filter plan.keeps with
                | some record => gathering.addHit (found.toHit request node index record)
                | none => gathering)
              rest

def gatherIndex (node : String) (plan : NodePlan) (request : SearchRequest)
    (gathering : Gathering) (index : NodeIndex) : Inquiry (Except SearchError Gathering) :=
  match index.answer plan.engineText plan.limit plan.markers with
  | .ok found =>
      gatherMatches node plan request index.descriptor.id
        { gathering with answered := gathering.answered + 1 } found
  | .error reason =>
      .done (if index.descriptor.required then
        .error (.nodeUnavailable node
          ("required index '" ++ index.descriptor.id ++ "' failed: " ++ reason))
      else
        .ok { gathering with
          warnings := gathering.warnings ++ [⟨node, index.descriptor.id, reason⟩] })

end Inquiry

namespace Node

section

variable (node : Node) (plan : NodePlan) (request : SearchRequest)

end

end Node

end FederatedSearch
