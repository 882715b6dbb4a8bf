import FederatedSearch.Error

/-!
Qualified ids address a record at a node: the id of the node, a colon, and the id of the
record, which may have colons of its own.
-/

namespace FederatedSearch

structure QualifiedId where
  node : String
  record : String
deriving DecidableEq

namespace QualifiedId

def isNodeChar (c : Char) : Bool := c.isAlphanum || c == '-' || c == '_'

def split? (text : List Char) : Option (List Char × List Char) :=
  match text.dropWhile (· != ':') with
  | [] => none
  | _ :: record => some (text.takeWhile (· != ':'), record)

def parse (text : String) : Except SearchError QualifiedId :=
  match split? text.toList with
  | some (node, record) =>
      if !node.isEmpty && node.all isNodeChar && !record.isEmpty then
        .ok ⟨String.ofList node, String.ofList record⟩
      else .error (.invalidNodePart none text)
  | none => .error (.invalidNodePart none text)

def write (id : QualifiedId) : String := id.node ++ ":" ++ id.record

end QualifiedId

end FederatedSearch
