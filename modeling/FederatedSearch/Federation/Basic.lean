import FederatedSearch.Node.Running
import FederatedSearch.Query.PlainText

/-!
Federations: members that are searched together. Before any of them is searched, it is
settled which ones take part, the indexes that the request names are checked against
theirs, and the query is read and checked.
-/

namespace FederatedSearch

structure Federation where
  settings : SearchSettings
  parser : QueryParser
  /-- Every member under its own id. -/
  members : Catalog Member

namespace Federation

/-- A federation without members that reads queries as plain texts. -/
def new (settings : SearchSettings) : Federation := ⟨settings, parsePlainText, .empty⟩

def withMember (federation : Federation) (member : Member) : Federation :=
  { federation with members := federation.members.insert member.id member }

def ofSettings (settings : Settings) (member : NodeSettings → Member) :
    Except SearchError Federation :=
  settings.validate.map fun _ =>
    settings.nodes.entries.foldl (fun federation (_, node) => federation.withMember (member node))
      (new settings.search)

def ids (federation : Federation) : List String := federation.members.names

/-- The ids of the members that a request is about: those that it names, or else all, without
those that it excludes, each once. -/
def candidates (federation : Federation) (request : SearchRequest) : List String :=
  ((if request.nodes.isEmpty then federation.ids else request.nodes).filter fun id =>
    !request.excludeNodes.contains id).eraseDups

/-- The members of ids. A member that cannot be searched is an error if it was named, and is
left out otherwise. -/
def membersOf (federation : Federation) (named : Bool) : List String →
    Except SearchError (List Member)
  | [] => .ok []
  | id :: rest =>
      match federation.members.find? id with
      | none => .error (.nodeNotFound id)
      | some member =>
          if member.access.canSearch then
            (federation.membersOf named rest).map (member :: ·)
          else if named then .error (.accessDenied id "node is write-only")
          else federation.membersOf named rest

def select (federation : Federation) (request : SearchRequest) :
    Except SearchError (List Member) :=
  if federation.members.isEmpty then .error (.invalidConfiguration none "no nodes configured")
  else
    match federation.candidates request with
    | [] => .error (.invalidConfiguration none "no nodes left to search after exclusions")
    | ids => do
        match ← federation.membersOf (!request.nodes.isEmpty) ids with
        | [] => .error (.invalidConfiguration none "no searchable nodes selected")
        | selected => .ok selected

end Federation

def unknownIndex? (members : List Member) (request : SearchRequest) : Option String :=
  request.searchIndexes.find? fun index => !members.any (·.indexes.any (·.id == index))

def Member.excludedRequired? (member : Member) (request : SearchRequest) : Option IndexDescriptor :=
  member.indexes.find? fun index => index.required && request.excludeIndexes.contains index.id

/-- Refuses a request that names an unknown index or excludes a required one. -/
def checkIndexes (members : List Member) (request : SearchRequest) : Except SearchError Unit :=
  match unknownIndex? members request with
  | some index => .error (.indexNotFound none index)
  | none =>
      let faults := members.filterMap fun member =>
        (member.excludedRequired? request).map fun index => (member.id, index.id)
      match faults with
      | (node, index) :: _ => .error (.indexRequired (some node) index)
      | [] => .ok ()

namespace Federation

def checkQuery (settings : SearchSettings) (query : Query) : Except SearchError Query :=
  if settings.maxQueryDepth < query.depth then
    .error (.queryTooComplex none ("depth " ++ toString query.depth ++ " exceeds limit " ++
      toString settings.maxQueryDepth))
  else if settings.maxQueryNodes < query.nodeCount then
    .error (.queryTooComplex none (toString query.nodeCount ++ " nodes exceed limit " ++
      toString settings.maxQueryNodes))
  else
    match query.compileStructured with
    | .ok _ => .ok query
    | .error error => .error error.toSearchError

def parse (federation : Federation) (text : String) : Except SearchError Query :=
  match federation.parser text with
  | .ok query => checkQuery federation.settings query
  | .error error => .error error.toSearchError

def validateQuery (federation : Federation) (text : String) : QueryValidation :=
  .ofResult (federation.parse text)

end Federation

end FederatedSearch
