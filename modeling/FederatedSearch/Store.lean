import FederatedSearch.Catalog
import FederatedSearch.Record

/-!
Content stores: the records of a node by their ids.
-/

namespace FederatedSearch

inductive StoreError where
  | storage (reason : String)
deriving DecidableEq

def StoreError.message : StoreError → String
  | storage reason => "Storage error: " ++ reason

/-- Where records are read from: a record, none if there is none, or a failure. -/
abbrev RecordSource := String → Except StoreError (Option Record)

structure ContentStore where
  /-- Every record under its own id. -/
  records : Catalog Record

namespace ContentStore

def empty : ContentStore := ⟨.empty⟩

def get? (store : ContentStore) (id : String) : Option Record := store.records.find? id

def put (store : ContentStore) (record : Record) : ContentStore :=
  ⟨store.records.insert record.id record⟩

def remove (store : ContentStore) (id : String) : ContentStore := ⟨store.records.erase id⟩

/-- Of records with the same id the last one stays. -/
def ofList (records : List Record) : ContentStore := records.foldl put empty

def size (store : ContentStore) : Nat := store.records.size

def isEmpty (store : ContentStore) : Bool := store.records.isEmpty

/-- A store that answers whatever it is asked. -/
def source (store : ContentStore) : RecordSource := fun id => .ok (store.get? id)

end ContentStore

end FederatedSearch
