import FederatedSearch.Node.Basic

/-!
What configured nodes hold: the tables of their indexes, which are found by path, and
their content stores. Indexes with the same path share a table.
-/

namespace FederatedSearch

open FederatedSearch.Index

structure Holdings where
  /-- How the storage behind a path is reached. -/
  storage : String → Storage
  tables : List (String × Table)
  stores : List (String × ContentStore)

namespace Holdings

def empty (storage : String → Storage) : Holdings := ⟨storage, [], []⟩

def store (holdings : Holdings) (node : String) : ContentStore :=
  (Document.find? node holdings.stores).getD .empty

def index (holdings : Holdings) (settings : IndexSettings) : SearchIndex :=
  { options := .ofSettings settings, storage := holdings.storage settings.path
    table := Document.find? settings.path holdings.tables, isOpen := false }

/-- Changes the rows of an index; one that cannot be reached is left alone. -/
def updateIndex (change : Table → Table) (holdings : Holdings) (settings : IndexSettings) :
    Holdings :=
  match (holdings.index settings).update change with
  | .ok { table := some table, .. } =>
      { holdings with tables := Document.put settings.path table holdings.tables }
  | _ => holdings

/-- Changes the rows of the indexes of a node, or of those with the chosen id. -/
def updateIndexes (holdings : Holdings) (node : NodeSettings) (chosen : Option String)
    (change : Table → Table) : Holdings :=
  (node.indexes.filter fun index => chosen.all (· == index.id)).foldl (updateIndex change) holdings

def updateStore (holdings : Holdings) (node : NodeSettings) (change : ContentStore → ContentStore) :
    Holdings :=
  { holdings with stores := Document.put node.id (change (holdings.store node.id)) holdings.stores }

def put (holdings : Holdings) (node : NodeSettings) (chosen : Option String) (record : Record) :
    Holdings :=
  (holdings.updateIndexes node chosen (·.put (.ofRecord record))).updateStore node (·.put record)

def remove (holdings : Holdings) (node : NodeSettings) (chosen : Option String) (id : String) :
    Holdings :=
  (holdings.updateIndexes node chosen (·.remove id)).updateStore node (·.remove id)

def node (holdings : Holdings) (search : SearchSettings) (settings : NodeSettings)
    (records : RecordSource) : Node :=
  { id := settings.id, access := settings.access, weight := settings.weight
    indexes := settings.indexes.map fun index =>
      .ofSearchIndex (.ofSettings index) (holdings.index index)
    records, settings := search }

end Holdings

end FederatedSearch
