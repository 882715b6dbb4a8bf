import FederatedSearch.Record

/-!
The rows of an index: for each record its id and the texts of its columns. A row that is
written anew moves to the end.
-/

namespace FederatedSearch.Index

structure Row where
  id : String
  title : Option String
  description : Option String
  content : String

def Row.ofRecord (record : Record) : Row :=
  ⟨record.id, record.title, record.description, record.content⟩

/-- The text of a column; a column that the row does not have is empty. -/
def Row.text (row : Row) : Column → String
  | .title => row.title.getD ""
  | .description => row.description.getD ""
  | .content => row.content

structure Table where
  /-- Whether the words of the rows are known by their stems. -/
  stemming : Bool
  rows : List Row

namespace Table

def count (table : Table) : Nat := table.rows.length

def ids (table : Table) : List String := table.rows.map (·.id)

def remove (table : Table) (id : String) : Table :=
  { table with rows := table.rows.filter (·.id != id) }

def put (table : Table) (row : Row) : Table :=
  { table with rows := (table.remove row.id).rows ++ [row] }

def clear (table : Table) : Table := { table with rows := [] }

theorem ids_remove (table : Table) (id : String) :
    (table.remove id).ids = table.ids.filter (· != id) := by
  simp only [ids, remove, List.filter_map]
  rfl

theorem ids_put (table : Table) (row : Row) :
    (table.put row).ids = table.ids.filter (· != row.id) ++ [row.id] := by
  have kept := table.ids_remove row.id
  simp only [ids] at kept
  simp only [ids, put, List.map_append, List.map_cons, List.map_nil, kept]

end Table

end FederatedSearch.Index
