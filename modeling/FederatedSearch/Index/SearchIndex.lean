import FederatedSearch.Index.Search

/-!
Indexes with their storage. An index is opened when it is first used; closing it keeps
its rows, unless they are held in memory only.
-/

namespace FederatedSearch.Index

inductive IndexError where
  /-- The storage cannot be reached. -/
  | storage (reason : String)
  /-- The text of a query is no query. -/
  | badQuery
deriving DecidableEq

def IndexError.message : IndexError → String
  | storage reason => "IO error: " ++ reason
  | badQuery => "SQLite error: fts5: syntax error"

inductive Storage where
  | file
  | memory
  | unreachable (reason : String)

structure SearchIndex where
  options : IndexOptions
  storage : Storage
  /-- The table, once there is one. -/
  table : Option Table
  isOpen : Bool

namespace SearchIndex

def new (options : IndexOptions) (storage : Storage) : SearchIndex :=
  ⟨options, storage, none, false⟩

/-- The table as it is found on opening: a new one is empty, and splits texts as the options
say. -/
def foundTable (index : SearchIndex) : Table := index.table.getD ⟨index.options.stemming, []⟩

def opened (index : SearchIndex) : Except IndexError SearchIndex :=
  match index.storage with
  | .unreachable reason => .error (.storage reason)
  | _ => .ok { index with table := some index.foundTable, isOpen := true }

def update (index : SearchIndex) (change : Table → Table) : Except IndexError SearchIndex :=
  index.opened.map fun index => { index with table := some (change index.foundTable) }

def put (index : SearchIndex) (row : Row) : Except IndexError SearchIndex :=
  index.update (·.put row)

def remove (index : SearchIndex) (id : String) : Except IndexError (SearchIndex × Bool) :=
  (index.update (·.remove id)).map fun changed => (changed, index.foundTable.ids.contains id)

def clear (index : SearchIndex) : Except IndexError SearchIndex := index.update Table.clear

def count (index : SearchIndex) : Except IndexError (SearchIndex × Nat) :=
  index.opened.map fun index => (index, index.foundTable.count)

def close (index : SearchIndex) : SearchIndex :=
  match index.storage with
  | .memory => { index with table := none, isOpen := false }
  | _ => { index with isOpen := false }

/-- A query's text as far as the index reads it: up to the first null character. -/
def readText (text : List Char) : List Char := text.takeWhile (· ≠ '\x00')

/-- What a text asks for. A text of which nothing is read asks for no row. -/
def asked? (text : String) : Option EngineQuery :=
  let trimmed := Text.trim text.toList
  if trimmed = [] ∨ trimmed = ['*'] then some .everything
  else if (readText trimmed).all isQuerySpace then some (.matching (.group .or []))
  else (Expression.read? (readText trimmed)).map .matching

/-- Answers the text of a query. The storage is reached before the text is read. -/
def search (index : SearchIndex) (text : String) (limit : Nat) (markers : Markers) :
    Except IndexError (List Match) :=
  index.opened.bind fun index =>
    match asked? text with
    | some query => .ok (index.foundTable.search index.options markers limit query)
    | none => .error .badQuery

end SearchIndex

end FederatedSearch.Index
