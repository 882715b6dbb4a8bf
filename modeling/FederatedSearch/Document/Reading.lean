import FederatedSearch.Document.Token

/-!
Reading documents. The reader goes through the tokens once; what it has read of the
lists and tables that are still open stands in a stack of frames.
-/

namespace FederatedSearch.Document

/-- An open list or table with what is complete in it, last item first. A table waits for
the value of a key. -/
inductive Frame where
  | list (items : List Document)
  | table (entries : List (String × Document)) (key : String)

/-- What may come next; `inside` holds the open containers, innermost first. -/
inductive Awaiting where
  | value (inside : List Frame)
  /-- Just behind the opening of a list. -/
  | valueOrClose (inside : List Frame)
  /-- Just behind the opening of a table. -/
  | keyOrClose (inside : List Frame)
  | key (entries : List (String × Document)) (inside : List Frame)
  | colon (entries : List (String × Document)) (key : String) (inside : List Frame)
  | commaOrCloseList (items : List Document) (inside : List Frame)
  | commaOrCloseTable (entries : List (String × Document)) (inside : List Frame)
  | nothing (document : Document)

def complete (document : Document) : List Frame → Awaiting
  | [] => .nothing document
  | .list items :: inside => .commaOrCloseList (document :: items) inside
  | .table entries key :: inside => .commaOrCloseTable ((key, document) :: entries) inside

def beginValue? (inside : List Frame) : Token → Option Awaiting
  | .openList => some (.valueOrClose inside)
  | .openTable => some (.keyOrClose inside)
  | .scalar value => some (complete value inside)
  | _ => none

def closeTable (entries : List (String × Document)) (inside : List Frame) : Awaiting :=
  complete (.table (distinct entries.reverse)) inside

def Awaiting.next? : Awaiting → Token → Option Awaiting
  | .value inside, token => beginValue? inside token
  | .valueOrClose inside, .closeList => some (complete (.list []) inside)
  | .valueOrClose inside, token => beginValue? (.list [] :: inside) token
  | .keyOrClose inside, .closeTable => some (closeTable [] inside)
  | .keyOrClose inside, .scalar (.text name) => some (.colon [] name inside)
  | .key entries inside, .scalar (.text name) => some (.colon entries name inside)
  | .colon entries name inside, .colon => some (.value (.table entries name :: inside))
  | .commaOrCloseList items inside, .comma => some (.value (.list items :: inside))
  | .commaOrCloseList items inside, .closeList => some (complete (.list items.reverse) inside)
  | .commaOrCloseTable entries inside, .comma => some (.key entries inside)
  | .commaOrCloseTable entries inside, .closeTable => some (closeTable entries inside)
  | _, _ => none

def parse? (text : String) : Option Document := do
  let tokens ← tokens? text.toList
  match ← tokens.foldlM Awaiting.next? (.value []) with
  | .nothing document => some document
  | _ => none

end FederatedSearch.Document
