import FederatedSearch.Document.Decoding
import FederatedSearch.Text.Casing
import FederatedSearch.Time.Reading
import FederatedSearch.Time.Writing

/-!
Content records: what a node stores and what a query asks about. A record has three
text columns that the indexes know, tags, and metadata entries under free keys.
-/

namespace FederatedSearch

open FederatedSearch.Time

structure Record where
  id : String
  title : Option String
  description : Option String
  content : String
  tags : List String
  /-- Entries with distinct keys. -/
  metadata : List (String × String)
  mimeType : String
  createdAt : Instant

inductive Column where
  | title | description | content
deriving DecidableEq

def Column.all : List Column := [.title, .description, .content]

def Column.name : Column → String
  | .title => "title"
  | .description => "description"
  | .content => "content"

def Column.named? (name : String) : Option Column := Column.all.find? (·.name == name)

theorem Column.named_of_name (column : Column) : Column.named? column.name = some column := by
  cases column <;> decide

namespace Record

def defaultMimeType : String := "text/plain"

def plain (id content : String) (createdAt : Instant) : Record :=
  { id, title := none, description := none, content, tags := [], metadata := []
    mimeType := defaultMimeType, createdAt }

def withTitle (record : Record) (title : String) : Record := { record with title := some title }

def withDescription (record : Record) (description : String) : Record :=
  { record with description := some description }

def withTags (record : Record) (tags : List String) : Record := { record with tags }

def withMetadata (record : Record) (key value : String) : Record :=
  { record with metadata := Document.put key value record.metadata }

def withMimeType (record : Record) (mimeType : String) : Record := { record with mimeType }

def column (record : Record) : Column → Option String
  | .title => record.title
  | .description => record.description
  | .content => some record.content

/-- The text of a column given by name; other names have none. -/
def columnNamed (record : Record) (name : String) : Option String :=
  (Column.named? name).bind record.column

/-- The metadata under a key. If no entry has the key itself, the first whose key differs
only in the case of ASCII letters answers. -/
def metadataValue (record : Record) (key : String) : Option String :=
  match Document.find? key record.metadata with
  | some value => some value
  | none =>
      (record.metadata.find? fun (name, _) =>
        Text.sameIgnoringAsciiCase name.toList key.toList).map (·.2)

end Record

def Decoder.instant : Decoder Instant := fun document => (Decoder.text document).bind lenient?

namespace Record

def fieldNames : List String :=
  ["id", "title", "description", "content", "tags", "metadata", "mime_type", "created_at"]

def decode? (document : Document) : Option Record := do
  let fields ← document.fields? fieldNames
  return {
    id := ← fields.required "id" Decoder.text
    title := ← fields.optional "title" Decoder.text
    description := ← fields.optional "description" Decoder.text
    content := ← fields.required "content" Decoder.text
    tags := ← fields.withDefault "tags" (Decoder.list Decoder.text) []
    metadata := ← fields.withDefault "metadata" (Decoder.table Decoder.text) []
    mimeType := ← fields.withDefault "mime_type" Decoder.text defaultMimeType
    createdAt := ← fields.required "created_at" Decoder.instant }

def metadataDocument (metadata : List (String × String)) : Document :=
  .table (metadata.map fun (key, value) => (key, .text value))

def encode (record : Record) : Document :=
  .table [
    ("id", .text record.id),
    ("title", .ofOption .text record.title),
    ("description", .ofOption .text record.description),
    ("content", .text record.content),
    ("tags", .ofTexts record.tags),
    ("metadata", metadataDocument record.metadata),
    ("mime_type", .text record.mimeType),
    ("created_at", .text record.createdAt.zulu)]

end Record

end FederatedSearch
