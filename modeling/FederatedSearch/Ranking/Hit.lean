import FederatedSearch.QualifiedId
import FederatedSearch.Record

/-!
Hits and results. A hit is what one index of one node says about a record; a result is
what a whole search says about it.
-/

namespace FederatedSearch

structure IndexHit (Score : Type) where
  record : Record
  node : String
  index : String
  /-- The part of the record that was found, for indexes which split contents. -/
  chunk : Option String
  baseRelevance : Score

structure SearchResult (Score : Type) where
  record : Record
  /-- The node of the best hit. -/
  node : String
  relevance : Score

def SearchResult.qualifiedId {Score : Type} (result : SearchResult Score) : QualifiedId :=
  ⟨result.node, result.record.id⟩

namespace IndexHit

def fieldNames : List String :=
  ["record_id", "node_id", "index_id", "chunk_id", "base_relevance", "title", "description",
   "content", "created_at", "mime_type", "tags", "metadata"]

def decode? (document : Document) : Option (IndexHit Float32) := do
  let fields ← document.fields? fieldNames
  return {
    record := {
      id := ← fields.required "record_id" Decoder.text
      title := ← fields.optional "title" Decoder.text
      description := ← fields.optional "description" Decoder.text
      content := ← fields.required "content" Decoder.text
      tags := ← fields.required "tags" (Decoder.list Decoder.text)
      metadata := ← fields.required "metadata" (Decoder.table Decoder.text)
      mimeType := ← fields.required "mime_type" Decoder.text
      createdAt := ← fields.required "created_at" Decoder.instant }
    node := ← fields.required "node_id" Decoder.text
    index := ← fields.required "index_id" Decoder.text
    chunk := ← fields.optional "chunk_id" Decoder.text
    baseRelevance := ← fields.required "base_relevance" Decoder.float32 }

def encode (hit : IndexHit Float32) : Document :=
  .table [
    ("record_id", .text hit.record.id),
    ("node_id", .text hit.node),
    ("index_id", .text hit.index),
    ("chunk_id", .ofOption .text hit.chunk),
    ("base_relevance", .ofFloat32 hit.baseRelevance),
    ("title", .ofOption .text hit.record.title),
    ("description", .ofOption .text hit.record.description),
    ("content", .text hit.record.content),
    ("created_at", .text hit.record.createdAt.zulu),
    ("mime_type", .text hit.record.mimeType),
    ("tags", .ofTexts hit.record.tags),
    ("metadata", Record.metadataDocument hit.record.metadata)]

end IndexHit

def SearchResult.encode (result : SearchResult Float32) : Document :=
  .table [
    ("id", .text result.record.id),
    ("node_id", .text result.node),
    ("relevance", .ofFloat32 result.relevance),
    ("title", .ofOption .text result.record.title),
    ("description", .ofOption .text result.record.description),
    ("content", .text result.record.content),
    ("mime_type", .text result.record.mimeType),
    ("created_at", .text result.record.createdAt.zulu),
    ("tags", .ofTexts result.record.tags),
    ("metadata", Record.metadataDocument result.record.metadata)]

end FederatedSearch
