import FederatedSearch.Document.Decoding
import FederatedSearch.Vector.Bytes

/-!
Embeddings: vectors of length one, so that the product of two is the cosine of the angle
between them. A decoded embedding is taken as it stands.
-/

namespace FederatedSearch.Vector

structure Embedding where
  values : List Float32

namespace Embedding

def ofVector (vector : List Float32) : Except VectorError Embedding :=
  (normalize vector).map Embedding.mk

def ofBytes (bytes : List UInt8) : Except VectorError Embedding := do
  ofVector (← Vector.ofBytes bytes)

def toBytes (embedding : Embedding) : List UInt8 := Vector.toBytes embedding.values

def dimension (embedding : Embedding) : Nat := embedding.values.length

def similarity (a b : Embedding) : Except VectorError Float32 := dotProduct a.values b.values

def decode? (document : Document) : Option Embedding := do
  let fields ← document.fields? ["values"]
  return ⟨← fields.required "values" (Decoder.list Decoder.float32)⟩

end Embedding

end FederatedSearch.Vector
