import FederatedSearch.Vector.Arithmetic

/-!
Vectors as bytes: every component by the four bytes of its bit pattern, lowest first.
The codec works on the patterns themselves, so that no pattern is changed by it.
-/

namespace FederatedSearch.Vector

/-- The four bytes of a word, lowest first. -/
def wordBytes (word : UInt32) : List UInt8 :=
  [word.toUInt8, (word >>> 8).toUInt8, (word >>> 16).toUInt8, (word >>> 24).toUInt8]

def wordOfBytes (b₀ b₁ b₂ b₃ : UInt8) : UInt32 :=
  b₀.toUInt32 ||| (b₁.toUInt32 <<< 8) ||| (b₂.toUInt32 <<< 16) ||| (b₃.toUInt32 <<< 24)

def encodeWords (words : List UInt32) : List UInt8 := words.flatMap wordBytes

def readWords : List UInt8 → List UInt32
  | b₀ :: b₁ :: b₂ :: b₃ :: rest => wordOfBytes b₀ b₁ b₂ b₃ :: readWords rest
  | _ => []

def decodeWords (bytes : List UInt8) : Except VectorError (List UInt32) :=
  if bytes.length % 4 = 0 then .ok (readWords bytes) else .error (.invalidByteLength bytes.length)

def toBytes (vector : List Float32) : List UInt8 := encodeWords (vector.map Float32.toBits)

def ofBytes (bytes : List UInt8) : Except VectorError (List Float32) :=
  (decodeWords bytes).map fun words => words.map Float32.ofBits

end FederatedSearch.Vector
