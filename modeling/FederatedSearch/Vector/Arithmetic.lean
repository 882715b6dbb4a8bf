import FederatedSearch.Decimal.Precision

/-!
Vectors: their lengths, their products and the scaling to length one. The components are
numbers of one kind and lengths are computed with numbers of a wider kind; searches use
single and double precision.
-/

namespace FederatedSearch.Vector

inductive VectorError where
  | empty
  /-- All components are zero, so that there is no direction. -/
  | zero
  | notFinite
  | dimensionMismatch (expected actual : Nat)
  | invalidByteLength (length : Nat)
deriving DecidableEq

def VectorError.message : VectorError → String
  | empty => "Vector is empty"
  | zero => "Vector has zero magnitude"
  | notFinite => "Vector has a non-finite component"
  | dimensionMismatch expected actual =>
      "Dimension mismatch: expected " ++ toString expected ++ ", got " ++ toString actual
  | invalidByteLength length =>
      "Invalid byte length " ++ toString length ++ ": must be a multiple of 4"

class WideArithmetic (Wide : Type) extends Add Wide, Mul Wide, Div Wide where
  zero : Wide
  isZero : Wide → Bool
  magnitude : Wide → Wide
  larger : Wide → Wide → Wide
  squareRoot : Wide → Wide

/-- The numbers that components are, and the wider ones that they are turned into. -/
class ComponentArithmetic (Component : Type) (Wide : outParam Type) extends
    Add Component, Mul Component where
  isFinite : Component → Bool
  widen : Component → Wide
  narrow : Wide → Component
  /-- The sum of no products. -/
  emptySum : Component

instance : WideArithmetic Float where
  zero := 0
  isZero x := x == 0
  magnitude := Float.abs
  larger a b := if a < b then b else a
  squareRoot := Float.sqrt

instance : ComponentArithmetic Float32 Float where
  isFinite := Float32.isFinite
  widen := toDouble
  narrow := toSingle
  emptySum := -0.0

open WideArithmetic ComponentArithmetic

variable {Component Wide : Type} [WideArithmetic Wide] [ComponentArithmetic Component Wide]

def greatestMagnitude (vector : List Component) : Wide :=
  vector.foldl (fun greatest x => larger greatest (magnitude (widen x))) zero

def proportions (vector : List Component) : List Wide :=
  let greatest := greatestMagnitude vector
  vector.map fun x => widen x / greatest

def norm (numbers : List Wide) : Wide :=
  squareRoot (numbers.foldl (fun sum x => sum + x * x) zero)

/-- The vector of length one in the same direction. Squares are taken of the proportions, so
that neither very small nor very large components are lost. -/
def normalize (vector : List Component) : Except VectorError (List Component) :=
  if vector.isEmpty then .error .empty
  else if !vector.all isFinite then .error .notFinite
  else if isZero (greatestMagnitude vector) then .error .zero
  else
    let scaled := proportions vector
    let length := norm scaled
    .ok (scaled.map fun x => narrow (x / length))

def dot (a b : List Component) : Component :=
  (a.zip b).foldl (fun total (x, y) => total + x * y) emptySum

def dotProduct (a b : List Component) : Except VectorError Component :=
  if a.length = b.length then .ok (dot a b)
  else .error (.dimensionMismatch a.length b.length)

def cosineSimilarity (a b : List Component) : Except VectorError Component := do
  dotProduct (← normalize a) (← normalize b)

/-- The length of a vector. With an infinite or undefined component there is nothing to scale. -/
def length (vector : List Float32) : Float32 :=
  if !vector.all Float32.isFinite then
    (vector.foldl (fun sum x => sum + x * x) (-0.0 : Float32)).sqrt
  else
    let greatest := greatestMagnitude vector
    if greatest == 0 then 0
    else toSingle (greatest * norm (proportions vector))

end FederatedSearch.Vector
