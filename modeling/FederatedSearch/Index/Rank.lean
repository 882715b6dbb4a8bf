import FederatedSearch.Index.Phrase

/-!
Ranks: how well a row answers a query. A phrase counts the more, the fewer rows have it
and the more often it stands in this one, measured against the length of the row; the
better a row answers, the lower is its rank.
-/

namespace FederatedSearch.Index

/-- How soon further occurrences of a phrase stop to count. -/
def saturation : Float := 1.2

/-- How much the length of a row counts. -/
def lengthEffect : Float := 0.75

def averageLength (rows : List SplitRow) : Float :=
  Float.ofNat (total (rows.map SplitRow.length)) / Float.ofNat rows.length

def rarity (rowCount having : Nat) : Float :=
  let rare := Float.log
    ((Float.ofNat (rowCount - having) + 0.5) / (Float.ofNat having + 0.5))
  if rare ≤ 0 then 1e-6 else rare

def occurrenceWeight (frequency length : Nat) (average : Float) : Float :=
  let frequency := Float.ofNat frequency
  frequency * (saturation + 1) /
    (frequency + saturation * (1 - lengthEffect + lengthEffect * Float.ofNat length / average))

/-- The rank of a row by how often it has phrases of a rarity. -/
def rankOf (split : SplitRow) (average : Float) (counted : List (Float × Nat)) : Float :=
  -1 * counted.foldl (fun sum (rare, frequency) =>
    sum + rare * occurrenceWeight frequency split.length average) 0

end FederatedSearch.Index
