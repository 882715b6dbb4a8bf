/-!
Sets of characters given as closed ranges of code points, the form in which the
tables of the Unicode character properties of this library are written.
-/

namespace FederatedSearch.Text

def inRanges (ranges : List (Nat × Nat)) (c : Char) : Bool :=
  ranges.any fun (first, last) => first ≤ c.toNat && c.toNat ≤ last

end FederatedSearch.Text
