/-!
Numbers of single and of double precision. A number of one precision becomes the number of the
other that is nearest to it; every number of single precision is one of double precision.
-/

namespace FederatedSearch

open Float.Model (Format UnpackedFloat)

/-- The number of a format that is nearest to a number. -/
def nearest (format : Format) : UnpackedFloat → UnpackedFloat
  | .finite sign mantissa exponent _ => .round format sign mantissa exponent
  | other => other

/-- The number of double precision that a number of single precision is. -/
def toDouble (x : Float32) : Float := .ofModel (.pack (nearest .binary64 x.toModel.unpack))

/-- The number of single precision that is nearest to one of double precision. -/
def toSingle (x : Float) : Float32 := .ofModel (.pack (nearest .binary32 x.toModel.unpack))

end FederatedSearch
