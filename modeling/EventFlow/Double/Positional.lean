import EventFlow.Double.Shortest

/-!
# Positional notation

A double in positional notation: its shortest digits with as many zeros as it
takes, no exponent, and no point when nothing stands behind it.
-/

namespace EventFlow.Double

/-- The double in positional notation. -/
def positionalText : Double → String
  | .nan => "NaN"
  | .infinite negative => if negative then "-inf" else "inf"
  | .finite negative m e =>
    let (whole, fraction) := if m = 0 then (['0'], []) else (shortest m e).positional
    let magnitude := if fraction = [] then whole else whole ++ '.' :: fraction
    String.ofList (if negative then '-' :: magnitude else magnitude)

end EventFlow.Double
