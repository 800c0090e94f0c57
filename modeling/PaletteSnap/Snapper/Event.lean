import PaletteSnap.Buckets

namespace PaletteSnap

inductive Stage where
  | enumerating | hueSorting | lightnessSorting | associating | remapping
deriving DecidableEq, Repr

def Stage.name : Stage → String
  | .enumerating => "enumerating colors"
  | .hueSorting => "sorting hues"
  | .lightnessSorting => "sorting lightnesses"
  | .associating => "associating to Piet palette"
  | .remapping => "remapping colors"

inductive Hint where
  | increase | decrease
deriving DecidableEq, Repr

namespace Hint

def forCount (found expected : Nat) : Hint :=
  if expected < found then .increase else .decrease

def word : Hint → String
  | .increase => "increasing"
  | .decrease => "decreasing"

end Hint

inductive Event where
  | started (stage : Stage)
  | colorsFound (count : Nat)
  | countMismatch (found expected : Nat) (hint : Hint)
  | hueMismatch (mismatch : Mismatch)
  | hueDump (families : List Family)
  | done (stage : Stage)
deriving DecidableEq, Repr

end PaletteSnap
