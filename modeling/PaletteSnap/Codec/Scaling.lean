namespace PaletteSnap.Scaling

def roundEven (num den : Nat) : Nat :=
  let q := num / den
  let twice := 2 * (num % den)
  if den < twice ∨ (twice = den ∧ q % 2 = 1) then q + 1 else q

def significant (num den : Nat) : Nat × Nat :=
  let fits (k : Nat) : Bool := num * Nat.pow 2 k / den < 0x1000000
  let k := ((List.range 64).reverse.find? fits).getD 0
  (roundEven (num * Nat.pow 2 k) den, k)

-- The factor and the product are each rounded to 24 significant bits, as in single precision.
def scale (newMax oldMax sample : Nat) : Nat :=
  let (factor, k) := significant newMax oldMax
  let (product, l) := significant (sample * factor) (Nat.pow 2 k)
  min newMax ((2 * product + Nat.pow 2 l) / Nat.pow 2 (l + 1))

end PaletteSnap.Scaling
