namespace PaletteSnap.Text

def digitValue? (base : Nat) (c : Char) : Option Nat :=
  let value :=
    if '0' ≤ c ∧ c ≤ '9' then c.toNat - '0'.toNat
    else if 'a' ≤ c ∧ c ≤ 'z' then c.toNat - 'a'.toNat + 10
    else if 'A' ≤ c ∧ c ≤ 'Z' then c.toNat - 'A'.toNat + 10
    else base
  if value < base then some value else none

def digits? (base : Nat) (text : List Char) : Option Nat :=
  if text = [] then none
  else text.foldlM (fun n c => (digitValue? base c).map (base * n + ·)) 0

def natural? (limit : Nat) (text : List Char) : Option Nat := do
  let n ← digits? 10 (match text with
    | '+' :: rest => rest
    | _ => text)
  if n ≤ limit then some n else none

def maxWord : Nat := 0xFFFFFFFF

end PaletteSnap.Text
