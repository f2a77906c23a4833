/-!
# Ascending arrays

* `Ascending.lastUpTo?` : the last element whose key is not above a number, by bisection.
-/

namespace StepEngine.Text.Ascending

/-- The last element with a key up to `n` among those from `low` up to, not including, `high`. -/
def search (key : α → Nat) (xs : Array α) (n : Nat) : (fuel low high : Nat) → Option α
  | 0, _, _ => none
  | fuel + 1, low, high =>
    if high ≤ low then none
    else
      let middle := (low + high) / 2
      match xs[middle]? with
      | none => none
      | some x =>
        if n < key x then search key xs n fuel low middle
        else search key xs n fuel (middle + 1) high <|> some x

/-- The last element with a key up to `n`, of an array whose keys ascend. Each step halves what is
left of the array. -/
def lastUpTo? (key : α → Nat) (xs : Array α) (n : Nat) : Option α :=
  search key xs n (xs.size.log2 + 2) 0 xs.size

end StepEngine.Text.Ascending
