/-!
# The range of doubles

No number with a fraction is ever used, so all that is needed of a double is whether a number is too
great for one. A double has 53 binary digits, and numbers from `doubleBound` on are so great that
the nearest double is infinite: they are at least half a step above the greatest.
-/

namespace BluetoothDiscovery.Text

/-- The least number whose nearest double is infinite. -/
def doubleBound : Nat := 1 <<< 1024 - 1 <<< 970

/-- Whether `digits * 10 ^ scale` is so great that the nearest double would be infinite. Numbers
that are far from the limit are told by their size alone. -/
def overflowsDouble (digits : Nat) (scale : Int) : Bool :=
  if digits = 0 then false
  else
    let size := scale + (Nat.toDigits 10 digits).length
    if size > 400 then true
    else if size < 300 then false
    else
      let value := if 0 ≤ scale then digits * Nat.pow 10 scale.toNat
        else digits / Nat.pow 10 (-scale).toNat
      decide (doubleBound ≤ value)

/-- The double nearest to a natural number that is not beyond the doubles: its highest 53 binary
digits, rounded by the rest, where a half goes to the even neighbour. -/
def nearestDouble (n : Nat) : Nat :=
  let low := n.log2 + 1 - 53
  let high := n >>> low
  let rest := n - high <<< low
  let up := 1 <<< low < 2 * rest ∨ (1 <<< low = 2 * rest ∧ high % 2 = 1)
  (if up then high + 1 else high) <<< low

end BluetoothDiscovery.Text
