/-!
Sets of code points, written as closed ranges.
-/

namespace DeviceFleet.Text

def inRanges (ranges : List (Nat × Nat)) (n : Nat) : Bool :=
  ranges.any fun r => r.1 ≤ n && n ≤ r.2

end DeviceFleet.Text
