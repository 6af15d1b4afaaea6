/-!
# Ranges of characters

Tables of characters are sorted arrays of ranges of code points, in which a code point is found by
halving.
-/

namespace BeaconCeremony
namespace Text

/-- Whether some range from the place `first` up to `first + count` holds the code point; the
ranges are sorted, so each step halves their number. -/
def inRanges (ranges : Array (Nat × Nat)) (point first count : Nat) : Bool :=
  if count = 0 then false
  else
    let middle := first + count / 2
    let (low, high) := ranges.getD middle (0, 0)
    if point < low then inRanges ranges point first (count / 2)
    else if high < point then inRanges ranges point (middle + 1) (count - count / 2 - 1)
    else true
termination_by count
decreasing_by all_goals omega

/-- Whether sorted ranges hold a character. -/
def isInRanges (ranges : Array (Nat × Nat)) (character : Char) : Bool :=
  inRanges ranges character.toNat 0 ranges.size

end Text
end BeaconCeremony
