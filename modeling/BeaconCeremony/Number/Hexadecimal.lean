import BeaconCeremony.Bytes.Hex
import BeaconCeremony.Number.Binary64
import BeaconCeremony.Text.Quoted

/-!
# Floating-point numbers in hexadecimal notation

The exact text of a number: its significand in hexadecimal digits and a power of two.
-/

namespace BeaconCeremony
namespace Binary64

/-- The least significand of a number that is not below the normal range. -/
def leastNormal : Nat := 0x10000000000000

/-- The hexadecimal text of a number. -/
def hexText : Binary64 → String
  | .nan => "nan"
  | .infinite negative => if negative then "-inf" else "inf"
  | .finite negative significand exponent =>
    let isNormal := leastNormal ≤ significand
    let power := exponent + 52
    let fraction := String.ofList (Text.hexDigits 13 (significand % leastNormal))
    let unsigned :=
      if significand = 0 then "0x0.0p+0"
      else (if isNormal then "0x1." else "0x0.") ++ fraction ++ "p" ++
        (if power < 0 then "-" else "+") ++ toString power.natAbs
    if negative then "-" ++ unsigned else unsigned

end Binary64
end BeaconCeremony
