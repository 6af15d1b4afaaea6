import BeaconCeremony.RawText

/-!
# Blank characters

The blank characters of Unicode, and texts without the blanks around them.
-/

namespace BeaconCeremony
namespace Text

/-- Whether a character is blank: a space, a tab, a line break or another separator. -/
def isBlank (character : Char) : Bool :=
  let point := character.toNat
  (0x09 ≤ point && point ≤ 0x0d) || (0x1c ≤ point && point ≤ 0x20) || point == 0x85 ||
    point == 0xa0 || point == 0x1680 || (0x2000 ≤ point && point ≤ 0x200a) || point == 0x2028 ||
    point == 0x2029 || point == 0x202f || point == 0x205f || point == 0x3000

/-- The characters without the blanks at both ends. -/
def trim (characters : List Char) : List Char :=
  ((characters.dropWhile isBlank).reverse.dropWhile isBlank).reverse

/-- Whether a text has something in it that is not blank. -/
def hasInk (text : RawText) : Bool := !text.rest.isEmpty || text.start.toList.any (!isBlank ·)

end Text
end BeaconCeremony
