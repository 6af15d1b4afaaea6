import BeaconCeremony.Bytes.Hex
import BeaconCeremony.Text.Printable

/-!
# Quoted texts

The quoted form in which messages show texts and byte strings.  The quote is single unless the
content has single quotes and no double ones; backslashes, that quote, characters that would not
show and halves of surrogate pairs are escaped.
-/

namespace BeaconCeremony
namespace Text

/-- The quote around some content: double only if that saves escapes. -/
def quoteFor (content : List Mark) : Char :=
  if content.contains (.character '\'') && !content.contains (.character '"') then '"' else '\''

/-- The last `width` hexadecimal digits of a number. -/
def hexDigits : Nat → Nat → List Char
  | 0, _ => []
  | width + 1, value => hexDigits width (value / 16) ++ [Hex.digitChar (value % 16)]

/-- The numeric escape of a code point: two, four or eight hexadecimal digits. -/
def numericEscape (point : Nat) : List Char :=
  if point < 0x100 then '\\' :: 'x' :: hexDigits 2 point
  else if point < 0x10000 then '\\' :: 'u' :: hexDigits 4 point
  else '\\' :: 'U' :: hexDigits 8 point

/-- How a character stands between the quotes, given the quote and whether it shows. -/
def escapeWith (quote : Char) (shows : Bool) (character : Char) : List Char :=
  if character = '\\' ∨ character = quote then ['\\', character]
  else if character = '\t' then ['\\', 't']
  else if character = '\n' then ['\\', 'n']
  else if character = '\r' then ['\\', 'r']
  else if shows then [character]
  else numericEscape character.toNat

/-- How a mark stands between the quotes, where `shows` tells which characters stand for
themselves. -/
def escapeMark (quote : Char) (shows : Char → Bool) : Mark → List Char
  | .character value => escapeWith quote (shows value) value
  | .half value => numericEscape value.point

/-- The content between its quotes. -/
def quoteWith (shows : Char → Bool) (content : List Mark) : List Char :=
  let quote := quoteFor content
  quote :: content.flatMap (escapeMark quote shows) ++ [quote]

/-- A text in quotes. -/
def quoted (text : RawText) : String := String.ofList (quoteWith isPrintable text.marks)

/-- A byte string in quotes, with a `b` before them; bytes show as ASCII characters. -/
def quotedBytes (bytes : Bytes) : String :=
  let content := bytes.map fun byte => Mark.character (Char.ofNat byte.toNat)
  let shows := fun character : Char => 0x20 ≤ character.toNat && character.toNat < 0x7f
  String.ofList ('b' :: quoteWith shows content)

end Text
end BeaconCeremony
