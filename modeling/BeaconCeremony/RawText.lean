/-!
# Raw texts

Documents can write halves of surrogate pairs, which are no characters.  A raw text may have such
halves among its characters; every string is one that has none.  It is kept as strings with the
halves between them, so that texts without halves are handled as the strings that they are.
-/

namespace BeaconCeremony

/-- Half of a surrogate pair. -/
structure Half where
  /-- Its number among all halves. -/
  index : Fin 2048
deriving DecidableEq

namespace Half

/-- The code point of a half. -/
def point (half : Half) : Nat := 0xd800 + half.index

/-- The half with a code point, if there is one. -/
def ofPoint? (point : Nat) : Option Half :=
  if bounds : 0xd800 ≤ point ∧ point < 0xe000 then some ⟨⟨point - 0xd800, by omega⟩⟩ else none

@[simp]
theorem ofPoint?_point (half : Half) : ofPoint? half.point = some half := by
  have bound := half.index.isLt
  have bounds : 0xd800 ≤ half.point ∧ half.point < 0xe000 := by simp only [point]; omega
  simp only [ofPoint?, dif_pos bounds]
  simp [point]

theorem ofPoint?_toNat (character : Char) : ofPoint? character.toNat = none := by
  have valid : character.toNat < 0xd800 ∨ 0xdfff < character.toNat ∧ character.toNat < 0x110000 :=
    character.valid
  exact dif_neg (by omega)

end Half

/-- A character or half of a surrogate pair. -/
inductive Mark
  /-- A character. -/
  | character (value : Char)
  /-- Half of a pair. -/
  | half (value : Half)
deriving DecidableEq

namespace Mark

/-- The code point of a mark. -/
def point : Mark → Nat
  | .character value => value.toNat
  | .half value => value.point

/-- The mark with a code point. -/
def ofPoint (point : Nat) : Mark :=
  match Half.ofPoint? point with
  | some value => .half value
  | none => .character (Char.ofNat point)

@[simp]
theorem ofPoint_point (mark : Mark) : ofPoint mark.point = mark := by
  cases mark with
  | character value => simp [ofPoint, point, Half.ofPoint?_toNat]
  | half value => simp [ofPoint, point]

end Mark

/-- A text of characters and halves of surrogate pairs. -/
structure RawText where
  /-- The characters before the first half. -/
  start : String
  /-- The halves, each with the characters between it and the next one. -/
  rest : List (Half × String) := []
deriving DecidableEq

namespace RawText

/-- A string as a text. -/
@[coe]
def ofString (text : String) : RawText := ⟨text, []⟩

instance : Coe String RawText := ⟨ofString⟩

/-- The text as a string, unless there are halves in it. -/
def string? (text : RawText) : Option String :=
  match text.rest with
  | [] => some text.start
  | _ => none

/-- Some characters and then halves with the characters after them, followed by a text. -/
def extend (start : String) : List (Half × String) → RawText → RawText
  | [], text => ⟨start ++ text.start, text.rest⟩
  | (half, part) :: rest, text =>
    let more := extend part rest text
    ⟨start, (half, more.start) :: more.rest⟩

/-- One text after another. -/
def append (left right : RawText) : RawText := extend left.start left.rest right

instance : Append RawText := ⟨append⟩

/-- Texts with another one between each two of them. -/
def intercalate (separator : RawText) : List RawText → RawText
  | [] => ""
  | [text] => text
  | text :: rest => text ++ separator ++ intercalate separator rest

/-- Whether there is nothing in a text. -/
def isEmpty (text : RawText) : Bool := text.start.isEmpty && text.rest.isEmpty

/-- The marks of a text. -/
def marks (text : RawText) : List Mark :=
  text.start.toList.map .character ++
    text.rest.flatMap fun (half, part) => .half half :: part.toList.map .character

/-- The number of marks. -/
def length (text : RawText) : Nat :=
  text.rest.foldl (fun count entry => count + 1 + entry.2.length) text.start.length

/-- The characters before the first half among some marks, and each half with the characters after
it. -/
def splitHalves : List Mark → List Char × List (Half × List Char)
  | [] => ([], [])
  | .character value :: marks =>
    let (characters, rest) := splitHalves marks
    (value :: characters, rest)
  | .half value :: marks =>
    let (characters, rest) := splitHalves marks
    ([], (value, characters) :: rest)

/-- The text with some marks. -/
def ofMarks (marks : List Mark) : RawText :=
  let (characters, rest) := splitHalves marks
  ⟨String.ofList characters, rest.map fun (half, part) => (half, String.ofList part)⟩

/-- The code points of a text. -/
def points (text : RawText) : List Nat := text.marks.map Mark.point

/-- A text with every string between halves changed. -/
def mapStrings (change : String → String) (text : RawText) : RawText :=
  ⟨change text.start, text.rest.map fun (half, part) => (half, change part)⟩

@[simp]
theorem string?_coe (text : String) : string? text = some text := rfl

@[simp]
theorem marks_coe (text : String) : marks text = text.toList.map .character := by
  simp [marks, ofString]

theorem marks_extend (start : String) (rest : List (Half × String)) (text : RawText) :
    (extend start rest text).marks = marks ⟨start, rest⟩ ++ text.marks := by
  induction rest generalizing start with
  | nil => simp [extend, marks]
  | cons entry rest ih =>
    have more := ih entry.2
    simp only [marks] at more
    simp [extend, marks, more]

theorem marks_append (left right : RawText) : (left ++ right).marks = left.marks ++ right.marks :=
  marks_extend left.start left.rest right

theorem splitHalves_characters (characters : List Char) (marks : List Mark) :
    splitHalves (characters.map .character ++ marks) =
      (characters ++ (splitHalves marks).1, (splitHalves marks).2) := by
  induction characters with
  | nil => rfl
  | cons value characters ih => simp [splitHalves, ih]

theorem splitHalves_halves (rest : List (Half × String)) :
    splitHalves (rest.flatMap fun entry => .half entry.1 :: entry.2.toList.map .character) =
      ([], rest.map fun entry => (entry.1, entry.2.toList)) := by
  induction rest with
  | nil => rfl
  | cons entry rest ih =>
    simp only [List.flatMap_cons, List.cons_append, splitHalves, splitHalves_characters, ih]
    simp

@[simp]
theorem ofMarks_marks (text : RawText) : ofMarks text.marks = text := by
  simp [ofMarks, marks, splitHalves_characters, splitHalves_halves, Function.comp_def]

end RawText
end BeaconCeremony
