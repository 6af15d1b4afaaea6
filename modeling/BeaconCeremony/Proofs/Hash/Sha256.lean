import BeaconCeremony.Hash.Sha256
import BeaconCeremony.Proofs.Bytes.Number
import BeaconCeremony.Proofs.Bytes.Pieces
import Mathlib.Data.List.GetD
import Mathlib.Tactic.IntervalCases

/-!
# SHA-256 by numbers

The words of SHA-256 are numbers below `2 ^ 32`.  Here the hash of 32 bytes is computed with these
numbers: sixteen scheduled words move on by one from round to round, and a word is rotated by
writing it twice in a row.  Operations on numbers are evaluated much faster than those on words, so
that states far from the start of a chain can be computed within a proof.  They are applied by their
names, which spares the evaluation to look them up.
-/

namespace BeaconCeremony
namespace Sha256

/-- The eight working words as numbers. -/
structure Numbers where
  /-- One number for each word. -/
  (a b c d e f g h : Nat)
deriving DecidableEq

/-- Sixteen scheduled words in a row as numbers. -/
structure Window where
  /-- One number for each word, the first of them for the next round. -/
  (w0 w1 w2 w3 w4 w5 w6 w7 w8 w9 w10 w11 w12 w13 w14 w15 : Nat)

/-- A word twice in a row. -/
def doubled (word : Nat) : Nat := Nat.mul 0x100000001 word

/-- Two rotations of a word and what else is made of it, put together. -/
def mixed (word first second other : Nat) : Nat :=
  ((((doubled word).shiftRight first).xor ((doubled word).shiftRight second)).xor other).mod
    0x100000000

/-- The sixteen words that start one word later. -/
def Window.next (window : Window) : Window where
  w0 := window.w1
  w1 := window.w2
  w2 := window.w3
  w3 := window.w4
  w4 := window.w5
  w5 := window.w6
  w6 := window.w7
  w7 := window.w8
  w8 := window.w9
  w9 := window.w10
  w10 := window.w11
  w11 := window.w12
  w12 := window.w13
  w13 := window.w14
  w14 := window.w15
  w15 :=
    let mixedNear := mixed window.w14 17 19 (window.w14.shiftRight 10)
    let mixedFar := mixed window.w1 7 18 (window.w1.shiftRight 3)
    (((mixedNear.add window.w9).add mixedFar).add window.w0).mod 0x100000000

namespace Numbers

/-- One round with its constant and its scheduled word. -/
def round (numbers : Numbers) (constant word : Nat) : Numbers :=
  let mixedE := mixed numbers.e 6 11 ((doubled numbers.e).shiftRight 25)
  let choice := (numbers.e.land numbers.f).xor ((Nat.sub 0xffffffff numbers.e).land numbers.g)
  let fromTail := (((numbers.h.add mixedE).add choice).add constant).add word
  let mixedA := mixed numbers.a 2 13 ((doubled numbers.a).shiftRight 22)
  let majority := ((numbers.a.land numbers.b).xor (numbers.a.land numbers.c)).xor
    (numbers.b.land numbers.c)
  { a := (fromTail.add (mixedA.add majority)).mod 0x100000000
    b := numbers.a
    c := numbers.b
    d := numbers.c
    e := (numbers.d.add fromTail).mod 0x100000000
    f := numbers.e
    g := numbers.f
    h := numbers.g }

/-- The rounds from the first word of a window on, one for each constant. -/
def rounds : List Nat → Window → Numbers → Numbers
  | [], _, numbers => numbers
  | constant :: rest, window, numbers =>
    rounds rest window.next (numbers.round constant window.w0)

/-- The words added to others. -/
def sum (left right : Numbers) : Numbers where
  a := (left.a.add right.a).mod 0x100000000
  b := (left.b.add right.b).mod 0x100000000
  c := (left.c.add right.c).mod 0x100000000
  d := (left.d.add right.d).mod 0x100000000
  e := (left.e.add right.e).mod 0x100000000
  f := (left.f.add right.f).mod 0x100000000
  g := (left.g.add right.g).mod 0x100000000
  h := (left.h.add right.h).mod 0x100000000

end Numbers

namespace State

/-- The working words as numbers. -/
def numbers (state : State) : Numbers where
  a := state.a.toNat
  b := state.b.toNat
  c := state.c.toNat
  d := state.d.toNat
  e := state.e.toNat
  f := state.f.toNat
  g := state.g.toNat
  h := state.h.toNat

/-- The working words in a row. -/
def words (state : State) : List UInt32 :=
  [state.a, state.b, state.c, state.d, state.e, state.f, state.g, state.h]

/-- The hash of the 32 bytes of a state. -/
def next (state : State) : State :=
  compress initial (state.words ++ [0x80000000, 0, 0, 0, 0, 0, 0, 256])

end State

/-- The words of the hash of 32 bytes with the given words. -/
def Numbers.next (numbers : Numbers) : Numbers :=
  State.initial.numbers.sum <| rounds (roundConstants.map UInt32.toNat)
    ⟨numbers.a, numbers.b, numbers.c, numbers.d, numbers.e, numbers.f, numbers.g, numbers.h,
      0x80000000, 0, 0, 0, 0, 0, 0, 256⟩ State.initial.numbers

/-! ## Words -/

/-- A word is rotated by cutting 32 bits out of it and itself. -/
theorem toNat_rotateRight (word : UInt32) {amount : Nat} (amount_pos : 0 < amount)
    (amount_lt : amount < 32) :
    (rotateRight word (UInt32.ofNat amount)).toNat =
      doubled word.toNat >>> amount % 2 ^ 32 := by
  have word_lt : word.toNat < 2 ^ 32 := word.toNat_lt
  have doubled_eq : doubled word.toNat = word.toNat <<< 32 ||| word.toNat := by
    rw [← Nat.shiftLeft_add_eq_or_of_lt word_lt, Nat.shiftLeft_eq, ← Nat.mul_succ, Nat.mul_comm]
    rfl
  have right_eq : (UInt32.ofNat amount).toNat = amount := by
    rw [UInt32.toNat_ofNat', Nat.mod_eq_of_lt (by omega)]
  have left_eq : (32 - UInt32.ofNat amount).toNat = 32 - amount := by
    rw [UInt32.toNat_sub_of_le, right_eq]
    · rfl
    · rw [UInt32.le_iff_toNat_le, right_eq]
      exact amount_lt.le
  rw [doubled_eq, rotateRight, UInt32.toNat_or, UInt32.toNat_shiftRight, UInt32.toNat_shiftLeft,
    right_eq, left_eq, Nat.mod_eq_of_lt amount_lt,
    Nat.mod_eq_of_lt (Nat.sub_lt (by decide) amount_pos)]
  refine Nat.eq_of_testBit_eq fun position => ?_
  simp only [Nat.testBit_or, Nat.testBit_shiftRight, Nat.testBit_mod_two_pow,
    Nat.testBit_shiftLeft]
  by_cases inside : position < 32
  · have wraps : (amount + position ≥ 32) = (position ≥ 32 - amount) := propext (by omega)
    have wrapped : amount + position - 32 = position - (32 - amount) := by omega
    simp [inside, wraps, wrapped, Bool.or_comm]
  · have beyond : word.toNat.testBit (amount + position) = false :=
      Nat.testBit_lt_two_pow (word_lt.trans_le (Nat.pow_le_pow_right (by decide) (by omega)))
    simp [inside, beyond]

theorem toNat_mixed (word other : UInt32) {first second : Nat} {number : Nat}
    (first_fits : 0 < first ∧ first < 32) (second_fits : 0 < second ∧ second < 32)
    (number_eq : number % 2 ^ 32 = other.toNat) :
    (rotateRight word (UInt32.ofNat first) ^^^ rotateRight word (UInt32.ofNat second) ^^^
      other).toNat = mixed word.toNat first second number := by
  rw [UInt32.toNat_xor, UInt32.toNat_xor, toNat_rotateRight word first_fits.1 first_fits.2,
    toNat_rotateRight word second_fits.1 second_fits.2, ← number_eq, ← Nat.xor_mod_two_pow,
    ← Nat.xor_mod_two_pow]
  rfl

/-- Three rotations of a word. -/
theorem toNat_rotations (word : UInt32) {first second third : Nat}
    (first_fits : 0 < first ∧ first < 32) (second_fits : 0 < second ∧ second < 32)
    (third_fits : 0 < third ∧ third < 32) :
    (rotateRight word (UInt32.ofNat first) ^^^ rotateRight word (UInt32.ofNat second) ^^^
      rotateRight word (UInt32.ofNat third)).toNat =
      mixed word.toNat first second ((doubled word.toNat).shiftRight third) :=
  toNat_mixed word _ first_fits second_fits
    (toNat_rotateRight word third_fits.1 third_fits.2).symm

/-- Two rotations of a word, and the word without its last bits. -/
theorem toNat_shifts (word : UInt32) {first second third : Nat}
    (first_fits : 0 < first ∧ first < 32) (second_fits : 0 < second ∧ second < 32)
    (third_lt : third < 32) :
    (rotateRight word (UInt32.ofNat first) ^^^ rotateRight word (UInt32.ofNat second) ^^^
      (word >>> UInt32.ofNat third)).toNat =
      mixed word.toNat first second (word.toNat.shiftRight third) := by
  refine toNat_mixed word _ first_fits second_fits ?_
  have shifted : (word >>> UInt32.ofNat third).toNat = word.toNat >>> third := by
    rw [UInt32.toNat_shiftRight, UInt32.toNat_ofNat', Nat.mod_mod_of_dvd _ (by decide),
      Nat.mod_eq_of_lt third_lt]
  rw [shifted]
  exact Nat.mod_eq_of_lt ((Nat.shiftRight_le _ _).trans_lt word.toNat_lt)

/-! ## Rounds -/

theorem numbers_round (state : State) (constant word : UInt32) :
    (round state constant word).numbers = state.numbers.round constant.toNat word.toNat := by
  have mixedE := @toNat_rotations state.e 6 11 25 (by decide) (by decide) (by decide)
  have mixedA := @toNat_rotations state.a 2 13 22 (by decide) (by decide) (by decide)
  -- The words are reduced after each addition, the numbers once at the end.
  simp only [State.numbers, Numbers.round, ← mixedE, ← mixedA, round, Numbers.mk.injEq,
    UInt32.toNat_add, UInt32.toNat_xor, UInt32.toNat_and, UInt32.toNat_not, Nat.mod_add_mod,
    Nat.add_mod_mod, true_and, and_true]
  exact ⟨rfl, rfl⟩

theorem numbers_sum (left right : State) :
    State.numbers ⟨left.a + right.a, left.b + right.b, left.c + right.c, left.d + right.d,
      left.e + right.e, left.f + right.f, left.g + right.g, left.h + right.h⟩ =
      left.numbers.sum right.numbers := by
  simp only [State.numbers, UInt32.toNat_add]
  rfl

/-! ## The schedule -/

/-- The word that is scheduled after the sixteen from `position` on. -/
def following (words : Array UInt32) (position : Nat) : UInt32 :=
  let near := words.getD (position + 14) 0
  let far := words.getD (position + 1) 0
  (rotateRight near 17 ^^^ rotateRight near 19 ^^^ (near >>> 10)) + words.getD (position + 9) 0 +
    (rotateRight far 7 ^^^ rotateRight far 18 ^^^ (far >>> 3)) + words.getD position 0

/-- Each word but the first sixteen follows those before it. -/
def Recurs (words : Array UInt32) : Prop :=
  ∀ position, position + 16 < words.size →
    words.getD (position + 16) 0 = following words position

theorem getD_push_of_lt {words : Array UInt32} {position : Nat} (inside : position < words.size)
    (word : UInt32) : (words.push word).getD position 0 = words.getD position 0 := by
  simp [Array.getD, inside, Nat.lt_succ_of_lt inside, Array.getElem_push_lt inside]

theorem getD_push_size (words : Array UInt32) (word : UInt32) :
    (words.push word).getD words.size 0 = word := by
  simp [Array.getD]

theorem Recurs.push {words : Array UInt32} {start : Nat} (recurs : Recurs words)
    (size_eq : words.size = start + 16) : Recurs (words.push (following words start)) := by
  intro position within
  rw [Array.size_push] at within
  have same : following (words.push (following words start)) position =
      following words position := by
    simp only [following]
    rw [getD_push_of_lt (by omega), getD_push_of_lt (by omega), getD_push_of_lt (by omega),
      getD_push_of_lt (by omega)]
  rw [same]
  rcases Nat.lt_succ_iff_lt_or_eq.mp within with earlier | last
  · rw [getD_push_of_lt earlier, recurs position earlier]
  · obtain rfl : position = start := by omega
    rw [last, getD_push_size]

/-- The words with the one that is scheduled next. -/
def extend (words : Array UInt32) (position : Nat) : Array UInt32 :=
  let near := words.getD (position - 2) 0
  let far := words.getD (position - 15) 0
  let mixedNear := rotateRight near 17 ^^^ rotateRight near 19 ^^^ (near >>> 10)
  let mixedFar := rotateRight far 7 ^^^ rotateRight far 18 ^^^ (far >>> 3)
  words.push (mixedNear + words.getD (position - 7) 0 + mixedFar + words.getD (position - 16) 0)

theorem extend_add (words : Array UInt32) (start : Nat) :
    extend words (start + 16) = words.push (following words start) := rfl

theorem foldl_extend {words : Array UInt32} {start : Nat} (recurs : Recurs words)
    (size_eq : words.size = start + 16) (count : Nat) :
    let extended := (List.range' (start + 16) count).foldl extend words
    extended.size = start + 16 + count ∧ Recurs extended ∧
      ∀ position < start + 16, extended.getD position 0 = words.getD position 0 := by
  induction count generalizing words start with
  | zero => exact ⟨size_eq, recurs, fun _ _ => rfl⟩
  | succ count ih =>
      obtain ⟨size_extended, extended_recurs, same⟩ := ih (recurs.push size_eq)
        ((Array.size_push _).trans (congrArg Nat.succ size_eq) : _ = start + 1 + 16)
      rw [List.range'_succ, List.foldl_cons, extend_add]
      refine ⟨size_extended.trans (by omega), extended_recurs, fun position inside => ?_⟩
      exact (same position (Nat.lt_succ_of_lt inside)).trans
        (getD_push_of_lt (size_eq ▸ inside) (following words start))

/-- The schedule of a block starts with its words, and each further word follows those before it. -/
theorem recurs_schedule {block : List UInt32} (length_eq : block.length = 16) :
    (schedule block).size = 64 ∧ Recurs (schedule block) ∧
      ∀ position < 16, (schedule block).getD position 0 = block.getD position 0 := by
  have block_size : block.toArray.size = 0 + 16 := List.size_toArray.trans length_eq
  have recurs : Recurs block.toArray := fun position within => by omega
  obtain ⟨size_eq, schedule_recurs, same⟩ := foldl_extend recurs block_size 48
  refine ⟨size_eq, schedule_recurs, fun position inside => (same position inside).trans ?_⟩
  simp

/-! ## Windows -/

/-- The words of a window in a row. -/
def Window.words (window : Window) : List Nat :=
  [window.w0, window.w1, window.w2, window.w3, window.w4, window.w5, window.w6, window.w7,
    window.w8, window.w9, window.w10, window.w11, window.w12, window.w13, window.w14, window.w15]

/-- The window shows the words from `position` on, as far as there are any. -/
def Shows (words : Array UInt32) (position : Nat) (window : Window) : Prop :=
  ∀ offset < 16, position + offset < words.size →
    window.words.getD offset 0 = (words.getD (position + offset) 0).toNat

theorem toNat_following (words : Array UInt32) (position : Nat) :
    (following words position).toNat =
      (mixed (words.getD (position + 14) 0).toNat 17 19
          ((words.getD (position + 14) 0).toNat.shiftRight 10) +
        (words.getD (position + 9) 0).toNat +
        mixed (words.getD (position + 1) 0).toNat 7 18
          ((words.getD (position + 1) 0).toNat.shiftRight 3) +
        (words.getD position 0).toNat) % 2 ^ 32 := by
  have near_eq := @toNat_shifts (words.getD (position + 14) 0) 17 19 10 (by decide) (by decide)
    (by decide)
  have far_eq := @toNat_shifts (words.getD (position + 1) 0) 7 18 3 (by decide) (by decide)
    (by decide)
  rw [← near_eq, ← far_eq]
  simp only [following, UInt32.toNat_add, Nat.mod_add_mod]
  rfl

theorem Shows.next {words : Array UInt32} {position : Nat} {window : Window}
    (shows : Shows words position window) (recurs : Recurs words) :
    Shows words (position + 1) window.next := by
  intro offset offset_lt within
  rcases Nat.lt_succ_iff_lt_or_eq.mp offset_lt with inside | rfl
  · have moved : window.next.words.getD offset 0 = window.words.getD (offset + 1) 0 := by
      interval_cases offset <;> rfl
    rw [moved, Nat.add_assoc, Nat.add_comm 1]
    exact shows (offset + 1) (by omega) (by omega)
  · have last : position + 16 < words.size := by omega
    have first_eq : window.words.getD 0 0 = (words.getD position 0).toNat :=
      shows 0 (by decide) (by omega)
    rw [Nat.add_assoc, recurs position last, toNat_following, ← first_eq,
      ← shows 1 (by decide) (by omega), ← shows 9 (by decide) (by omega),
      ← shows 14 (by decide) (by omega)]
    rfl

theorem numbers_rounds {words : Array UInt32} (recurs : Recurs words) (constants : List UInt32)
    (position : Nat) (state : State) {window : Window} (shows : Shows words position window)
    (enough : position + constants.length ≤ words.size) :
    (rounds words constants position state).numbers =
      Numbers.rounds (constants.map UInt32.toNat) window state.numbers := by
  induction constants generalizing position state window with
  | nil => rfl
  | cons constant rest ih =>
      rw [List.length_cons] at enough
      have word_eq : window.w0 = (words.getD position 0).toNat :=
        shows 0 (by decide) (by omega)
      rw [rounds, List.map_cons, Numbers.rounds, word_eq, ← numbers_round]
      exact ih (position + 1) _ (shows.next recurs) (by omega)

theorem numbers_compress (state : State) {block : List UInt32} {window : Window}
    (words_eq : window.words = block.map UInt32.toNat) :
    (compress state block).numbers = state.numbers.sum
      (Numbers.rounds (roundConstants.map UInt32.toNat) window state.numbers) := by
  have length_eq : block.length = 16 := by
    rw [← List.length_map UInt32.toNat, ← words_eq]
    rfl
  obtain ⟨size_eq, recurs, same⟩ := recurs_schedule length_eq
  have shows : Shows (schedule block) 0 window := by
    intro offset offset_lt _
    rw [Nat.zero_add, same offset offset_lt, words_eq]
    exact List.getD_map block 0 UInt32.toNat
  rw [← numbers_rounds recurs roundConstants 0 state shows size_eq.ge, ← numbers_sum]
  rfl

/-! ## Hashes of 32 bytes -/

theorem numbers_next (state : State) : state.next.numbers = state.numbers.next :=
  numbers_compress State.initial rfl

theorem numbers_injective : Function.Injective State.numbers := by
  rintro ⟨a, b, c, d, e, f, g, h⟩ ⟨a', b', c', d', e', f', g', h'⟩ same
  simpa only [State.numbers, Numbers.mk.injEq, UInt32.toNat_inj, State.mk.injEq] using same

/-- A message of 32 bytes is padded to one block. -/
theorem sha256_toDigest (state : State) : sha256 state.toDigest.bytes = state.next.toDigest := by
  have padding_eq : 0x80 :: (List.replicate 23 0 ++ Bytes.ofNatBE 8 256) =
      [0x80000000, 0, 0, 0, 0, 0, 0, 256].flatMap Bytes.ofWordBE := by decide
  have bytes_eq : state.toDigest.bytes = state.words.flatMap Bytes.ofWordBE := rfl
  have padded : pad state.toDigest.bytes =
      (state.words ++ [0x80000000, 0, 0, 0, 0, 0, 0, 256]).flatMap Bytes.ofWordBE := by
    rw [List.flatMap_append, ← padding_eq, ← bytes_eq]
    simp only [pad, state.toDigest.length_bytes]
  have length_eq : (pad state.toDigest.bytes).length = 64 := by
    rw [padded]
    rfl
  have one_block : Bytes.piecesOf 63 (pad state.toDigest.bytes) = [pad state.toDigest.bytes] := by
    rw [Bytes.piecesOf_of_ne_nil (List.ne_nil_of_length_pos (length_eq ▸ by decide)),
      List.take_of_length_le length_eq.le, List.drop_of_length_le length_eq.le, Bytes.piecesOf_nil]
  rw [State.next, ← Bytes.wordsBE_flatMap (state.words ++ _), ← padded]
  simp only [sha256, one_block, List.foldl_cons, List.foldl_nil]

end Sha256
end BeaconCeremony
