import BeaconCeremony.Keystream.Generator
import Mathlib.Data.List.GetD
import Mathlib.Logic.Function.Iterate

/-!
# Reading the keystream

However a generator is asked for its keystream, the bytes come one after the other, and none comes
twice.  The keystream repeats itself, and so do the candidates for a number below a bound: a draw
without a result is one that would never come to an end.
-/

namespace BeaconCeremony
namespace ChaCha

/-- The byte of a keystream at a position. -/
def byteAt (key : Seed) (position : Nat) : UInt8 :=
  (block key (position / 64)).getD (position % 64) 0

theorem blocks_succ (key : Seed) (first count : Nat) :
    blocks key first (count + 1) = block key first ++ blocks key (first + 1) count := by
  rw [blocks, List.range'_succ, List.flatMap_cons]
  rfl

@[simp]
theorem length_blocks (key : Seed) (first count : Nat) :
    (blocks key first count).length = 64 * count := by
  induction count generalizing first with
  | zero => rfl
  | succ count ih =>
      rw [blocks_succ, List.length_append, length_block, ih]
      omega

theorem getD_blocks (key : Seed) (first : Nat) {count index : Nat} (within : index < 64 * count) :
    (blocks key first count).getD index 0 = byteAt key (64 * first + index) := by
  induction count generalizing first index with
  | zero => contradiction
  | succ count ih =>
      rw [blocks_succ]
      by_cases here : index < 64
      · rw [List.getD_append _ _ _ _ (by rwa [length_block]), byteAt]
        congr 2
        · omega
        · omega
      · rw [List.getD_append_right _ _ _ _ (by rw [length_block]; omega), length_block,
          ih (first + 1) (by omega)]
        congr 1
        omega

theorem ofNat_add_size_mul (number factor : Nat) :
    UInt32.ofNat (number + UInt32.size * factor) = UInt32.ofNat number := by
  refine UInt32.toNat_inj.mp ?_
  rw [UInt32.toNat_ofNat', UInt32.toNat_ofNat']
  exact Nat.add_mul_mod_self_left number UInt32.size factor

theorem initialState_congr (key : Seed) {number other : Nat}
    (low : UInt32.ofNat number = UInt32.ofNat other)
    (high : UInt32.ofNat (number / UInt32.size) = UInt32.ofNat (other / UInt32.size)) :
    initialState key number = initialState key other := by
  rw [initialState, initialState, low, high]

/-- The number of a block has 64 bits. -/
theorem block_add_size_mul (key : Seed) (number factor : Nat) :
    block key (number + UInt64.size * factor) = block key number := by
  have size_eq : UInt64.size = UInt32.size * UInt32.size := by decide
  have same : initialState key (number + UInt64.size * factor) = initialState key number := by
    rw [size_eq, Nat.mul_assoc]
    apply initialState_congr
    · exact ofNat_add_size_mul number (UInt32.size * factor)
    · rw [Nat.add_mul_div_left _ _ (by decide)]
      exact ofNat_add_size_mul (number / UInt32.size) factor
  rw [block, same]
  rfl

theorem byteAt_add_period_mul (key : Seed) (position factor : Nat) :
    byteAt key (position + Generator.period * factor) = byteAt key position := by
  have number_eq : (position + Generator.period * factor) / 64 =
      position / 64 + UInt64.size * factor := by
    rw [Generator.period, Nat.mul_assoc, Nat.add_mul_div_left _ _ (by decide)]
  have place_eq : (position + Generator.period * factor) % 64 = position % 64 := by
    rw [Generator.period, Nat.mul_assoc, Nat.add_mul_mod_self_left]
  rw [byteAt, number_eq, place_eq, block_add_size_mul]
  rfl

end ChaCha

namespace Generator

/-- The byte that is read after as many others as the index says. -/
def upcoming (generator : Generator) (index : Nat) : UInt8 :=
  if index < generator.buffer.length then generator.buffer.getD index 0
  else ChaCha.byteAt generator.seed (64 * generator.nextBlock + (index - generator.buffer.length))

/-- Behind the buffer the bytes repeat themselves. -/
theorem upcoming_add_period_mul {generator : Generator} {index : Nat}
    (behind : generator.buffer.length ≤ index) (factor : Nat) :
    generator.upcoming (index + period * factor) = generator.upcoming index := by
  have place_eq : 64 * generator.nextBlock +
      (index + period * factor - generator.buffer.length) =
        64 * generator.nextBlock + (index - generator.buffer.length) + period * factor := by
    omega
  rw [upcoming, upcoming, if_neg (by omega), if_neg (by omega), place_eq,
    ChaCha.byteAt_add_period_mul]

theorem le_length_refill (generator : Generator) (count : Nat) :
    count ≤ (generator.refill count).buffer.length := by
  rw [refill]
  split
  · simp only [List.length_append, ChaCha.length_blocks]
    omega
  · omega

theorem upcoming_refill (generator : Generator) (count : Nat) :
    (generator.refill count).upcoming = generator.upcoming := by
  rw [refill]
  split
  · generalize max 16 ((count + 63) / 64) = added
    funext index
    simp only [upcoming, List.length_append, ChaCha.length_blocks]
    by_cases buffered : index < generator.buffer.length
    · have within : index < generator.buffer.length + 64 * added := by omega
      rw [if_pos within, if_pos buffered, List.getD_append _ _ _ _ buffered]
    · rw [if_neg buffered]
      have behind : generator.buffer.length ≤ index := by omega
      split
      · rw [List.getD_append_right _ _ _ _ behind, ChaCha.getD_blocks _ _ (by omega)]
      · congr 1
        omega
  · rfl

/-- The operation reads the given number of bytes, and its value is made of them. -/
structure Reads {α : Type} (operation : Generator → α × Generator) (count : Nat)
    (value : (Nat → UInt8) → α) : Prop where
  /-- The value is made of the bytes that come next. -/
  value_eq : ∀ generator, (operation generator).1 = value generator.upcoming
  /-- The bytes after them are left. -/
  upcoming_eq : ∀ generator,
    (operation generator).2.upcoming = fun index => generator.upcoming (count + index)

section Operations

variable {α β : Type}

theorem Reads.map {operation : Generator → α × Generator} {count : Nat}
    {value : (Nat → UInt8) → α} (reads : Reads operation count value) (change : α → β) :
    Reads (fun generator => (change (operation generator).1, (operation generator).2)) count
      fun stream => change (value stream) where
  value_eq generator := congrArg change (reads.value_eq generator)
  upcoming_eq := reads.upcoming_eq

theorem Reads.bind {first : Generator → α × Generator} {second : α → Generator → β × Generator}
    {count more : Nat} {value : (Nat → UInt8) → α} {result : α → (Nat → UInt8) → β}
    (reads_first : Reads first count value)
    (reads_second : ∀ found, Reads (second found) more (result found)) :
    Reads (fun generator => second (first generator).1 (first generator).2) (count + more)
      fun stream => result (value stream) fun index => stream (count + index) where
  value_eq generator := by
    rw [(reads_second _).value_eq, reads_first.value_eq, reads_first.upcoming_eq]
  upcoming_eq generator := by
    rw [(reads_second _).upcoming_eq, reads_first.upcoming_eq]
    funext index
    rw [Nat.add_assoc]

theorem reads_take (count : Nat) :
    Reads (·.take count) count fun stream => (List.range count).map stream where
  value_eq generator := by
    have enough := generator.le_length_refill count
    rw [← generator.upcoming_refill count, take]
    generalize generator.refill count = filled at enough
    refine List.ext_getElem ?_ fun index taken mapped => ?_
    · simp [enough]
    · have buffered : index < filled.buffer.length := by
        rw [List.length_take] at taken
        omega
      simp [upcoming, buffered]
  upcoming_eq generator := by
    have enough := generator.le_length_refill count
    rw [← generator.upcoming_refill count, take]
    generalize generator.refill count = filled at enough
    funext index
    simp only [upcoming, List.length_drop]
    by_cases buffered : count + index < filled.buffer.length
    · rw [if_pos (by omega), if_pos buffered]
      simp
    · rw [if_neg (by omega), if_neg buffered]
      congr 1
      omega

/-- The little-endian word of the first four bytes. -/
def wordOf (stream : Nat → UInt8) : UInt32 :=
  UInt32.ofNat (Bytes.toNatLE ((List.range 4).map stream))

/-- The first two words as one, the high word first. -/
def doubleWordOf (stream : Nat → UInt8) : UInt64 :=
  ((wordOf stream).toUInt64 <<< 32) ||| (wordOf fun index => stream (4 + index)).toUInt64

/-- The number made of the first double words, least significant first. -/
def limbsOf : Nat → (Nat → UInt8) → Nat
  | 0, _ => 0
  | count + 1, stream =>
    (doubleWordOf stream).toNat + UInt64.size * limbsOf count fun index => stream (8 + index)

theorem reads_nextWord : Reads nextWord 4 wordOf :=
  (reads_take 4).map fun bytes => UInt32.ofNat bytes.toNatLE

theorem reads_nextDoubleWord : Reads nextDoubleWord 8 doubleWordOf :=
  reads_nextWord.bind fun high =>
    reads_nextWord.map fun low => (high.toUInt64 <<< 32) ||| low.toUInt64

theorem reads_nextLimbs (count : Nat) : Reads (·.nextLimbs count) (8 * count) (limbsOf count) := by
  induction count with
  | zero =>
      refine ⟨fun _ => rfl, fun generator => ?_⟩
      funext index
      rw [Nat.mul_zero, Nat.zero_add]
      rfl
  | succ count ih =>
      have both := reads_nextDoubleWord.bind fun limb =>
        ih.map fun higher => limb.toNat + UInt64.size * higher
      rwa [Nat.add_comm 8, ← Nat.mul_succ] at both

end Operations

/-- The number of bytes that a candidate is made of. -/
def candidateSize (bound : Nat) : Nat := 8 * ((bitsBelow bound + 63) / 64)

theorem candidateSize_pos (bound : Nat) : 0 < candidateSize bound := by
  have some_bit : 0 < bitsBelow bound := Nat.succ_pos _
  rw [candidateSize]
  omega

theorem reads_candidate (bound : Nat) : Reads (·.candidate bound) (candidateSize bound)
    fun stream => limbsOf ((bitsBelow bound + 63) / 64) stream % Nat.pow 2 (bitsBelow bound) :=
  (reads_nextLimbs _).map fun raw => raw % Nat.pow 2 (bitsBelow bound)

/-- The generator after some candidates. -/
def skip (bound count : Nat) : Generator → Generator :=
  (fun generator => (generator.candidate bound).2)^[count]

theorem upcoming_skip (bound count : Nat) (generator : Generator) :
    (skip bound count generator).upcoming =
      fun index => generator.upcoming (candidateSize bound * count + index) := by
  induction count generalizing generator with
  | zero =>
      funext index
      rw [Nat.mul_zero, Nat.zero_add]
      rfl
  | succ count ih =>
      funext index
      have place_eq : candidateSize bound + (candidateSize bound * count + index) =
          candidateSize bound * (count + 1) + index := by
        rw [Nat.mul_succ]
        omega
      rw [skip, Function.iterate_succ_apply, ← skip, ih, (reads_candidate bound).upcoming_eq,
        ← place_eq]

/-- Once the buffer has been read, the candidates repeat themselves. -/
theorem candidate_skip_add_period {bound count : Nat} {generator : Generator}
    (behind : generator.buffer.length ≤ count) :
    ((skip bound (count + period) generator).candidate bound).1 =
      ((skip bound count generator).candidate bound).1 := by
  have same : (skip bound (count + period) generator).upcoming =
      (skip bound count generator).upcoming := by
    rw [upcoming_skip, upcoming_skip]
    funext index
    have far : count ≤ candidateSize bound * count :=
      Nat.le_mul_of_pos_left count (candidateSize_pos bound)
    have place_eq : candidateSize bound * (count + period) + index =
        candidateSize bound * count + index + period * candidateSize bound := by
      rw [Nat.mul_add, Nat.mul_comm (candidateSize bound) period]
      omega
    rw [place_eq, upcoming_add_period_mul (by omega)]
  rw [(reads_candidate bound).value_eq, (reads_candidate bound).value_eq, same]

variable {bound attempts : Nat} {generator : Generator} {drawn : Nat × Generator}

theorem searchWithin_eq_none_iff : searchWithin bound attempts generator = none ↔
    ∀ count < attempts, bound ≤ ((skip bound count generator).candidate bound).1 := by
  induction attempts generalizing generator with
  | zero => simp [searchWithin]
  | succ attempts ih =>
      rw [Nat.forall_lt_succ_left, searchWithin]
      by_cases accepted : (generator.candidate bound).1 < bound
      · rw [if_pos accepted]
        exact iff_of_false (Option.some_ne_none _) fun rejected =>
          Nat.not_le_of_lt accepted rejected.1
      · rw [if_neg accepted, ih]
        exact (and_iff_right (Nat.le_of_not_lt accepted)).symm

/-- A search that has gone through the buffer and one period goes on in vain. -/
theorem searchWithin_eq_none (generator : Generator)
    (rejected : searchWithin bound (period + generator.buffer.length) generator = none)
    (attempts : Nat) : searchWithin bound attempts generator = none := by
  rw [searchWithin_eq_none_iff] at rejected ⊢
  suffices all : ∀ count, bound ≤ ((skip bound count generator).candidate bound).1 from
    fun count _ => all count
  intro count
  induction count using Nat.strongRecOn with
  | ind count ih =>
      by_cases early : count < period + generator.buffer.length
      · exact rejected count early
      · have positive : 0 < period := by decide
        have back := ih (count - period) (by omega)
        rwa [← candidate_skip_add_period (by omega), Nat.sub_add_cancel (by omega)] at back

theorem searchWithin_mono {more : Nat} (le : attempts ≤ more)
    (found : searchWithin bound attempts generator = some drawn) :
    searchWithin bound more generator = some drawn := by
  induction attempts generalizing generator more with
  | zero => contradiction
  | succ attempts ih =>
      obtain ⟨more, rfl⟩ : ∃ rest, more = rest + 1 := ⟨more - 1, by omega⟩
      simp only [searchWithin] at found ⊢
      split
      · rename_i accepted
        rwa [if_pos accepted] at found
      · rename_i rejected
        rw [if_neg rejected] at found
        exact ih (by omega) found

/-- A draw has a result just if some number of attempts is enough for it. -/
theorem draw_eq_some_iff (bound_ne : bound ≠ 1) : generator.draw? bound = some drawn ↔
    ∃ attempts, searchWithin bound attempts generator = some drawn := by
  rw [draw?, if_neg bound_ne]
  constructor
  · exact fun found => ⟨_, found⟩
  · rintro ⟨attempts, found⟩
    cases settled : searchWithin bound (period + generator.buffer.length) generator with
    | none =>
        rw [generator.searchWithin_eq_none settled attempts] at found
        contradiction
    | some other =>
        rcases Nat.le_total attempts (period + generator.buffer.length) with le | le
        · exact settled.symm.trans (searchWithin_mono le found)
        · exact (searchWithin_mono le settled).symm.trans found

theorem searchWithin_lt (found : searchWithin bound attempts generator = some drawn) :
    drawn.1 < bound := by
  induction attempts generalizing generator with
  | zero => contradiction
  | succ attempts ih =>
      simp only [searchWithin] at found
      split at found
      · rename_i accepted
        obtain rfl := Option.some.inj found
        exact accepted
      · exact ih found

theorem draw_lt (found : generator.draw? bound = some drawn) : drawn.1 < bound := by
  rw [draw?] at found
  split at found
  · rename_i one
    obtain rfl := Option.some.inj found
    rw [one]
    exact Nat.one_pos
  · exact searchWithin_lt found

end Generator
end BeaconCeremony
