import BeaconCeremony.Proofs.Bytes.Number
import BeaconCeremony.Proofs.Keystream.Generator

/-!
# Requests are met from the keystream in order

A generator keeps a buffer and fills it up in the middle of requests of any size.  None of this can
be seen: whatever is asked for in whatever order, the bytes that the answers are made of are those
of the keystream, one request after the other from the first byte on.
-/

namespace BeaconCeremony
namespace Generator

/-- A request to a generator. -/
inductive Request
  | word
  | doubleWord
  /-- So many bytes. -/
  | bytes (count : Int)
  /-- A number from zero up to a bound. -/
  | below (bound : Int)

/-- What a generator answers. -/
inductive Reply
  | word (value : UInt32)
  | doubleWord (value : UInt64)
  | bytes (value : Bytes)
  | number (value : Nat)

/-- A request with the answer to it. -/
structure Exchange where
  /-- The request. -/
  request : Request
  /-- The answer, or why there is none. -/
  reply : Except GeneratorError Reply

/-- Whether the request came to an end, with an answer or a refusal. -/
def Exchange.returned (exchange : Exchange) : Bool :=
  match exchange.reply with
  | .error .stalled => false
  | _ => true

/-- The answer to a request and the generator afterwards, which is the same after a refusal. -/
def answer (generator : Generator) : Request → Except GeneratorError Reply × Generator
  | .word =>
    let (value, after) := generator.nextWord
    (.ok (.word value), after)
  | .doubleWord =>
    let (value, after) := generator.nextDoubleWord
    (.ok (.doubleWord value), after)
  | .bytes count =>
    match generator.fill count with
    | .ok (value, after) => (.ok (.bytes value), after)
    | .error error => (.error error, generator)
  | .below bound =>
    match generator.below (.int bound) with
    | .ok (value, after) => (.ok (.number value), after)
    | .error error => (.error error, generator)

/-- The exchanges about some requests, one after the other, and the generator afterwards. -/
def serve (generator : Generator) : List Request → List Exchange × Generator
  | [] => ([], generator)
  | request :: rest =>
    let (reply, after) := generator.answer request
    let (exchanges, last) := after.serve rest
    (⟨request, reply⟩ :: exchanges, last)

/-- The number made of the given number of double words, least significant first; in each of them
the first of two little-endian words is the high one. -/
def limbsNumber : Nat → Bytes → Nat
  | 0, _ => 0
  | count + 1, bytes =>
    UInt32.size * Bytes.toNatLE (bytes.take 4) + Bytes.toNatLE ((bytes.drop 4).take 4) +
      UInt64.size * limbsNumber count (bytes.drop 8)

/-- The candidate for a number below a bound that bytes stand for: as many bits of their number as
the numbers below the bound need. -/
def candidateOf (bound : Nat) (bytes : Bytes) : Nat :=
  limbsNumber ((bitsBelow bound + 63) / 64) bytes % Nat.pow 2 (bitsBelow bound)

/-- The bytes that are taken from a keystream for a request, and the answer that is made of them. -/
inductive Consumes : Request → Except GeneratorError Reply → Bytes → Prop
  | word {value : UInt32} {bytes : Bytes} (sized : bytes.length = 4)
      (value_eq : value.toNat = bytes.toNatLE) : Consumes .word (.ok (.word value)) bytes
  | doubleWord {value : UInt64} {high low : Bytes} (high_sized : high.length = 4)
      (low_sized : low.length = 4)
      (value_eq : value.toNat = UInt32.size * high.toNatLE + low.toNatLE) :
      Consumes .doubleWord (.ok (.doubleWord value)) (high ++ low)
  | bytes {count : Nat} {bytes : Bytes} (sized : bytes.length = count) :
      Consumes (.bytes count) (.ok (.bytes bytes)) bytes
  /-- Nothing is needed for the only number below one. -/
  | one : Consumes (.below 1) (.ok (.number 0)) []
  /-- Candidates are drawn until one of them is below the bound. -/
  | below {bound value : Nat} {rejected : List Bytes} {accepted : Bytes} (two_le : 2 ≤ bound)
      (rejected_sized : ∀ piece ∈ rejected, piece.length = candidateSize bound)
      (rejected_large : ∀ piece ∈ rejected, bound ≤ candidateOf bound piece)
      (accepted_sized : accepted.length = candidateSize bound)
      (value_eq : value = candidateOf bound accepted) (value_lt : value < bound) :
      Consumes (.below bound) (.ok (.number value)) (rejected.flatten ++ accepted)
  | negativeCount {count : Int} (negative : count < 0) :
      Consumes (.bytes count) (.error .negativeCount) []
  | emptyRange {bound : Int} (not_positive : bound ≤ 0) :
      Consumes (.below bound) (.error .emptyRange) []

/-- The first bytes of a stream. -/
def firstBytes (stream : Nat → UInt8) (count : Nat) : Bytes := (List.range count).map stream

@[simp]
theorem length_firstBytes (stream : Nat → UInt8) (count : Nat) :
    (firstBytes stream count).length = count := by
  simp [firstBytes]

theorem firstBytes_add (stream : Nat → UInt8) (count more : Nat) :
    firstBytes stream (count + more) =
      firstBytes stream count ++ firstBytes (fun index => stream (count + index)) more := by
  simp only [firstBytes, List.range_add, List.map_append, List.map_map, Function.comp_def]

/-- The generator has been read over the given bytes, which were the next ones. -/
structure Passes (before : Generator) (bytes : Bytes) (after : Generator) : Prop where
  /-- The bytes were the next ones. -/
  bytes_eq : bytes = firstBytes before.upcoming bytes.length
  /-- The bytes after them are left. -/
  upcoming_eq : after.upcoming = fun index => before.upcoming (bytes.length + index)

theorem Passes.nil (generator : Generator) : Passes generator [] generator where
  bytes_eq := rfl
  upcoming_eq := by simp

theorem Passes.append {first second third : Generator} {bytes more : Bytes}
    (before : Passes first bytes second) (after : Passes second more third) :
    Passes first (bytes ++ more) third where
  bytes_eq := by
    rw [List.length_append, firstBytes_add, ← before.bytes_eq, ← before.upcoming_eq,
      ← after.bytes_eq]
  upcoming_eq := by
    rw [after.upcoming_eq, before.upcoming_eq]
    funext index
    rw [List.length_append, Nat.add_assoc]

theorem Reads.passes {α : Type} {operation : Generator → α × Generator} {count : Nat}
    {value : (Nat → UInt8) → α} (reads : Reads operation count value) (generator : Generator) :
    Passes generator (firstBytes generator.upcoming count) (operation generator).2 where
  bytes_eq := by rw [length_firstBytes]
  upcoming_eq := by rw [length_firstBytes, reads.upcoming_eq]

section Values

variable (stream : Nat → UInt8)

theorem toNat_wordOf : (wordOf stream).toNat = Bytes.toNatLE (firstBytes stream 4) := by
  have value_lt := Bytes.toNatLE_lt (firstBytes stream 4)
  rw [length_firstBytes] at value_lt
  exact UInt32.toNat_ofNat_of_lt value_lt

theorem toNat_doubleWord (high low : UInt32) :
    ((high.toUInt64 <<< 32) ||| low.toUInt64).toNat =
      UInt32.size * high.toNat + low.toNat := by
  have high_lt := high.toNat_lt
  have low_lt := low.toNat_lt
  have fits : high.toNat <<< 32 < 18446744073709551616 := by
    rw [Nat.shiftLeft_eq]
    omega
  have shifted : (high.toUInt64 <<< 32).toNat = high.toNat <<< 32 := by
    simpa using Nat.mod_eq_of_lt fits
  rw [UInt64.toNat_or, shifted, UInt32.toNat_toUInt64, ← Nat.shiftLeft_add_eq_or_of_lt low_lt,
    Nat.shiftLeft_eq, Nat.mul_comm, UInt32.size]

theorem toNat_doubleWordOf : (doubleWordOf stream).toNat =
    UInt32.size * (wordOf stream).toNat + (wordOf fun index => stream (4 + index)).toNat :=
  toNat_doubleWord _ _

theorem limbsNumber_firstBytes (count : Nat) :
    limbsNumber count (firstBytes stream (8 * count)) = limbsOf count stream := by
  induction count generalizing stream with
  | zero => rfl
  | succ count ih =>
      have split_eq : firstBytes stream (8 * (count + 1)) = firstBytes stream 4 ++
          (firstBytes (fun index => stream (4 + index)) 4 ++
            firstBytes (fun index => stream (8 + index)) (8 * count)) := by
        have size_eq : 8 * (count + 1) = 4 + (4 + 8 * count) := by omega
        rw [size_eq, firstBytes_add, firstBytes_add]
        simp only [← Nat.add_assoc]
      have skipped : (firstBytes stream (8 * (count + 1))).drop 8 =
          firstBytes (fun index => stream (8 + index)) (8 * count) := by
        rw [split_eq, ← List.append_assoc]
        exact List.drop_left' (by simp)
      rw [limbsNumber, limbsOf, skipped, ih, split_eq, List.take_left' (length_firstBytes _ 4),
        List.drop_left' (length_firstBytes _ 4), List.take_left' (length_firstBytes _ 4),
        ← toNat_wordOf, ← toNat_wordOf, toNat_doubleWordOf]

end Values

theorem candidate_eq (bound : Nat) (generator : Generator) : (generator.candidate bound).1 =
    candidateOf bound (firstBytes generator.upcoming (candidateSize bound)) := by
  rw [(reads_candidate bound).value_eq, candidateOf, candidateSize, limbsNumber_firstBytes]

/-- A search goes over candidates that are too large, and then over the one that it finds. -/
theorem passes_searchWithin {bound attempts : Nat} {generator : Generator}
    {drawn : Nat × Generator}
    (found : searchWithin bound attempts generator = some drawn) :
    ∃ rejected accepted, Passes generator (List.flatten rejected ++ accepted) drawn.2 ∧
      (∀ piece ∈ rejected, piece.length = candidateSize bound) ∧
      (∀ piece ∈ rejected, bound ≤ candidateOf bound piece) ∧
      accepted.length = candidateSize bound ∧ drawn.1 = candidateOf bound accepted := by
  induction attempts generalizing generator with
  | zero => contradiction
  | succ attempts ih =>
      let piece := firstBytes generator.upcoming (candidateSize bound)
      have piece_passes : Passes generator piece (generator.candidate bound).2 :=
        (reads_candidate bound).passes generator
      have piece_sized : piece.length = candidateSize bound := length_firstBytes _ _
      have piece_value : (generator.candidate bound).1 = candidateOf bound piece :=
        candidate_eq bound generator
      simp only [searchWithin] at found
      split at found
      · obtain rfl := Option.some.inj found
        exact ⟨[], piece, piece_passes, List.forall_mem_nil _, List.forall_mem_nil _, piece_sized,
          piece_value⟩
      · rename_i large
        obtain ⟨rejected, accepted, passes, sized, larger, accepted_sized, value_eq⟩ := ih found
        refine ⟨piece :: rejected, accepted, ?_, List.forall_mem_cons.mpr ⟨piece_sized, sized⟩,
          List.forall_mem_cons.mpr ⟨?_, larger⟩, accepted_sized, value_eq⟩
        · rw [List.flatten_cons, List.append_assoc]
          exact piece_passes.append passes
        · exact piece_value ▸ Nat.le_of_not_lt large

/-- A draw from the numbers below a positive bound takes its candidates from the keystream. -/
theorem consumes_draw {bound : Nat} {generator : Generator} {drawn : Nat × Generator}
    (positive : 0 < bound) (found : generator.draw? bound = some drawn) :
    ∃ bytes, Consumes (.below bound) (.ok (.number drawn.1)) bytes ∧
      Passes generator bytes drawn.2 := by
  have value_lt := draw_lt found
  rw [draw?] at found
  split at found
  · rename_i one
    obtain rfl := Option.some.inj found
    subst one
    exact ⟨[], .one, .nil generator⟩
  · rename_i more
    obtain ⟨rejected, accepted, passes, sized, large, accepted_sized, value_eq⟩ :=
      passes_searchWithin found
    exact ⟨_, .below (by omega) sized large accepted_sized value_eq value_lt, passes⟩

/-- What one request takes from the keystream comes next in it. -/
theorem consumes_answer (generator : Generator) (request : Request)
    (returns : Exchange.returned ⟨request, (generator.answer request).1⟩ = true) :
    ∃ bytes, Consumes request (generator.answer request).1 bytes ∧
      Passes generator bytes (generator.answer request).2 := by
  cases request with
  | word =>
      refine ⟨_, .word (length_firstBytes _ 4) ?_, reads_nextWord.passes generator⟩
      exact (congrArg UInt32.toNat (reads_nextWord.value_eq generator)).trans (toNat_wordOf _)
  | doubleWord =>
      have passes := reads_nextDoubleWord.passes generator
      rw [firstBytes_add _ 4 4] at passes
      refine ⟨_, .doubleWord (length_firstBytes _ 4) (length_firstBytes _ 4) ?_, passes⟩
      refine (congrArg UInt64.toNat (reads_nextDoubleWord.value_eq generator)).trans ?_
      rw [toNat_doubleWordOf, toNat_wordOf, toNat_wordOf]
  | bytes count =>
      by_cases negative : count < 0
      · simp only [answer, fill, if_pos negative]
        exact ⟨[], .negativeCount negative, .nil generator⟩
      · obtain ⟨count, rfl⟩ := Int.eq_ofNat_of_zero_le (Int.not_lt.mp negative)
        simp only [answer, fill, if_neg negative, Int.toNat_natCast]
        refine ⟨_, ?_, (reads_take count).passes generator⟩
        rw [(reads_take count).value_eq]
        exact .bytes (length_firstBytes _ count)
  | below bound =>
      simp only [answer, below, Datum.asInt?] at returns ⊢
      by_cases not_positive : bound ≤ 0
      · simp only [if_pos not_positive]
        exact ⟨[], .emptyRange not_positive, .nil generator⟩
      · obtain ⟨bound, rfl⟩ := Int.eq_ofNat_of_zero_le (Int.le_of_lt (Int.not_le.mp not_positive))
        simp only [if_neg not_positive, Int.toNat_natCast] at returns ⊢
        cases drawn_eq : generator.draw? bound with
        | none =>
            rw [drawn_eq] at returns
            contradiction
        | some drawn => exact consumes_draw (by omega) drawn_eq

/-- What some requests take from the keystream comes next in it, in their order. -/
theorem consumes_serve (generator : Generator) (requests : List Request)
    (returns : (generator.serve requests).1.all Exchange.returned = true) :
    ∃ consumed, List.Forall₂ (fun exchange bytes => Consumes exchange.request exchange.reply bytes)
        (generator.serve requests).1 consumed ∧
      Passes generator consumed.flatten (generator.serve requests).2 := by
  induction requests generalizing generator with
  | nil => exact ⟨[], .nil, .nil generator⟩
  | cons request rest ih =>
      simp only [serve, List.all_cons, Bool.and_eq_true] at returns
      obtain ⟨here, there⟩ := returns
      obtain ⟨bytes, consumes, passes⟩ := consumes_answer generator request here
      obtain ⟨consumed, all_consume, rest_passes⟩ := ih (generator.answer request).2 there
      exact ⟨bytes :: consumed, .cons consumes all_consume, passes.append rest_passes⟩

theorem upcoming_ofSeed (seed : Seed) : (ofSeed seed).upcoming = ChaCha.byteAt seed := by
  funext index
  simp [upcoming, ofSeed]

/-- Whatever is asked of a new generator, and in whatever order, the requests that are met take
consecutive pieces of the keystream, from its first byte on, and each answer is made of its own
piece; a request that is refused takes none.  What is left is the rest of the keystream. -/
theorem served_from_keystream (seed : Seed) (requests : List Request)
    (returns : ((ofSeed seed).serve requests).1.all Exchange.returned = true) :
    let served := (ofSeed seed).serve requests
    ∃ consumed : List Bytes,
      List.Forall₂ (fun exchange bytes => Consumes exchange.request exchange.reply bytes) served.1
        consumed ∧
      consumed.flatten = (List.range consumed.flatten.length).map (ChaCha.byteAt seed) ∧
      served.2.upcoming = fun index => ChaCha.byteAt seed (consumed.flatten.length + index) := by
  obtain ⟨consumed, all_consume, passes⟩ := consumes_serve (ofSeed seed) requests returns
  have bytes_eq := passes.bytes_eq
  have upcoming_eq := passes.upcoming_eq
  rw [upcoming_ofSeed] at bytes_eq upcoming_eq
  exact ⟨consumed, all_consume, bytes_eq, upcoming_eq⟩

/-- A word across the boundary of two refills, a request for more than a refill, a draw, and two
requests that are refused. -/
theorem served_from_keystream_acrossRefills :
    let seed : Seed := Vector.replicate 8 0
    let served := (ofSeed seed).serve
      [.bytes 1022, .word, .below 100, .bytes (-1), .below 0, .bytes 1100, .doubleWord]
    served.1.all Exchange.returned = true ∧ ∃ consumed : List Bytes,
      List.Forall₂ (fun exchange bytes => Consumes exchange.request exchange.reply bytes) served.1
        consumed ∧
      consumed.flatten = (List.range consumed.flatten.length).map (ChaCha.byteAt seed) ∧
      served.2.upcoming = fun index => ChaCha.byteAt seed (consumed.flatten.length + index) := by
  intro seed served
  have returns : served.1.all Exchange.returned = true := by decide +kernel
  exact ⟨returns, served_from_keystream seed _ returns⟩

end Generator
end BeaconCeremony
