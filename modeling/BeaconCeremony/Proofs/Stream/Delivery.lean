import BeaconCeremony.Proofs.Stream.Closing

/-!
# Sources that bring their bytes in pieces

A source delivers bytes if every read brings some of the next ones, as many as the source likes, and
none only at the end.  A decoder that closes its bytes comes to the same result on every source that
delivers them, which is what parsing them comes to, and it asks at most once more than there are
bytes.
-/

namespace BeaconCeremony

variable {World ε α : Type} {source : Source (StateM World)} {left : World → Bytes}

namespace Source

/-- A read of at most `count` bytes that brings some of those that are left. -/
structure Delivery (left : World → Bytes) (count : Nat) (before : World) (bytes : Bytes)
    (after : World) : Prop where
  /-- The bytes are the next ones. -/
  next : left before = bytes ++ left after
  /-- There are not more than have been asked for. -/
  asked : bytes.length ≤ count
  /-- There are none only at the end. -/
  ended : bytes = [] → left before = []

/-- Every read of the source brings some of the bytes that are left. -/
def Delivers (source : Source (StateM World)) (left : World → Bytes) : Prop :=
  ∀ count world, 0 < count → ∃ bytes after, source.read count world = (.ok bytes, after) ∧
    Delivery left count world bytes after

/-- A count that goes up by one with every read. -/
def Counts (source : Source (StateM World)) (calls : World → Nat) : Prop :=
  ∀ count world, calls (source.read count world).2 = calls world + 1

/-- On the way from one world to another, at most `extra` reads have brought no bytes. -/
def Spends (source : Source (StateM World)) (left : World → Bytes) (extra : Nat)
    (before after : World) : Prop :=
  ∀ calls, source.Counts calls →
    calls after + (left after).length ≤ calls before + (left before).length + extra

theorem Spends.refl (world : World) : source.Spends left 0 world world :=
  fun _ _ => Nat.le_refl _

theorem Spends.trans {first second : Nat} {before between after : World}
    (spends : source.Spends left first before between)
    (spends' : source.Spends left second between after) :
    source.Spends left (first + second) before after := by
  intro calls counts
  have spent := spends calls counts
  have spent' := spends' calls counts
  omega

theorem Delivery.spends {count : Nat} {before after : World} {bytes : Bytes}
    (delivery : Delivery left count before bytes after)
    (read_eq : source.read count before = (.ok bytes, after)) :
    source.Spends left (if bytes = [] then 1 else 0) before after := by
  intro calls counts
  have counted := counts count before
  rw [read_eq] at counted
  rw [delivery.next, List.length_append, counted]
  split
  · omega
  · rename_i bytes_ne
    have brought := List.length_pos_iff.mpr bytes_ne
    omega

section Collect

variable {missing : Nat} {got bytes : Bytes} {world after : World}

theorem collect_zero (got : Bytes) (world : World) :
    source.collect 0 got world = (.ok (some got), world) := by
  rw [collect, if_pos rfl]
  rfl

theorem collect_of_read_nil (missing_ne : missing ≠ 0)
    (read_eq : source.read missing world = (.ok [], after)) :
    source.collect missing got world = (.ok none, after) := by
  rw [collect, if_neg missing_ne]
  simp only [StateT.bind, bind, read_eq]
  rfl

theorem collect_of_read (missing_ne : missing ≠ 0) (bytes_ne : bytes ≠ [])
    (read_eq : source.read missing world = (.ok bytes, after)) :
    source.collect missing got world =
      source.collect (missing - bytes.length) (got ++ bytes) after := by
  obtain ⟨byte, more, rfl⟩ := List.exists_cons_of_ne_nil bytes_ne
  rw [collect, if_neg missing_ne]
  simp only [StateT.bind, bind, read_eq]

/-- As many bytes as are missing are collected, whatever the pieces in which they come. -/
theorem Delivers.collect_of_le (delivers : source.Delivers left) (got : Bytes)
    (enough : missing ≤ (left world).length) :
    ∃ after, source.collect missing got world =
        (.ok (some (got ++ (left world).take missing)), after) ∧
      left after = (left world).drop missing ∧ source.Spends left 0 world after := by
  induction missing using Nat.strongRecOn generalizing got world with
  | ind missing ih =>
      by_cases missing_eq : missing = 0
      · subst missing_eq
        refine ⟨world, ?_, rfl, .refl world⟩
        rw [collect_zero, List.take_zero, List.append_nil]
      · obtain ⟨bytes, between, read_eq, delivery⟩ :=
          delivers missing world (Nat.pos_of_ne_zero missing_eq)
        have bytes_ne : bytes ≠ [] := by
          intro bytes_eq
          rw [delivery.ended bytes_eq, List.length_nil] at enough
          omega
        have brought := List.length_pos_iff.mpr bytes_ne
        have spends := delivery.spends read_eq
        rw [if_neg bytes_ne] at spends
        have enough_left : missing - bytes.length ≤ (left between).length := by
          rw [delivery.next, List.length_append] at enough
          omega
        obtain ⟨after, collect_eq, left_eq, spends'⟩ :=
          ih (missing - bytes.length) (by omega) (got ++ bytes) enough_left
        refine ⟨after, ?_, ?_, spends.trans spends'⟩
        · rw [collect_of_read missing_eq bytes_ne read_eq, collect_eq, delivery.next,
            List.take_append, List.take_of_length_le delivery.asked, List.append_assoc]
        · rw [left_eq, delivery.next, List.drop_append, List.drop_of_length_le delivery.asked,
            List.nil_append]

/-- Nothing is collected if the bytes end before; only the last read has brought none. -/
theorem Delivers.collect_of_lt (delivers : source.Delivers left) (got : Bytes)
    (short : (left world).length < missing) :
    ∃ after, source.collect missing got world = (.ok none, after) ∧
      source.Spends left 1 world after := by
  induction missing using Nat.strongRecOn generalizing got world with
  | ind missing ih =>
      have missing_ne : missing ≠ 0 := Nat.ne_of_gt (Nat.zero_lt_of_lt short)
      obtain ⟨bytes, between, read_eq, delivery⟩ :=
        delivers missing world (Nat.pos_of_ne_zero missing_ne)
      have spends := delivery.spends read_eq
      by_cases bytes_eq : bytes = []
      · subst bytes_eq
        exact ⟨between, collect_of_read_nil missing_ne read_eq, spends⟩
      · have brought := List.length_pos_iff.mpr bytes_eq
        rw [if_neg bytes_eq] at spends
        have short_left : (left between).length < missing - bytes.length := by
          rw [delivery.next, List.length_append] at short
          omega
        obtain ⟨after, collect_eq, spends'⟩ :=
          ih (missing - bytes.length) (by omega) (got ++ bytes) short_left
        refine ⟨after, ?_, spends.trans spends'⟩
        rw [collect_of_read missing_ne bytes_eq read_eq, collect_eq]

end Collect

theorem delivers_full : Source.full.Delivers id := by
  intro count left count_pos
  refine ⟨left.take count, left.drop count, rfl, ?_⟩
  exact
    { next := (List.take_append_drop count left).symm
      asked := List.length_take_le count left
      ended := fun none_taken =>
        (List.take_eq_nil_iff.mp none_taken).resolve_left (Nat.ne_of_gt count_pos) }

/-- The source of the given bytes in pieces, with the number of reads up to now: the piece that a
read brings is at most one byte longer than the number that `sizes` has for this read. -/
def inPieces (sizes : Nat → Nat) : Source (StateM (Bytes × Nat)) where
  read count := fun (left, calls) =>
    let size := min count (sizes calls + 1)
    (.ok (left.take size), left.drop size, calls + 1)

theorem delivers_inPieces (sizes : Nat → Nat) : (inPieces sizes).Delivers Prod.fst := by
  rintro count ⟨left, calls⟩ count_pos
  have size_ne : min count (sizes calls + 1) ≠ 0 := by omega
  refine ⟨left.take (min count (sizes calls + 1)), _, rfl, ?_⟩
  exact
    { next := (List.take_append_drop _ left).symm
      asked := Nat.le_trans (List.length_take_le _ left) (Nat.min_le_left _ _)
      ended := fun none_taken => (List.take_eq_nil_iff.mp none_taken).resolve_left size_ne }

theorem counts_inPieces (sizes : Nat → Nat) : (inPieces sizes).Counts Prod.snd :=
  fun _ _ => rfl

end Source

/-- On a source that delivers bytes, a decoder that closes them comes to what parsing them comes
to. -/
theorem Decoder.Closes.run_eq {missing : ε → Prop} {trailing : ε} {decoder : Decoder ε α}
    (closes : decoder.Closes missing trailing) (delivers : source.Delivers left)
    (describe : ε → Failure) (world : World) :
    ∃ after, decoder.run describe source world =
        (((decoder.parse (left world)).map Prod.fst).mapError describe, after) ∧
      (∀ value rest, decoder.parse (left world) = .ok (value, rest) → left after = rest) ∧
      source.Spends left 1 world after := by
  induction decoder generalizing world with
  | done result =>
      obtain ⟨error, rfl⟩ := closes
      refine ⟨world, rfl, ?_, fun calls counts => Nat.le_succ _⟩
      rintro value rest ⟨⟩
  | exact count error next ih =>
      by_cases short : (left world).length < count
      · obtain ⟨after, collect_eq, spends⟩ := delivers.collect_of_lt [] short
        rw [parse, if_pos short, run]
        simp only [StateT.bind, bind, collect_eq]
        refine ⟨after, rfl, ?_, spends⟩
        rintro value rest ⟨⟩
      · obtain ⟨between, collect_eq, left_eq, spends⟩ :=
          delivers.collect_of_le [] (Nat.le_of_not_lt short)
        obtain ⟨after, run_eq, rest_eq, spends'⟩ :=
          ih ((left world).take count) (closes.2 _) between
        rw [left_eq] at run_eq rest_eq
        rw [parse, if_neg short, run]
        simp only [StateT.bind, bind, collect_eq, List.nil_append]
        exact ⟨after, run_eq, rest_eq, spends.trans spends'⟩
  | atEnd next =>
      obtain ⟨refuses, result, finishes⟩ := closes
      obtain ⟨bytes, after, read_eq, delivery⟩ := delivers 1 world Nat.one_pos
      have spends := delivery.spends read_eq
      rw [parse, run]
      simp only [StateT.bind, bind, read_eq]
      by_cases bytes_eq : bytes = []
      · subst bytes_eq
        have ended : left world = [] := delivery.ended rfl
        have left_eq : left after = [] := delivery.next.symm.trans ended
        rw [ended, List.isEmpty_nil, finishes]
        cases result with
        | error error =>
            refine ⟨after, rfl, ?_, spends⟩
            rintro value rest ⟨⟩
        | ok value =>
            refine ⟨after, rfl, ?_, spends⟩
            rintro _ rest ⟨⟩
            exact left_eq
      · have brought : bytes.isEmpty = false := List.isEmpty_eq_false_iff.mpr bytes_eq
        have goes_on : (left world).isEmpty = false := by
          rw [delivery.next]
          exact List.isEmpty_eq_false_iff.mpr (List.append_ne_nil_of_left_ne_nil bytes_eq _)
        rw [if_neg bytes_eq] at spends
        rw [brought, goes_on, refuses]
        refine ⟨after, rfl, ?_, fun calls counts => Nat.le_succ_of_le (spends calls counts)⟩
        rintro value rest ⟨⟩

end BeaconCeremony
