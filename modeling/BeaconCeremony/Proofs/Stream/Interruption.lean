import BeaconCeremony.Proofs.Stream.Delivery

/-!
# Sources that may break off

A file can be read up to some place and then fail.  A source yields bytes if every read brings some
of the next ones or fails with an error of the operating system.  On such a source, a decoder that
closes its bytes comes to what parsing them comes to, unless a read fails; then it reads nothing
more, and the error of that read is all it comes to.
-/

namespace BeaconCeremony

variable {World ε α : Type} {source : Source (StateM World)} {left : World → Bytes}

namespace Source

/-- Every read of the source brings some of the bytes that are left, or fails with an error of the
operating system. -/
def Yields (source : Source (StateM World)) (left : World → Bytes) : Prop :=
  ∀ count world, 0 < count →
    (∃ bytes after, source.read count world = (.ok bytes, after) ∧
      Delivery left count world bytes after) ∨
    ∃ error after, source.read count world = (.error (.system error), after)

/-- The world is one in which a read has just failed with the error. -/
def BreaksOff (source : Source (StateM World)) (error : SystemError) (after : World) : Prop :=
  ∃ count before, source.read count before = (.error (.system error), after)

/-- How collecting bytes ends on a source that may break off. -/
inductive Collected (source : Source (StateM World)) (left : World → Bytes) (missing : Nat)
    (got : Bytes) (world : World) : Except Failure (Option Bytes) → World → Prop
  | complete {after : World} (enough : missing ≤ (left world).length)
      (left_eq : left after = (left world).drop missing) :
      Collected source left missing got world (.ok (some (got ++ (left world).take missing))) after
  | short {after : World} (short : (left world).length < missing) :
      Collected source left missing got world (.ok none) after
  | broken {error : SystemError} {after : World} (breaks : source.BreaksOff error after) :
      Collected source left missing got world (.error (.system error)) after

theorem collect_of_read_error {missing : Nat} {got : Bytes} {world after : World}
    {failure : Failure} (missing_ne : missing ≠ 0)
    (read_eq : source.read missing world = (.error failure, after)) :
    source.collect missing got world = (.error failure, after) := by
  rw [collect, if_neg missing_ne]
  simp only [StateT.bind, bind, read_eq]
  rfl

/-- A piece that has come is the beginning of what is collected. -/
theorem Collected.of_delivery {missing : Nat} {got bytes : Bytes} {before between after : World}
    {result : Except Failure (Option Bytes)}
    (delivery : Delivery left missing before bytes between)
    (rest : Collected source left (missing - bytes.length) (got ++ bytes) between result after) :
    Collected source left missing got before result after := by
  have asked := delivery.asked
  have length_eq : (left before).length = bytes.length + (left between).length := by
    rw [delivery.next, List.length_append]
  cases rest with
  | complete enough left_eq =>
      have taken_eq : got ++ (left before).take missing =
          got ++ bytes ++ (left between).take (missing - bytes.length) := by
        rw [delivery.next, List.take_append, List.take_of_length_le asked, List.append_assoc]
      have dropped_eq : (left before).drop missing =
          (left between).drop (missing - bytes.length) := by
        rw [delivery.next, List.drop_append, List.drop_of_length_le asked, List.nil_append]
      rw [← taken_eq]
      exact .complete (by omega) (left_eq.trans dropped_eq.symm)
  | short short => exact .short (by omega)
  | broken breaks => exact .broken breaks

theorem Yields.exists_collected (yields : source.Yields left) (missing : Nat) (got : Bytes)
    (world : World) :
    ∃ result after, source.collect missing got world = (result, after) ∧
      Collected source left missing got world result after := by
  induction missing using Nat.strongRecOn generalizing got world with
  | ind missing ih =>
      by_cases missing_eq : missing = 0
      · subst missing_eq
        refine ⟨_, world, collect_zero got world, ?_⟩
        have nothing := @Collected.complete World source left 0 got world world (Nat.zero_le _) rfl
        rwa [List.take_zero, List.append_nil] at nothing
      · rcases yields missing world (Nat.pos_of_ne_zero missing_eq) with
          ⟨bytes, between, read_eq, delivery⟩ | ⟨error, after, read_eq⟩
        · by_cases bytes_eq : bytes = []
          · subst bytes_eq
            have ended : left world = [] := delivery.ended rfl
            refine ⟨_, between, collect_of_read_nil missing_eq read_eq, .short ?_⟩
            rw [ended]
            exact Nat.pos_of_ne_zero missing_eq
          · have brought := List.length_pos_iff.mpr bytes_eq
            obtain ⟨result, after, collect_eq, rest⟩ :=
              ih (missing - bytes.length) (by omega) (got ++ bytes) between
            refine ⟨result, after, ?_, rest.of_delivery delivery⟩
            rw [collect_of_read missing_eq bytes_eq read_eq, collect_eq]
        · exact ⟨_, after, collect_of_read_error missing_eq read_eq, .broken ⟨_, _, read_eq⟩⟩

end Source

/-- A decoder that closes its bytes comes to what parsing them comes to, or to the error of the last
read. -/
theorem Decoder.Closes.run_eq_or_breaksOff {missing : ε → Prop} {trailing : ε}
    {decoder : Decoder ε α} (closes : decoder.Closes missing trailing)
    (yields : source.Yields left) (describe : ε → Failure) (world : World) :
    ∃ result after, decoder.run describe source world = (result, after) ∧
      (result = ((decoder.parse (left world)).map Prod.fst).mapError describe ∨
        ∃ error, result = .error (.system error) ∧ source.BreaksOff error after) := by
  induction decoder generalizing world with
  | done result =>
      obtain ⟨error, rfl⟩ := closes
      exact ⟨_, world, rfl, .inl rfl⟩
  | exact count error next ih =>
      obtain ⟨result, between, collect_eq, collected⟩ := yields.exists_collected count [] world
      rw [parse, run]
      simp only [StateT.bind, bind, collect_eq]
      cases collected with
      | complete enough left_eq =>
          obtain ⟨result, after, run_eq, ends⟩ := ih _ (closes.2 ((left world).take count)) between
          rw [left_eq] at ends
          rw [if_neg (Nat.not_lt_of_le enough), List.nil_append]
          exact ⟨result, after, run_eq, ends⟩
      | short short =>
          rw [if_pos short]
          exact ⟨_, between, rfl, .inl rfl⟩
      | broken breaks => exact ⟨_, between, rfl, .inr ⟨_, rfl, breaks⟩⟩
  | atEnd next =>
      obtain ⟨refuses, result, finishes⟩ := closes
      rw [parse, run]
      rcases yields 1 world Nat.one_pos with
        ⟨bytes, after, read_eq, delivery⟩ | ⟨error, after, read_eq⟩
      · have ended_eq : bytes.isEmpty = (left world).isEmpty := by
          rw [Bool.eq_iff_iff, List.isEmpty_iff, List.isEmpty_iff]
          refine ⟨delivery.ended, fun left_eq => ?_⟩
          exact (List.append_eq_nil_iff.mp (delivery.next.symm.trans left_eq)).1
        simp only [StateT.bind, bind, read_eq, ended_eq]
        cases (left world).isEmpty with
        | false =>
            rw [refuses]
            exact ⟨_, after, rfl, .inl rfl⟩
        | true =>
            rw [finishes]
            cases result with
            | error error => exact ⟨_, after, rfl, .inl rfl⟩
            | ok value => exact ⟨_, after, rfl, .inl rfl⟩
      · simp only [StateT.bind, bind, read_eq]
        exact ⟨_, after, rfl, .inr ⟨error, rfl, _, _, read_eq⟩⟩

namespace Source

/-- The source of the given bytes that brings a single byte at a time and fails when the number of
reads that are left has come to zero. -/
def lasting (error : SystemError) : Source (StateM (Bytes × Nat)) where
  read _ := fun (left, reads) =>
    match reads with
    | 0 => (.error (.system error), left, 0)
    | reads + 1 => (.ok (left.take 1), left.drop 1, reads)

theorem yields_lasting (error : SystemError) : (lasting error).Yields Prod.fst := by
  rintro count ⟨left, reads⟩ count_pos
  cases reads with
  | zero => exact .inr ⟨error, _, rfl⟩
  | succ reads =>
      refine .inl ⟨left.take 1, _, rfl, ?_⟩
      exact
        { next := (List.take_append_drop 1 left).symm
          asked := Nat.le_trans (List.length_take_le 1 left) count_pos
          ended := fun none_taken =>
            (List.take_eq_nil_iff.mp none_taken).resolve_left Nat.one_ne_zero }

end Source

end BeaconCeremony
