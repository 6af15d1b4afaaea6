import BeaconCeremony.Machine
import BeaconCeremony.Proofs.Stream.Delivery

/-!
# Decoders on the source of a machine

Whatever every single read keeps is kept by a whole decoder.  The source of a machine delivers what
is left of the file that is being read, so running a decoder on it comes to what parsing these bytes
comes to.
-/

namespace BeaconCeremony

section Keeps

variable {World ε α : Type} {source : Source (StateM World)} {fact : World → Prop}
  (reads : ∀ count world, fact world → fact (source.read count world).2)

include reads

/-- What every read keeps, collecting bytes keeps. -/
theorem Source.collect_keeps (missing : Nat) (got : Bytes) (world : World) (holds : fact world) :
    fact (source.collect missing got world).2 := by
  induction missing using Nat.strongRecOn generalizing got world with
  | ind missing ih =>
      rw [Source.collect]
      by_cases nothing : missing = 0
      · rw [if_pos nothing]
        exact holds
      · rw [if_neg nothing]
        have read_holds := reads missing world holds
        simp only [StateT.bind, bind]
        generalize source.read missing world = outcome at read_holds
        obtain ⟨result, after⟩ := outcome
        rcases result with failure | - | ⟨byte, more⟩
        · exact read_holds
        · exact read_holds
        · exact ih _ (by simp only [List.length_cons]; omega) _ after read_holds

theorem Decoder.run_keeps (describe : ε → Failure) (decoder : Decoder ε α) (world : World)
    (holds : fact world) : fact (decoder.run describe source world).2 := by
  induction decoder generalizing world with
  | done result => cases result <;> exact holds
  | exact count missing next ih =>
      have collected := Source.collect_keeps reads count [] world holds
      rw [Decoder.run]
      simp only [StateT.bind, bind]
      generalize source.collect count [] world = outcome at collected
      obtain ⟨result, after⟩ := outcome
      rcases result with failure | - | bytes
      · exact collected
      · exact collected
      · exact ih bytes after collected
  | atEnd next ih =>
      have probed := reads 1 world holds
      rw [Decoder.run]
      simp only [StateT.bind, bind]
      generalize source.read 1 world = outcome at probed
      obtain ⟨result, after⟩ := outcome
      rcases result with failure | bytes
      · exact probed
      · exact ih bytes.isEmpty after probed

end Keeps

namespace Machine

variable {ε α : Type}

theorem delivers_source : (source : Source (StateM Machine)).Delivers Machine.reading := by
  intro count machine count_pos
  refine ⟨machine.reading.take count, { machine with reading := machine.reading.drop count },
    rfl, ?_⟩
  exact
    { next := (List.take_append_drop count machine.reading).symm
      asked := List.length_take_le count machine.reading
      ended := fun none_taken =>
        (List.take_eq_nil_iff.mp none_taken).resolve_left (Nat.ne_of_gt count_pos) }

/-- What parsing makes of the bytes that are left, a run on the source makes of them; nothing but
these bytes is touched. -/
theorem run_source (describe : ε → Failure) {missing : ε → Prop} {trailing : ε}
    {decoder : Decoder ε α} (closes : decoder.Closes missing trailing) {machine : Machine}
    {value : α} {rest : Bytes} (parsed : decoder.parse machine.reading = .ok (value, rest)) :
    decoder.run describe (source : Source (StateM Machine)) machine =
      (.ok value, { machine with reading := rest }) := by
  obtain ⟨after, run_eq, left_eq, -⟩ := closes.run_eq delivers_source describe machine
  have kept : { after with reading := rest } = { machine with reading := rest } := by
    have reads (count : Nat) (world : Machine)
        (holds : { world with reading := rest } = { machine with reading := rest }) :
        { ((source : Source (StateM Machine)).read count world).2 with reading := rest } =
          { machine with reading := rest } := holds
    have runs := Decoder.run_keeps reads describe decoder machine rfl
    rwa [run_eq] at runs
  rw [run_eq, parsed, ← kept, ← left_eq value rest parsed]
  rfl

end Machine
end BeaconCeremony
