import BeaconCeremony.Hash.Blake2b

/-!
# Messages that are hashed in pieces

An absorber works in a block only when something follows it.  How a message is cut into pieces
therefore makes no difference: absorbing two pieces is absorbing them as one.  A digest that is
taken on the way is that of the bytes up to there, and the later ones are what they are without it.
-/

namespace BeaconCeremony
namespace Blake2b
namespace Absorber

variable {absorber : Absorber}

theorem drain_of_le (short : absorber.pending.length ≤ 128) : absorber.drain = absorber := by
  have nothing_follows : (absorber.pending.drop 128).isEmpty = true := by simpa using short
  rw [drain, if_pos nothing_follows]

theorem drain_of_lt (long : 128 < absorber.pending.length) :
    absorber.drain =
      drain {
        chaining := compress absorber.chaining (absorber.pending.take 128)
          (absorber.absorbed + 128) false
        absorbed := absorber.absorbed + 128
        pending := absorber.pending.drop 128 } := by
  have something_follows : ¬(absorber.pending.drop 128).isEmpty = true := by simpa using long
  rw [drain, if_neg something_follows]

/-- What has been drained already need not be drained again with what follows it. -/
theorem drain_append (absorber : Absorber) (more : Bytes) :
    drain { absorber.drain with pending := absorber.drain.pending ++ more } =
      drain { absorber with pending := absorber.pending ++ more } := by
  induction absorber using drain.induct with
  | case1 absorber nothing_follows =>
      have short : absorber.pending.length ≤ 128 := by simpa using nothing_follows
      rw [drain_of_le short]
  | case2 absorber something_follows ih =>
      have long : 128 < absorber.pending.length := by simpa using something_follows
      have longer : 128 < (absorber.pending ++ more).length := by
        rw [List.length_append]
        omega
      rw [drain_of_lt long, ih,
        @drain_of_lt { absorber with pending := absorber.pending ++ more } longer]
      simp only [List.take_append_of_le_length (Nat.le_of_lt long),
        List.drop_append_of_le_length (Nat.le_of_lt long)]

theorem absorb_append (absorber : Absorber) (first second : Bytes) :
    absorber.absorb (first ++ second) = (absorber.absorb first).absorb second := by
  rw [absorb, absorb, absorb, drain_append, List.append_assoc]

/-- Pieces are absorbed like the message that they make up. -/
theorem foldl_absorb (absorber : Absorber) (message : Bytes) (pieces : List Bytes) :
    pieces.foldl absorb (absorber.absorb message) =
      absorber.absorb (message ++ pieces.flatten) := by
  induction pieces generalizing message with
  | nil => rw [List.foldl_nil, List.flatten_nil, List.append_nil]
  | cons piece pieces ih =>
      rw [List.foldl_cons, ← absorb_append, ih, List.flatten_cons, List.append_assoc]

/-- What an absorber is used for. -/
inductive Use where
  /-- A piece of the message is absorbed. -/
  | absorb (piece : Bytes)
  /-- The digest of the message up to now is taken. -/
  | digest

/-- The bytes that a use adds to the message. -/
def Use.added : Use → Bytes
  | .absorb piece => piece
  | .digest => []

/-- The digests that are taken if an absorber is used several times. -/
def digests (absorber : Absorber) : List Use → List (Digest 64)
  | [] => []
  | .absorb piece :: uses => (absorber.absorb piece).digests uses
  | .digest :: uses => absorber.digest :: absorber.digests uses

end Absorber
end Blake2b
end BeaconCeremony
