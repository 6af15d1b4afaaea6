import BeaconCeremony.Error

/-!
# Sources and sinks of bytes

Where parameters are read from and written to.  A source brings as many bytes at a time as it
likes, up to what is asked for, and none only at its end.  What a source or sink does takes place in
a monad: a state monad for a model of it, `IO` for a real one.
-/

namespace BeaconCeremony

/-- A source of bytes. -/
structure Source (m : Type → Type) where
  /-- Brings at most the given number of bytes. -/
  read : Nat → m (Except Failure Bytes)

/-- A sink of bytes. -/
structure Sink (m : Type → Type) where
  /-- Takes bytes. -/
  write : Bytes → m (Except Failure Unit)
  /-- Passes on what has been taken. -/
  flush : m (Except Failure Unit)

namespace Source

variable {m : Type → Type} [Monad m]

/-- Reads until `missing` more bytes have come; nothing if the source ends before. -/
def collect (source : Source m) (missing : Nat) (got : Bytes) :
    m (Except Failure (Option Bytes)) :=
  if missing = 0 then pure (.ok (some got))
  else do
    match ← source.read missing with
    | .error failure => return .error failure
    | .ok [] => return .ok none
    | .ok (byte :: more) =>
      collect source (missing - (byte :: more).length) (got ++ byte :: more)
termination_by missing
decreasing_by simp only [List.length_cons]; omega

/-- The source of the given bytes in a state monad whose state is what is left of them; every
request is met in full as long as there are bytes. -/
def full : Source (StateM Bytes) where
  read count := fun left => (.ok (left.take count), left.drop count)

end Source
end BeaconCeremony
