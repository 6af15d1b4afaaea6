import BeaconCeremony.Stream.Source

/-!
# Decoders

A decoder describes which bytes to read next and what to make of them.  It can be run on a byte
string or on any source; how a source delivers its bytes is not seen by the decoder.
-/

namespace BeaconCeremony

/-- A description of how to read a value, with errors of type `ε`. -/
inductive Decoder (ε α : Type) where
  /-- The value has been read, or cannot be. -/
  | done (result : Except ε α)
  /-- Read `count` bytes and go on; `missing` is the error if there are fewer. -/
  | exact (count : Nat) (missing : ε) (next : Bytes → Decoder ε α)
  /-- Find out whether the bytes are at their end and go on. -/
  | atEnd (next : Bool → Decoder ε α)

namespace Decoder

variable {ε α β : Type}

/-- One decoder after another. -/
def andThen (decoder : Decoder ε α) (next : α → Decoder ε β) : Decoder ε β :=
  match decoder with
  | .done (.ok value) => next value
  | .done (.error error) => .done (.error error)
  | .exact count missing continuation =>
    .exact count missing fun bytes => (continuation bytes).andThen next
  | .atEnd continuation => .atEnd fun ended => (continuation ended).andThen next

instance : Monad (Decoder ε) where
  pure value := .done (.ok value)
  bind := andThen

/-- Reads exactly `count` bytes. -/
def take (count : Nat) (missing : ε) : Decoder ε Bytes :=
  .exact count missing fun bytes => .done (.ok bytes)

/-- A value that has been computed, or its error. -/
def ofExcept (result : Except ε α) : Decoder ε α := .done result

/-- Reads `count` items, numbered from `first` on. -/
def items (item : Nat → Decoder ε α) : Nat → Nat → Decoder ε (List α)
  | _, 0 => pure []
  | first, count + 1 => do
    let value ← item first
    let more ← items item (first + 1) count
    return value :: more

/-- Runs a decoder on a byte string; returns what is left as well. -/
def parse : Decoder ε α → Bytes → Except ε (α × Bytes)
  | .done (.ok value), bytes => .ok (value, bytes)
  | .done (.error error), _ => .error error
  | .exact count missing next, bytes =>
    if bytes.length < count then .error missing
    else (next (bytes.take count)).parse (bytes.drop count)
  | .atEnd next, bytes => (next bytes.isEmpty).parse bytes

/-- Runs a decoder on a source. To find out whether a source is at its end takes a byte from it. -/
def run {m : Type → Type} [Monad m] (describe : ε → Failure) (source : Source m) :
    Decoder ε α → m (Except Failure α)
  | .done (.ok value) => pure (.ok value)
  | .done (.error error) => pure (.error (describe error))
  | .exact count missing next => do
    match ← source.collect count [] with
    | .error failure => return .error failure
    | .ok none => return .error (describe missing)
    | .ok (some bytes) => (next bytes).run describe source
  | .atEnd next => do
    match ← source.read 1 with
    | .error failure => return .error failure
    | .ok bytes => (next bytes.isEmpty).run describe source

end Decoder
end BeaconCeremony
