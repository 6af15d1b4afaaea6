import BeaconCeremony.Bytes.Basic

/-!
# Byte strings of a fixed length

Chain states have 32 bytes, transcript hashes and contribution fingerprints 64.  The length is
part of the type, so it is checked once, where bytes enter.
-/

namespace BeaconCeremony

/-- A byte string of exactly `size` bytes. -/
structure Digest (size : Nat) where
  /-- The bytes themselves. -/
  bytes : Bytes
  /-- There are `size` of them. -/
  length_bytes : bytes.length = size
deriving DecidableEq

namespace Digest

/-- The bytes as a digest, if there are as many as the digest needs. -/
def ofBytes? (size : Nat) (bytes : Bytes) : Option (Digest size) :=
  if sized : bytes.length = size then some ⟨bytes, sized⟩ else none

@[ext]
theorem ext {size : Nat} {left right : Digest size} (same : left.bytes = right.bytes) :
    left = right := by
  cases left; cases right; cases same; rfl

@[simp]
theorem ofBytes?_bytes {size : Nat} (digest : Digest size) :
    ofBytes? size digest.bytes = some digest := by
  simp [ofBytes?, digest.length_bytes]

theorem bytes_of_ofBytes? {size : Nat} {bytes : Bytes} {digest : Digest size}
    (found : ofBytes? size bytes = some digest) : digest.bytes = bytes := by
  rw [ofBytes?] at found
  split at found
  · exact congrArg Digest.bytes (Option.some.inj found).symm
  · contradiction

end Digest
end BeaconCeremony
