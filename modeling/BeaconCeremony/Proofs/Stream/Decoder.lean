import BeaconCeremony.Stream.Decoder

/-!
# Laws of decoders

What a decoder does is told in two ways: which bytes it makes a given value of, whatever follows
them, and how the bytes that it has taken are related to the value that it has made of them.
-/

namespace BeaconCeremony
namespace Decoder

variable {ε α β : Type}

theorem parse_bind (decoder : Decoder ε α) (next : α → Decoder ε β) (bytes : Bytes) :
    (decoder >>= next).parse bytes =
      match decoder.parse bytes with
      | .ok (value, rest) => (next value).parse rest
      | .error error => .error error := by
  change (decoder.andThen next).parse bytes = _
  induction decoder generalizing bytes with
  | done result => cases result <;> rfl
  | exact count missing continuation ih =>
      simp only [andThen, parse]
      split
      · rfl
      · exact ih _ _
  | atEnd continuation ih => exact ih _ _

theorem parse_atEnd_bind (next : Bool → Decoder ε α) (bytes : Bytes) :
    ((atEnd fun ended => pure ended) >>= next).parse bytes = (next bytes.isEmpty).parse bytes :=
  parse_bind _ next bytes

/-- The decoder makes the value of the bytes, whatever follows them. -/
def Decodes (decoder : Decoder ε α) (bytes : Bytes) (value : α) : Prop :=
  ∀ rest, decoder.parse (bytes ++ rest) = .ok (value, rest)

theorem Decodes.pure (value : α) : Decodes (Pure.pure value : Decoder ε α) [] value :=
  fun _ => rfl

theorem Decodes.ofExcept {result : Except ε α} {value : α} (result_eq : result = .ok value) :
    Decodes (ofExcept result) [] value := by
  subst result_eq
  exact fun _ => rfl

theorem Decodes.take {count : Nat} {missing : ε} {bytes : Bytes} (sized : bytes.length = count) :
    Decodes (take count missing) bytes bytes := by
  intro rest
  subst sized
  simp [Decoder.take, parse]

/-- What is left after the bytes of one decoder is for the next. -/
theorem Decodes.parse_bind {decoder : Decoder ε α} {next : α → Decoder ε β} {bytes : Bytes}
    {value : α} (first : Decodes decoder bytes value) (rest : Bytes) :
    (decoder >>= next).parse (bytes ++ rest) = (next value).parse rest := by
  rw [Decoder.parse_bind, first rest]

theorem Decodes.bind {decoder : Decoder ε α} {next : α → Decoder ε β} {bytes more : Bytes}
    {value : α} {result : β} (first : Decodes decoder bytes value)
    (second : Decodes (next value) more result) :
    Decodes (decoder >>= next) (bytes ++ more) result := by
  intro rest
  rw [List.append_assoc, first.parse_bind]
  exact second rest

/-- What has been taken is made something else of. -/
theorem Decodes.bind_nil {decoder : Decoder ε α} {next : α → Decoder ε β} {bytes : Bytes}
    {value : α} {result : β} (first : Decodes decoder bytes value)
    (second : Decodes (next value) [] result) : Decodes (decoder >>= next) bytes result := by
  have both := first.bind second
  rwa [List.append_nil] at both

/-- What takes no bytes leaves them all to the next. -/
theorem Decodes.parse_bind_nil {decoder : Decoder ε α} {next : α → Decoder ε β} {value : α}
    (first : Decodes decoder [] value) (rest : Bytes) :
    (decoder >>= next).parse rest = (next value).parse rest :=
  first.parse_bind rest

/-- Items that are written one after the other are read one after the other. -/
theorem Decodes.items {γ : Type} {item : Nat → Decoder ε α} {write : γ → Bytes} {read : γ → α}
    {values : List γ}
    (each : ∀ value ∈ values, ∀ index, Decodes (item index) (write value) (read value))
    (first : Nat) :
    Decodes (items item first values.length) (values.flatMap write) (values.map read) := by
  induction values generalizing first with
  | nil => exact .pure _
  | cons value values ih =>
      obtain ⟨here, there⟩ := List.forall_mem_cons.mp each
      have following : Decodes (Decoder.items item (first + 1) values.length >>= fun more =>
          Pure.pure (read value :: more)) (values.flatMap write)
          (read value :: values.map read) := by
        intro rest
        rw [(ih there (first + 1)).parse_bind]
        rfl
      exact (here first).bind following

/-- Whatever the decoder makes of bytes is related to those of them that it has taken. -/
def Relates (relation : Bytes → α → Prop) (decoder : Decoder ε α) : Prop :=
  ∀ bytes value rest, decoder.parse bytes = .ok (value, rest) →
    ∃ taken, bytes = taken ++ rest ∧ relation taken value

variable {relation relation' : Bytes → α → Prop}

theorem Relates.imp {decoder : Decoder ε α} (relates : Relates relation decoder)
    (weaker : ∀ bytes value, relation bytes value → relation' bytes value) :
    Relates relation' decoder := by
  intro bytes value rest parsed
  obtain ⟨taken, split, related⟩ := relates bytes value rest parsed
  exact ⟨taken, split, weaker taken value related⟩

theorem Relates.pure {value : α} (related : relation [] value) :
    Relates relation (Pure.pure value : Decoder ε α) := by
  rintro bytes _ _ ⟨⟩
  exact ⟨[], rfl, related⟩

theorem Relates.ofExcept {result : Except ε α}
    (related : ∀ value, result = .ok value → relation [] value) :
    Relates relation (ofExcept result) := by
  cases result with
  | error error => rintro bytes value rest ⟨⟩
  | ok value => exact .pure (related value rfl)

theorem Relates.take (count : Nat) (missing : ε) :
    Relates (fun taken value => taken = value ∧ value.length = count) (take count missing) := by
  intro bytes value rest parsed
  simp only [Decoder.take, parse] at parsed
  split at parsed
  · contradiction
  · rename_i enough
    obtain ⟨rfl, rfl⟩ := Prod.mk.inj (Except.ok.inj parsed)
    refine ⟨bytes.take count, (List.take_append_drop count bytes).symm, rfl, ?_⟩
    exact List.length_take_of_le (Nat.le_of_not_lt enough)

theorem Relates.atEnd :
    Relates (fun taken _ => taken = [])
      (Decoder.atEnd fun ended => Pure.pure ended : Decoder ε Bool) := by
  rintro bytes _ _ ⟨⟩
  exact ⟨[], rfl, rfl⟩

theorem Relates.bind {relation : Bytes → β → Prop} {middle : Bytes → α → Prop}
    {decoder : Decoder ε α} {next : α → Decoder ε β} (first : Relates middle decoder)
    (second : ∀ bytes value, middle bytes value →
      Relates (fun more result => relation (bytes ++ more) result) (next value)) :
    Relates relation (decoder >>= next) := by
  intro bytes result rest parsed
  rw [Decoder.parse_bind] at parsed
  split at parsed
  · rename_i value left reached
    obtain ⟨taken, rfl, related⟩ := first bytes value left reached
    obtain ⟨more, rfl, related⟩ := second taken value related left result rest parsed
    exact ⟨taken ++ more, (List.append_assoc _ _ _).symm, related⟩
  · contradiction

/-- As many items are read as are asked for, and the bytes taken are those of one item after the
other. -/
theorem Relates.items {write : α → Bytes} {property : α → Prop} {item : Nat → Decoder ε α}
    (each : ∀ index, Relates (fun taken value => write value = taken ∧ property value) (item index))
    (count first : Nat) :
    Relates (fun taken values => values.flatMap write = taken ∧ values.length = count ∧
        ∀ value ∈ values, property value)
      (items item first count) := by
  induction count generalizing first with
  | zero => exact .pure ⟨rfl, rfl, List.forall_mem_nil property⟩
  | succ count ih =>
      refine .bind (each first) fun piece value ⟨here_written, here⟩ => ?_
      refine .bind (ih (first + 1)) fun bytes values ⟨rest_written, counted, all⟩ => ?_
      refine .pure ⟨?_, congrArg (· + 1) counted, List.forall_mem_cons.mpr ⟨here, all⟩⟩
      rw [List.flatMap_cons, here_written, rest_written, List.append_nil]

end Decoder
end BeaconCeremony
