import BeaconCeremony.Datum.Hex
import BeaconCeremony.Proofs.Chain.Walk
import BeaconCeremony.Proofs.Datum.Literal

/-!
# Which requests are accepted

A request for a chain is a beacon value and an exponent, both of them data of any type.  It is
accepted exactly if the exponent is a whole number in range and the beacon value is a text of 64
hexadecimal digits.  The exponent is judged first; a beacon value of another number of bytes is told
from one that is no hexadecimal notation at all.  A beacon value that is no text is named in the
refusal, so the refusal is another one if the value cannot be shown.
-/

namespace BeaconCeremony

/-- The datum is a text that consists of some hexadecimal digits and nothing else. -/
structure Datum.IsBare (datum : Datum) (characters : List Char) : Prop where
  /-- It is the text of the characters. -/
  text_eq : datum = .text (String.ofList characters)
  /-- They are digits. -/
  are_digits : ∀ character ∈ characters, character ∈ Hex.digits

namespace Datum

/-- Bytes are read from their spellings. -/
theorem decodeHex_eq_ok_iff {datum : Datum} {bytes : Bytes} :
    datum.decodeHex = .ok bytes ↔
      ∃ characters, datum = .text (String.ofList characters) ∧ Hex.Spells characters bytes := by
  cases datum with
  | text value => simp only [decodeHex, Hex.decode_eq_ok_iff, Datum.text.injEq]
  | _ => simp [decodeHex]

theorem exists_decodeHex_iff {datum : Datum} :
    (∃ bytes, datum.decodeHex = .ok bytes) ↔
      ∃ characters, datum.IsBare characters ∧ characters.length % 2 = 0 := by
  simp only [decodeHex_eq_ok_iff]
  constructor
  · rintro ⟨bytes, characters, text_eq, spells⟩
    obtain ⟨are_digits, even⟩ := Hex.exists_spells_iff.mp ⟨bytes, spells⟩
    exact ⟨characters, ⟨text_eq, are_digits⟩, even⟩
  · rintro ⟨characters, bare, even⟩
    obtain ⟨bytes, spells⟩ := Hex.exists_spells_iff.mpr ⟨bare.are_digits, even⟩
    exact ⟨bytes, characters, bare.text_eq, spells⟩

/-- Only an even number of digits is read, and the bytes are written as the digits in lower case. -/
theorem exists_bare_of_decodeHex {datum : Datum} {bytes : Bytes}
    (decoded : datum.decodeHex = .ok bytes) :
    ∃ characters, datum.IsBare characters ∧ characters.length % 2 = 0 ∧
      Hex.encode bytes = String.ofList (characters.map Char.toLower) := by
  obtain ⟨characters, text_eq, spells⟩ := decodeHex_eq_ok_iff.mp decoded
  obtain ⟨are_digits, even⟩ := Hex.exists_spells_iff.mp ⟨bytes, spells⟩
  exact ⟨characters, ⟨text_eq, are_digits⟩, even, congrArg String.ofList spells.encodeChars_eq⟩

end Datum

namespace Chain

/-! ## The two checks -/

theorem ofDatum_eq_error {exponent : Datum}
    (refused : ¬∃ number : Int, exponent = .int number ∧ 10 ≤ number ∧ number ≤ 63) :
    Exponent.ofDatum exponent = .error (.iterationRange exponent 10 63) := by
  cases exponent with
  | int number =>
      have none_found : Exponent.ofInt? number = none := by
        refine Option.eq_none_iff_forall_not_mem.mpr fun found found_mem => ?_
        have accepted : Exponent.ofDatum (.int number) = .ok found :=
          ofDatum_int_eq_ok_iff.mpr (ofInt?_eq_some_iff.mp found_mem)
        exact refused ⟨number, rfl, exists_ofDatum_iff.mp ⟨found, accepted⟩⟩
      rw [Exponent.ofDatum, none_found]
      rfl
  | _ => rfl

theorem parseBeacon_of_not_bare {text : RawText} (depth : Nat)
    (refused : ¬∃ characters, (Datum.text text).IsBare characters ∧ characters.length % 2 = 0) :
    parseBeacon depth (.text text) = .error (.ceremony (.beaconFormat text .notHex)) := by
  cases decoded : Hex.decode text with
  | error error => simp only [parseBeacon, decoded]
  | ok bytes =>
      have accepted : (Datum.text text).decodeHex = .ok bytes := decoded
      exact absurd (Datum.exists_decodeHex_iff.mp ⟨bytes, accepted⟩) refused

theorem parseBeacon_of_length_ne {characters : List Char} {bytes : Bytes} (depth : Nat)
    (spells : Hex.Spells characters bytes) (length_ne : bytes.length ≠ 32) :
    parseBeacon depth (.text (String.ofList characters)) = .error (.ceremony
      (.beaconFormat (String.ofList characters) (.wrongLength (some bytes.length)))) := by
  simp [parseBeacon, spells.decode_eq, Digest.ofBytes?, length_ne]

theorem parseBeacon_of_not_text {value : Datum} (depth : Nat)
    (foreign : ∀ text, value ≠ .text text) :
    parseBeacon depth value =
      match value.literal depth with
      | .ok shown => .error (.ceremony (.beaconFormat shown .notHex))
      | .error unshown => .error unshown.failure := by
  cases value with
  | text text => exact absurd rfl (foreign text)
  | _ => rfl

/-- A beacon value is refused by its format, unless it is no text and cannot be shown. -/
theorem cases_of_parseBeacon_eq_error {depth : Nat} {value : Datum} {failure : Failure}
    (refused : parseBeacon depth value = .error failure) :
    (∃ shown fault, failure = .ceremony (.beaconFormat shown fault)) ∨
      (∀ text, value ≠ .text text) ∧
        ∃ unshown, value.literal depth = .error unshown ∧ failure = unshown.failure := by
  by_cases foreign : ∀ text, value ≠ .text text
  · rw [parseBeacon_of_not_text depth foreign] at refused
    cases literal_eq : value.literal depth with
    | ok shown =>
        rw [literal_eq] at refused
        exact .inl ⟨shown, .notHex, (Except.error.inj refused).symm⟩
    | error unshown =>
        rw [literal_eq] at refused
        exact .inr ⟨foreign, unshown, rfl, (Except.error.inj refused).symm⟩
  · obtain ⟨text, text_eq⟩ := not_forall.mp foreign
    obtain rfl := not_not.mp text_eq
    rw [parseBeacon] at refused
    split at refused
    · exact .inl ⟨text, .notHex, (Except.error.inj refused).symm⟩
    · split at refused
      · contradiction
      · exact .inl ⟨text, _, (Except.error.inj refused).symm⟩

/-! ## Verdicts on requests -/

section Requests

variable {m : Type → Type} [Monad m] {depth : Nat} {value exponent : Datum} {number : Int}
  {characters : List Char} (visit : Checkpoint → m Unit)

theorem derive_of_ofDatum
    (refused : ¬∃ number : Int, exponent = .int number ∧ 10 ≤ number ∧ number ≤ 63) :
    derive depth value exponent visit =
      pure (.error (.ceremony (.iterationRange exponent 10 63))) := by
  rw [derive, ofHex, ofDatum_eq_error refused]
  rfl

theorem derive_of_parseBeacon {failure : Failure} (in_range : 10 ≤ number ∧ number ≤ 63)
    (refused : parseBeacon depth value = .error failure) :
    derive depth value (.int number) visit = pure (.error failure) := by
  obtain ⟨exponent, exponent_eq⟩ := exists_ofDatum_iff.mpr in_range
  rw [derive, ofHex, exponent_eq, refused]
  rfl

theorem derive_of_length_ne (in_range : 10 ≤ number ∧ number ≤ 63)
    (bare : value.IsBare characters) (even : characters.length % 2 = 0)
    (length_ne : characters.length ≠ 64) :
    derive depth value (.int number) visit = pure (.error (.ceremony (.beaconFormat
      (String.ofList characters) (.wrongLength (some ↑(characters.length / 2)))))) := by
  obtain ⟨bytes, spells⟩ := Hex.exists_spells_iff.mpr ⟨bare.are_digits, even⟩
  have length_eq := spells.length_eq
  have half : characters.length / 2 = bytes.length := by omega
  obtain rfl := bare.text_eq
  rw [half]
  exact derive_of_parseBeacon visit in_range (parseBeacon_of_length_ne depth spells (by omega))

/-- The chain of 64 digits is run. -/
theorem derive_of_bare [LawfulMonad m] (in_range : 10 ≤ number ∧ number ≤ 63)
    (bare : value.IsBare characters) (length_eq : characters.length = 64) :
    ∃ chain : Chain, chain.exponent.value = number ∧
      Hex.encode chain.beacon.bytes = String.ofList (characters.map Char.toLower) ∧
      derive depth value (.int number) visit = do
        chain.definition.checkpoints.forM visit
        return .ok chain.definition := by
  obtain ⟨bytes, spells⟩ := Hex.exists_spells_iff.mpr ⟨bare.are_digits, by omega⟩
  obtain ⟨exponent, exponent_eq⟩ := exists_ofDatum_iff.mpr in_range
  obtain rfl := ofDatum_int_eq_ok_iff.mp exponent_eq
  obtain rfl := bare.text_eq
  have length_bytes : bytes.length = 32 := by
    have twice := spells.length_eq
    omega
  let chain : Chain := ⟨⟨bytes, length_bytes⟩, exponent⟩
  have parsed : ofHex depth (.text (String.ofList characters)) (.int exponent.value) = .ok chain :=
    ofHex_of_spells depth chain spells
  refine ⟨chain, rfl, congrArg String.ofList spells.encodeChars_eq, ?_⟩
  rw [derive, parsed]
  simp only [run_eq]

/-- A beacon value that is no text is refused by its literal, if it has one. -/
theorem derive_of_not_text (in_range : 10 ≤ number ∧ number ≤ 63)
    (foreign : ∀ text, value ≠ .text text) :
    (∀ shown, value.literal depth = .ok shown → derive depth value (.int number) visit =
      pure (.error (.ceremony (.beaconFormat shown .notHex)))) ∧
    ∀ unshown, value.literal depth = .error unshown →
      derive depth value (.int number) visit = pure (.error unshown.failure) := by
  have parsed := parseBeacon_of_not_text depth foreign
  constructor
  · intro shown literal_eq
    rw [literal_eq] at parsed
    exact derive_of_parseBeacon visit in_range parsed
  · intro unshown literal_eq
    rw [literal_eq] at parsed
    exact derive_of_parseBeacon visit in_range parsed

theorem derive_of_unwritten {value : Int} (in_range : 10 ≤ number ∧ number ≤ 63)
    (unwritten : Text.written? value = none) :
    derive (depth + 1) (.int value) (.int number) visit =
      pure (.error (.value Text.tooManyDigitsToWrite)) := by
  have unshown : (Datum.int value).literal (depth + 1) = .error .longNumber := by
    rw [Datum.literal, Datum.intLiteral, unwritten]
  have foreign (text : RawText) : Datum.int value ≠ .text text := Datum.noConfusion
  exact (derive_of_not_text visit in_range foreign).2 .longNumber unshown

end Requests

/-- Validation accepts exactly the documented requests.  Whatever the beacon value is, an exponent
that is not a whole number from 10 to 63 is refused as such.  With an exponent in range a text of an
even number of digits other than 64 is refused for its length, every other text that is not one of
64 digits is refused as no hexadecimal notation, and for a text of 64 digits the chain of the bytes
is run whose notation is the text in lower case.  What is no text is refused as no hexadecimal
notation if it can be shown, which it can unless it nests too deep or has a whole number in it that
is too long; else the refusal is that it cannot be shown.  Texts in hexadecimal notation of bytes
are those of an even number of digits, and the bytes have the text in lower case as their
notation. -/
theorem derive_accepts_exactly {m : Type → Type} [Monad m] [LawfulMonad m] (depth : Nat)
    (value exponent : Datum) (visit : Checkpoint → m Unit) :
    ((¬∃ number : Int, exponent = .int number ∧ 10 ≤ number ∧ number ≤ 63) →
      derive depth value exponent visit =
        pure (.error (.ceremony (.iterationRange exponent 10 63)))) ∧
    (∀ number : Int, exponent = .int number → 10 ≤ number ∧ number ≤ 63 →
      (∀ characters, value.IsBare characters → characters.length % 2 = 0 →
        characters.length ≠ 64 →
        derive depth value exponent visit = pure (.error (.ceremony (.beaconFormat
          (String.ofList characters) (.wrongLength (some ↑(characters.length / 2))))))) ∧
      (∀ text, value = .text text →
        (¬∃ characters, value.IsBare characters ∧ characters.length % 2 = 0) →
        derive depth value exponent visit =
          pure (.error (.ceremony (.beaconFormat text .notHex)))) ∧
      ((∀ text, value ≠ .text text) →
        (∀ shown, value.literal depth = .ok shown → derive depth value exponent visit =
          pure (.error (.ceremony (.beaconFormat shown .notHex)))) ∧
        (∀ unshown, value.literal depth = .error unshown →
          derive depth value exponent visit = pure (.error unshown.failure)) ∧
        ((∃ shown, value.literal depth = .ok shown) ↔
          value.nesting ≤ depth ∧ value.isWritable = true)) ∧
      ∀ characters, value.IsBare characters → characters.length = 64 →
        ∃ chain : Chain, chain.exponent.value = number ∧
          Hex.encode chain.beacon.bytes = String.ofList (characters.map Char.toLower) ∧
          derive depth value exponent visit = do
            chain.definition.checkpoints.forM visit
            return .ok chain.definition) ∧
    (∀ characters, value.IsBare characters → characters.length % 2 = 0 →
      ∃ bytes, value.decodeHex = .ok bytes) ∧
    ∀ bytes, value.decodeHex = .ok bytes → ∃ characters, value.IsBare characters ∧
      characters.length % 2 = 0 ∧
      Hex.encode bytes = String.ofList (characters.map Char.toLower) := by
  refine ⟨derive_of_ofDatum visit, ?_, ?_, fun bytes => Datum.exists_bare_of_decodeHex⟩
  · rintro number rfl in_range
    refine ⟨fun characters => derive_of_length_ne visit in_range, ?_, fun foreign => ?_,
      fun characters => derive_of_bare visit in_range⟩
    · rintro text rfl refused
      exact derive_of_parseBeacon visit in_range (parseBeacon_of_not_bare depth refused)
    · obtain ⟨named, unnamed⟩ := derive_of_not_text visit in_range foreign
      exact ⟨named, unnamed, Datum.exists_literal_iff⟩
  · intro characters bare even
    exact Datum.exists_decodeHex_iff.mpr ⟨characters, bare, even⟩

/-- For the shortest chain 64 digits of mixed case are accepted, but neither 62 of them nor all of
them with a line feed at the end.  A truth value is no exponent, whatever the beacon value is; and a
list is named in its refusal, for which there must be a call for the list and one for its item. -/
theorem derive_accepts_exactly_mixedCase :
    let keep : Checkpoint → StateM (List Checkpoint) Unit :=
      fun checkpoint => modify (checkpoint :: ·)
    let characters : List Char := (List.replicate 32 ['a', 'B']).flatten
    let short : Datum := .text (String.ofList (characters.drop 2))
    let fed : String := String.ofList (characters ++ ['\n'])
    LawfulMonad (StateM (List Checkpoint)) ∧
    derive 2 .null (.bool true) keep =
      pure (.error (.ceremony (.iterationRange (.bool true) 10 63))) ∧
    derive 2 short (.int 10) keep = pure (.error (.ceremony
      (.beaconFormat (String.ofList (characters.drop 2)) (.wrongLength (some 31))))) ∧
    derive 2 (.text fed) (.int 10) keep =
      pure (.error (.ceremony (.beaconFormat fed .notHex))) ∧
    derive 2 (.list [.null]) (.int 10) keep =
      pure (.error (.ceremony (.beaconFormat "[None]" .notHex))) ∧
    derive 1 (.list [.null]) (.int 10) keep =
      pure (.error (.tooDeep LiteralError.tooDeep.message)) ∧
    ∃ chain : Chain, chain.exponent.value = (10 : Int) ∧
      Hex.encode chain.beacon.bytes = String.ofList (characters.map Char.toLower) ∧
      derive 2 (.text (String.ofList characters)) (.int 10) keep = do
        chain.definition.checkpoints.forM keep
        return .ok chain.definition := by
  intro keep characters short fed
  have in_range : (10 : Int) ≤ 10 ∧ (10 : Int) ≤ 63 := by decide
  have all_digits : characters.all Hex.isDigit = true := by decide
  have are_digits : ∀ character ∈ characters, character ∈ Hex.digits := fun character member =>
    Hex.isDigit_iff.mp (List.all_eq_true.mp all_digits character member)
  have bare : (Datum.text (String.ofList characters)).IsBare characters := ⟨rfl, are_digits⟩
  have short_bare : short.IsBare (characters.drop 2) :=
    ⟨rfl, fun character member => are_digits character (List.mem_of_mem_drop member)⟩
  have fed_not_bare : ¬∃ others, (Datum.text fed).IsBare others ∧ others.length % 2 = 0 := by
    rintro ⟨others, fed_bare, -⟩
    have texts_eq := congrArg RawText.start (Datum.text.inj fed_bare.text_eq)
    have same : characters ++ ['\n'] = others := String.ofList_injective texts_eq
    have feed_not_digit : '\n' ∉ Hex.digits := by decide
    exact feed_not_digit (fed_bare.are_digits '\n' (same ▸ by simp))
  obtain ⟨refused, -⟩ := derive_accepts_exactly 2 .null (.bool true) keep
  obtain ⟨-, short_judged, -⟩ := derive_accepts_exactly 2 short (.int 10) keep
  obtain ⟨-, fed_judged, -⟩ := derive_accepts_exactly 2 (.text fed) (.int 10) keep
  obtain ⟨-, list_judged, -⟩ := derive_accepts_exactly 2 (.list [.null]) (.int 10) keep
  obtain ⟨-, deep_judged, -⟩ := derive_accepts_exactly 1 (.list [.null]) (.int 10) keep
  obtain ⟨-, judged, -⟩ :=
    derive_accepts_exactly 2 (.text (String.ofList characters)) (.int 10) keep
  have half : (((characters.drop 2).length / 2 : Nat) : Int) = 31 := by decide
  have short_refused := (short_judged 10 rfl in_range).1 _ short_bare (by decide) (by decide)
  rw [half] at short_refused
  exact ⟨inferInstance, refused (by simp), short_refused,
    (fed_judged 10 rfl in_range).2.1 fed rfl fed_not_bare,
    ((list_judged 10 rfl in_range).2.2.1 nofun).1 "[None]" rfl,
    ((deep_judged 10 rfl in_range).2.2.1 nofun).2.1 .tooDeep rfl,
    (judged 10 rfl in_range).2.2.2 characters bare (by decide)⟩

/-- A whole number with one digit too many is no text of 64 digits, and it is not refused as no
hexadecimal notation either. -/
theorem derive_long_number :
    let long : Int := Nat.pow 10 Text.maxDigits
    (∀ text, Datum.int long ≠ .text text) ∧
    Id.run (derive Datum.usualDepth (.int long) (.int 10) fun _ => pure ()) =
      .error (.value Text.tooManyDigitsToWrite) ∧
    ∀ value : RawText, Id.run (derive Datum.usualDepth (.int long) (.int 10) fun _ => pure ()) ≠
      .error (.ceremony (.beaconFormat value .notHex)) := by
  intro long
  have unwritten : Text.written? long = none :=
    Text.written?_eq_none_iff.mpr
      (Text.leastUnwritten_eq.trans (Int.natAbs_natCast (Nat.pow 10 Text.maxDigits)).symm).le
  have refused : Id.run (derive Datum.usualDepth (.int long) (.int 10) fun _ => pure ()) =
      .error (.value Text.tooManyDigitsToWrite) :=
    derive_of_unwritten (m := Id) (fun _ => pure ()) (by decide) unwritten
  generalize long = number at refused ⊢
  refine ⟨fun _ => by simp only [ne_eq, reduceCtorEq, not_false_eq_true], refused, fun value => ?_⟩
  rw [refused]
  simp only [ne_eq, Except.error.injEq, reduceCtorEq, not_false_eq_true]

end Chain
end BeaconCeremony
