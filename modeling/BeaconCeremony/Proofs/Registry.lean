import BeaconCeremony.Proofs.Datum.Order
import BeaconCeremony.Registry

/-!
# The registry as a map

Looking a format up can write to the registry, so two registries can hold different formats and yet
stand for the same map of names to formats.  What a call does is told by what it does to this map,
and what a call answers by the map alone; the looking up is therefore unseen by all later calls.
-/

namespace BeaconCeremony

theorem RawText.isEmpty_iff {text : RawText} : text.isEmpty = true ↔ text = "" := by
  obtain ⟨start, rest⟩ := text
  simp [RawText.isEmpty, RawText.ofString]

namespace Registry

open BeaconCeremony.RawText (Ascending)

variable {Format : Type} {name : RawText} {names : List RawText}

theorem precedes_iff {left right : RawText} :
    precedes left right = true ↔ List.Lex (· < ·) left.points right.points :=
  Datum.dictionaryLess_iff

@[simp]
theorem mem_insertName {other : RawText} :
    other ∈ insertName name names ↔ other = name ∨ other ∈ names := by
  induction names with
  | nil => simp [insertName]
  | cons first rest ih =>
      rw [insertName]
      split
      · rename_i same
        simp [same]
      · split
        · simp
        · simp [ih, or_left_comm]

theorem ascending_insertName (ascending : Ascending names) :
    Ascending (insertName name names) := by
  induction names with
  | nil => exact List.pairwise_singleton _ name
  | cons first rest ih =>
      obtain ⟨before, ascending_rest⟩ := List.pairwise_cons.mp ascending
      rw [insertName]
      split
      · exact ascending
      · rename_i different
        split
        · rename_i less
          refine List.pairwise_cons.mpr ⟨fun other member => ?_, ascending⟩
          have less_first := precedes_iff.mp less
          rcases List.mem_cons.mp member with rfl | member
          · exact less_first
          · exact List.lex_trans Nat.lt_trans less_first (before other member)
        · rename_i not_less
          refine List.pairwise_cons.mpr ⟨fun other member => ?_, ih ascending_rest⟩
          rcases mem_insertName.mp member with rfl | member
          · by_contra not_greater
            have points_eq := Std.Trichotomous.trichotomous (r := List.Lex (· < ·)) _ _
              (mt precedes_iff.mpr not_less) not_greater
            exact different (RawText.points_injective points_eq)
          · exact before other member

/-- The names of the formats that there are. -/
theorem mem_available_iff {registry : Registry Format} :
    name ∈ registry.available ↔
      name ∈ registry.registered.map Prod.fst ∨ name ∈ registry.builtIn.map Prod.fst := by
  have mem_foldr (entries : List (RawText × Format)) :
      name ∈ entries.foldr (fun entry names => insertName entry.1 names) [] ↔
        name ∈ entries.map Prod.fst := by
    induction entries with
    | nil => exact Iff.rfl
    | cons entry entries ih =>
        rw [List.foldr_cons, mem_insertName, ih, List.map_cons, List.mem_cons]
  rw [available, mem_foldr, List.map_append, List.mem_append]

theorem ascending_available (registry : Registry Format) : Ascending registry.available := by
  rw [available]
  induction registry.registered ++ registry.builtIn with
  | nil => exact List.Pairwise.nil
  | cons entry entries ih => exact ascending_insertName ih

/-! ## The map that a registry stands for -/

/-- The format of a name: the one that is registered, or else the one that is built in. -/
def formatOf? (registry : Registry Format) (name : RawText) : Option Format :=
  (registry.registered.lookup name).or (registry.builtIn.lookup name)

theorem isSome_lookup_iff {entries : List (RawText × Format)} :
    (entries.lookup name).isSome ↔ name ∈ entries.map Prod.fst := by
  rw [List.lookup_isSome_iff, List.mem_map]
  exact exists_congr fun entry => and_congr_right fun _ => beq_iff_eq.trans eq_comm

theorem isSome_formatOf?_iff {registry : Registry Format} :
    (registry.formatOf? name).isSome ↔ name ∈ registry.available := by
  rw [formatOf?, Option.isSome_or, Bool.or_eq_true, isSome_lookup_iff, isSome_lookup_iff,
    mem_available_iff]

/-- The listed names depend on the map alone. -/
theorem available_eq {left right : Registry Format} (same : left.formatOf? = right.formatOf?) :
    left.available = right.available :=
  (ascending_available left).eq_of_mem_iff (ascending_available right) fun name => by
    rw [← isSome_formatOf?_iff, ← isSome_formatOf?_iff, same]

theorem find_eq_error {registry : Registry Format} (unknown : registry.formatOf? name = none) :
    registry.find name = .error (.unknown name registry.available) := by
  obtain ⟨not_registered, not_builtIn⟩ := Option.or_eq_none_iff.mp unknown
  rw [find, not_registered, not_builtIn]

/-- Finding a format leaves the map as it is. -/
theorem exists_find_eq_ok {registry : Registry Format} {format : Format}
    (known : registry.formatOf? name = some format) :
    ∃ after, registry.find name = .ok (format, after) ∧ after.formatOf? = registry.formatOf? := by
  rw [formatOf?] at known
  rw [find]
  cases registered : registry.registered.lookup name with
  | some found =>
      rw [registered, Option.some_or] at known
      obtain rfl := Option.some.inj known
      exact ⟨registry, rfl, rfl⟩
  | none =>
      rw [registered, Option.none_or] at known
      rw [known]
      refine ⟨_, rfl, funext fun other => ?_⟩
      rw [formatOf?, formatOf?, List.lookup_cons]
      split
      · rename_i same
        rw [eq_of_beq same, registered, known, Option.some_or, Option.none_or]
      · rfl

theorem register_eq_error_iff {registry : Registry Format} {format : Format}
    {error : RegistryError} :
    registry.register name format = .error error ↔ name = "" ∧ error = .emptyName := by
  rw [register, ← RawText.isEmpty_iff]
  split
  · rename_i empty
    rw [Except.error.injEq, and_iff_right empty, eq_comm]
  · rename_i present
    simp [present]

/-! ## Calls -/

/-- A call of a registry. -/
inductive Call (Format : Type)
  | register (name : RawText) (format : Format)
  | find (name : RawText)
  | available

/-- What a call answers. -/
inductive Answer (Format : Type)
  | registered
  | found (format : Format)
  | listed (names : List RawText)
  | refused (error : RegistryError)

/-- What a call answers, and the registry after it.  A call that is refused leaves the registry as
it is. -/
def serve (registry : Registry Format) : Call Format → Answer Format × Registry Format
  | .register name format =>
    match registry.register name format with
    | .ok after => (.registered, after)
    | .error error => (.refused error, registry)
  | .find name =>
    match registry.find name with
    | .ok (format, after) => (.found format, after)
    | .error error => (.refused error, registry)
  | .available => (.listed registry.available, registry)

/-- The registry after some calls. -/
def after (registry : Registry Format) (calls : List (Call Format)) : Registry Format :=
  calls.foldl (fun registry call => (registry.serve call).2) registry

/-- What calls answer, one after the other. -/
def answers (registry : Registry Format) : List (Call Format) → List (Answer Format)
  | [] => []
  | call :: calls => (registry.serve call).1 :: (registry.serve call).2.answers calls

/-- What is answered to a name if there are formats of some names, and this one of the name. -/
def Answer.lookedUp (name : RawText) (names : List RawText) : Option Format → Answer Format
  | some format => .found format
  | none => .refused (.unknown name names)

/-- The format that a call registers under a name.  Nothing is registered under the empty name. -/
def Call.registers? (name : RawText) : Call Format → Option Format
  | .register other format => if other = name ∧ other ≠ "" then some format else none
  | .find _ => none
  | .available => none

/-- The format that the latest of the calls that register one under a name registers. -/
def registeredLast? (name : RawText) (calls : List (Call Format)) : Option Format :=
  calls.reverse.findSome? (Call.registers? name)

theorem serve_find_fst (registry : Registry Format) (name : RawText) :
    (registry.serve (.find name)).1 =
      .lookedUp name registry.available (registry.formatOf? name) := by
  rw [serve]
  cases known : registry.formatOf? name with
  | none => rw [find_eq_error known, Answer.lookedUp]
  | some format =>
      obtain ⟨after, found, -⟩ := exists_find_eq_ok known
      rw [found, Answer.lookedUp]

theorem serve_register (registry : Registry Format) (name : RawText) (format : Format) :
    registry.serve (.register name format) =
      if name = "" then (.refused .emptyName, registry)
      else
        (.registered, { registry with registered := (name, format) :: registry.registered }) := by
  rw [serve, register]
  split
  · rename_i after registered
    split at registered
    · cases registered
    · rename_i present
      rw [if_neg (mt RawText.isEmpty_iff.mpr present), Except.ok.inj registered]
  · rename_i error refused
    obtain ⟨rfl, rfl⟩ := register_eq_error_iff.mp refused
    rfl

/-- One call: only registering changes the map, and only for the name that it is about. -/
theorem formatOf?_serve (registry : Registry Format) (call : Call Format) (name : RawText) :
    (registry.serve call).2.formatOf? name =
      (call.registers? name).or (registry.formatOf? name) := by
  cases call with
  | register other format =>
      rw [serve_register, Call.registers?]
      by_cases empty : other = ""
      · rw [if_pos empty, if_neg fun both => both.2 empty, Option.none_or]
      · rw [if_neg empty, formatOf?, List.lookup_cons]
        by_cases same : other = name
        · rw [if_pos ⟨same, empty⟩, same, beq_self_eq_true]
          rfl
        · rw [if_neg fun both => same both.1, beq_eq_false_iff_ne.mpr (Ne.symm same)]
          rfl
  | find other =>
      rw [serve, Call.registers?, Option.none_or]
      cases known : registry.formatOf? other with
      | none => rw [find_eq_error known]
      | some format =>
          obtain ⟨after, found, unchanged⟩ := exists_find_eq_ok known
          rw [found, unchanged]
  | available => rfl

/-- Any number of calls: a name has the format registered last under it, or the one that it had. -/
theorem formatOf?_after (registry : Registry Format) (calls : List (Call Format))
    (name : RawText) :
    (registry.after calls).formatOf? name =
      (registeredLast? name calls).or (registry.formatOf? name) := by
  induction calls generalizing registry with
  | nil => rfl
  | cons call calls ih =>
      rw [after, List.foldl_cons, ← after, ih, formatOf?_serve, registeredLast?, registeredLast?,
        List.reverse_cons, List.findSome?_append, List.findSome?_singleton, Option.or_assoc]

/-- Registries that stand for the same map give the same answers. -/
theorem answers_eq {left right : Registry Format} (same : left.formatOf? = right.formatOf?)
    (calls : List (Call Format)) : left.answers calls = right.answers calls := by
  induction calls generalizing left right with
  | nil => rfl
  | cons call calls ih =>
      have answer_eq : (left.serve call).1 = (right.serve call).1 := by
        cases call with
        | register name format =>
            rw [serve_register, serve_register]
            split
            · rfl
            · rfl
        | find name => rw [serve_find_fst, serve_find_fst, same, available_eq same]
        | available => rw [serve, serve, available_eq same]
      have still_same : (left.serve call).2.formatOf? = (right.serve call).2.formatOf? := by
        funext name
        rw [formatOf?_serve, formatOf?_serve, same]
      rw [answers, answers, answer_eq, ih still_same]

/-- The laws of a map of names to formats, with the built-in formats to fall back on, for a registry
that some calls have led to. -/
structure BehavesAsMap (builtIn : List (RawText × Format)) (calls : List (Call Format))
    (registry : Registry Format) : Prop where
  /-- A format is found under just the names that are listed. -/
  found_iff (name : RawText) :
    (∃ found, registry.find name = .ok found) ↔ name ∈ registry.available
  /-- What is found is the format registered last under the name, or else the built-in one. -/
  answers_find (name : RawText) :
    (registry.serve (.find name)).1 =
      .lookedUp name registry.available
        ((registeredLast? name calls).or (builtIn.lookup name))
  /-- After looking a format up all calls answer what they would have answered. -/
  find_unseen (name : RawText) (later : List (Call Format)) :
    (registry.serve (.find name)).2.answers later = registry.answers later
  /-- Registering succeeds under every name but the empty one. -/
  registers_iff (name : RawText) (format : Format) :
    (registry.serve (.register name format)).1 = .registered ↔ name ≠ ""
  /-- Under the empty name it fails and changes nothing. -/
  register_empty (format : Format) :
    registry.serve (.register "" format) = (.refused .emptyName, registry)
  /-- The names are listed in the order of their code points, none of them twice. -/
  ascending : Ascending registry.available
  /-- They are those under which some call has registered a format, and those of the built-in
  formats. -/
  mem_available_iff (name : RawText) :
    name ∈ registry.available ↔
      name ≠ "" ∧ (∃ format, .register name format ∈ calls) ∨ name ∈ builtIn.map Prod.fst

theorem isSome_registeredLast?_iff {calls : List (Call Format)} :
    (registeredLast? name calls).isSome ↔
      name ≠ "" ∧ ∃ format, .register name format ∈ calls := by
  rw [registeredLast?, List.findSome?_isSome_iff]
  constructor
  · rintro ⟨call, member, registers⟩
    cases call with
    | register other format =>
        rw [Call.registers?] at registers
        split at registers
        · rename_i both
          obtain ⟨rfl, present⟩ := both
          exact ⟨present, format, List.mem_reverse.mp member⟩
        · cases registers
    | find => cases registers
    | available => cases registers
  · rintro ⟨present, format, member⟩
    refine ⟨_, List.mem_reverse.mpr member, ?_⟩
    rw [Call.registers?, if_pos ⟨rfl, present⟩, Option.isSome_some]

/-- Whatever calls are made of a registry, it behaves as a map with the built-in formats to fall
back on. -/
theorem behavesAsMap_after (builtIn : List (RawText × Format)) (calls : List (Call Format)) :
    BehavesAsMap builtIn calls (after ⟨builtIn, []⟩ calls) := by
  have format_eq (name : RawText) : (after ⟨builtIn, []⟩ calls).formatOf? name =
      (registeredLast? name calls).or (builtIn.lookup name) :=
    formatOf?_after ⟨builtIn, []⟩ calls name
  generalize after ⟨builtIn, []⟩ calls = registry at format_eq
  constructor
  case found_iff =>
    intro name
    rw [← isSome_formatOf?_iff]
    constructor
    · rintro ⟨found, found_eq⟩
      by_contra unknown
      rw [find_eq_error (Option.not_isSome_iff_eq_none.mp unknown)] at found_eq
      cases found_eq
    · intro known
      obtain ⟨format, format_eq⟩ := Option.isSome_iff_exists.mp known
      obtain ⟨after, found, -⟩ := exists_find_eq_ok format_eq
      exact ⟨_, found⟩
  case answers_find =>
    intro name
    rw [serve_find_fst, format_eq]
  case find_unseen =>
    intro name later
    refine answers_eq (funext fun other => ?_) later
    rw [formatOf?_serve, Call.registers?, Option.none_or]
  case registers_iff =>
    intro name format
    rw [serve_register]
    constructor
    · rintro registered rfl
      cases registered
    · intro present
      rw [if_neg present]
  case register_empty =>
    intro format
    rw [serve_register, if_pos rfl]
  case ascending => exact ascending_available registry
  case mem_available_iff =>
    intro name
    rw [← isSome_formatOf?_iff, format_eq, Option.isSome_or, Bool.or_eq_true,
      isSome_registeredLast?_iff, isSome_lookup_iff]

end Registry
end BeaconCeremony
