import BeaconCeremony.Proofs.Except
import BeaconCeremony.Storage

/-!
# Reading what has been written

What is put at a place is found there, and nothing else changes.  As long as directories stay
directories, a path that leads to a place keeps leading there; so a file that has been written has
as its content what has been written.
-/

namespace BeaconCeremony

/-- A string is encoded as it is. -/
theorem RawText.pathBytes_coe (text : String) : pathBytes text = .ok (Utf8.encode text) := by
  simp [pathBytes, ofString, refusal?]

namespace Storage

variable {storage : Storage} {path : RawText} {place : List Bytes} {bytes : Bytes}

/-- No path has a null byte in it. -/
theorem content_of_null (bytes_eq : path.pathBytes = .ok bytes) (null : 0 ∈ bytes) :
    storage.content path = .error (.value "embedded null byte") := by
  simp [content, Storage.place, parts, bytes_eq, null, bind, Except.bind]

theorem lookup_replace (entries : List (List Bytes × StorageEntry)) (place other : List Bytes)
    (entry : StorageEntry) :
    (entries.map fun old => if old.1 = place then (place, entry) else old).lookup other =
      if other = place then (entries.lookup place).map fun _ => entry
      else entries.lookup other := by
  induction entries with
  | nil => simp
  | cons first entries ih =>
      obtain ⟨key, value⟩ := first
      by_cases same : other = place
      · subst same
        by_cases here : key = other
        · simp [here]
        · have passed : (other == key) = false := beq_false_of_ne (Ne.symm here)
          simpa [here, List.lookup_cons, passed] using ih
      · by_cases here : key = place
        · have passed : (other == place) = false := beq_false_of_ne same
          simpa [here, same, List.lookup_cons, passed] using ih
        · rw [if_neg same] at ih
          simp [here, same, List.lookup_cons, ih]

/-- What is put at a place is there, and elsewhere nothing changes. -/
theorem find?_put (storage : Storage) (below : place ≠ []) (entry : StorageEntry)
    (other : List Bytes) :
    (storage.put place entry).find? other =
      if other = place then some entry else storage.find? other := by
  by_cases root : other = []
  · simp [find?, root, below.symm]
  · simp only [find?, if_neg root, put]
    cases present : storage.entries.lookup place with
    | some old => simp [lookup_replace, present]
    | none =>
        rw [if_neg (by simp), List.lookup_append]
        by_cases same : other = place
        · simp [same, present]
        · have passed : (other == place) = false := beq_false_of_ne same
          simp [same, List.lookup_cons, passed]

@[simp]
theorem current_put (storage : Storage) (place : List Bytes) (entry : StorageEntry) :
    (storage.put place entry).current = storage.current := by
  rw [put]
  split <;> rfl

/-- A path is followed through directories only. -/
theorem follow_of_directories {after : Storage} {start : List Bytes} {parts : List Bytes}
    (directories : ∀ other, storage.find? other = some .directory →
      after.find? other = some .directory)
    (followed : storage.follow start parts = .ok place) : after.follow start parts = .ok place := by
  induction parts generalizing start with
  | nil => exact followed
  | cons part parts ih =>
      rw [follow] at followed ⊢
      cases found : storage.find? start with
      | none => simp [found] at followed
      | some entry =>
          cases entry with
          | directory =>
              rw [directories start found]
              rw [found] at followed
              dsimp only at followed ⊢
              split at followed
              · rw [if_pos ‹_›]
                exact ih followed
              · rw [if_neg ‹_›]
                split at followed
                · rw [if_pos ‹_›]
                  exact ih followed
                · rw [if_neg ‹_›]
                  split at followed
                  · contradiction
                  · rw [if_neg ‹_›]
                    exact ih followed
          | _ => simp [found] at followed

/-- The path leads to a file or to where there is nothing yet, and a file may be there. -/
def Writable (storage : Storage) (path : RawText) (place : List Bytes) : Prop :=
  storage.placeToWrite path = .ok place ∧
    (storage.find? place = none ∨ ∃ content, storage.find? place = some (.file content))

/-- Since some time a file with the given content has been written, and nothing else. -/
structure Written (before : Storage) (place : List Bytes) (bytes : Bytes) (after : Storage) :
    Prop where
  /-- It is at a place where no directory was. -/
  replaced : before.find? place ≠ some .directory
  /-- Relative paths start where they started. -/
  current_eq : after.current = before.current
  /-- The file is there. -/
  found : after.find? place = some (.file bytes)
  /-- Nothing else has changed. -/
  others : ∀ other, other ≠ place → after.find? other = before.find? other

theorem Writable.place_eq (writable : storage.Writable path place) :
    storage.place path = .ok place := by
  obtain ⟨place_eq, -⟩ := writable
  rw [placeToWrite] at place_eq
  obtain ⟨⟨start, parts⟩, parts_eq, place_eq⟩ := exists_of_bind_eq_ok place_eq
  rw [Storage.place, parts_eq]
  dsimp only at place_eq
  split at place_eq
  · obtain ⟨_, _, impossible⟩ := exists_of_bind_eq_ok place_eq
    contradiction
  · exact place_eq

theorem Writable.not_directory (writable : storage.Writable path place) :
    storage.find? place ≠ some .directory := by
  rcases writable.2 with missing | ⟨content, found⟩
  · simp [missing]
  · simp [found]

theorem ne_nil_of_not_directory (replaced : storage.find? place ≠ some .directory) :
    place ≠ [] := by
  rintro rfl
  exact replaced rfl

theorem written_put (replaced : storage.find? place ≠ some .directory) (bytes : Bytes) :
    Written storage place bytes (storage.put place (.file bytes)) := by
  have below := ne_nil_of_not_directory replaced
  refine ⟨replaced, current_put _ _ _, ?_, ?_⟩
  · rw [find?_put storage below, if_pos rfl]
  · intro other elsewhere
    rw [find?_put storage below, if_neg elsewhere]

/-- A file that can be written is made empty first. -/
theorem Writable.create (writable : storage.Writable path place) :
    ∃ after, storage.create path = .ok (place, after) ∧ Written storage place [] after := by
  refine ⟨storage.put place (.file []), ?_, written_put writable.not_directory []⟩
  obtain ⟨place_eq, missing | ⟨content, found⟩⟩ := writable
  · simp [Storage.create, place_eq, missing, bind, Except.bind, pure, Except.pure]
  · simp [Storage.create, place_eq, found, bind, Except.bind, pure, Except.pure]

namespace Written

variable {before after : Storage}

theorem append (written : Written before place bytes after) (more : Bytes) :
    Written before place (bytes ++ more) (after.append place more) := by
  have below := ne_nil_of_not_directory written.replaced
  simp only [Storage.append, written.found]
  refine ⟨written.replaced, (current_put _ _ _).trans written.current_eq, ?_, ?_⟩
  · rw [find?_put after below, if_pos rfl]
  · intro other elsewhere
    rw [find?_put after below, if_neg elsewhere, written.others other elsewhere]

theorem settle (written : Written before place bytes after) : after.settle place = .ok () := by
  simp [Storage.settle, written.found]

theorem directories (written : Written before place bytes after) (other : List Bytes)
    (found : before.find? other = some .directory) : after.find? other = some .directory := by
  have elsewhere : other ≠ place := by
    rintro rfl
    exact written.replaced found
  rw [written.others other elsewhere, found]

theorem parts_eq (written : Written before place bytes after) (path : RawText) :
    after.parts path = before.parts path := by
  simp only [parts, written.current_eq]

/-- The path by which the file has been written leads to what has been written. -/
theorem content (written : Written before place bytes after)
    (place_eq : before.place path = .ok place) : after.content path = .ok bytes := by
  have followed : after.place path = .ok place := by
    rw [Storage.place] at place_eq ⊢
    rw [written.parts_eq]
    obtain ⟨parts, parts_eq, place_eq⟩ := exists_of_bind_eq_ok place_eq
    have leads := follow_of_directories written.directories (eq_ok_of_mapError_eq_ok place_eq)
    simp [parts_eq, leads, bind, Except.bind]
  simp [Storage.content, followed, written.found, bind, Except.bind, pure, Except.pure]

/-- A file that has been written can be written again. -/
theorem writable (written : Written before place bytes after)
    (takes : before.Writable path place) : after.Writable path place := by
  refine ⟨?_, .inr ⟨bytes, written.found⟩⟩
  obtain ⟨place_eq, -⟩ := takes
  rw [placeToWrite] at place_eq ⊢
  rw [written.parts_eq]
  obtain ⟨⟨start, parts⟩, parts_eq, place_eq⟩ := exists_of_bind_eq_ok place_eq
  simp only [parts_eq, bind, Except.bind]
  dsimp only at place_eq
  split at place_eq
  · obtain ⟨_, _, impossible⟩ := exists_of_bind_eq_ok place_eq
    contradiction
  · rename_i no_slash
    have leads := follow_of_directories written.directories (eq_ok_of_mapError_eq_ok place_eq)
    rw [if_neg no_slash, leads]
    rfl

end Written

end Storage
end BeaconCeremony
