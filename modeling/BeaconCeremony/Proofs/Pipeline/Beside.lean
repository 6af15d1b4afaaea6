import BeaconCeremony.Pipeline.Basic
import BeaconCeremony.Proofs.Except

/-!
# Surroundings with something beside them

Something can be kept beside the surroundings of a contribution that they do not see: a record, a
logbook, or what an audience has heard.  Operations of the surroundings leave it alone, and a format
is given sources and sinks without it.
-/

namespace BeaconCeremony

/-- Surroundings with something kept beside them. -/
structure Beside (World Kept : Type) where
  /-- The surroundings. -/
  world : World
  /-- What is kept. -/
  kept : Kept

variable {World Kept α β : Type}

namespace Beside

/-- An operation of the surroundings, which leaves alone what is kept. -/
def lift (operation : StateM World α) : StateM (Beside World Kept) α := fun whole =>
  let (value, world) := operation whole.world
  (value, { whole with world := world })

/-- An operation with something beside it, for surroundings without that. -/
def lower [Inhabited Kept] (operation : StateM (Beside World Kept) α) : StateM World α :=
  fun world =>
    let (value, whole) := operation ⟨world, default⟩
    (value, whole.world)

/-- Adds something to a list that is kept. -/
def add (entry : β) : StateM (Beside World (List β)) Unit :=
  modify fun whole => { whole with kept := whole.kept ++ [entry] }

theorem lift_bind (operation : StateM World α) (next : α → StateM World β) :
    (lift (operation >>= next) : StateM (Beside World Kept) β) =
      lift operation >>= fun value => lift (next value) := rfl

/-- Opens a file, which then has something beside it. -/
def opened {File Opened : Type} (opening : StateM World (Except Failure File))
    (wrap : File → Opened) : StateM (Beside World Kept) (Except Failure Opened) :=
  return (← lift opening).map wrap

theorem exists_of_opened {File Opened : Type} {opening : StateM World (Except Failure File)}
    {wrap : File → Opened} {whole : Beside World Kept} {file : Opened}
    (opened_eq : (opened opening wrap whole).1 = .ok file) :
    ∃ plain, (opening whole.world).1 = .ok plain ∧ file = wrap plain := by
  have mapped : (opening whole.world).1.map wrap = .ok file := opened_eq
  obtain ⟨plain, plain_eq, wrapped⟩ := exists_of_map_eq_ok mapped
  exact ⟨plain, plain_eq, wrapped⟩

end Beside

/-- A source with something beside it. -/
def Source.beside (source : Source (StateM World)) : Source (StateM (Beside World Kept)) where
  read count := Beside.lift (source.read count)

/-- A source for a format that knows nothing of what is kept. -/
def Source.alone [Inhabited Kept] (source : Source (StateM (Beside World Kept))) :
    Source (StateM World) where
  read count := Beside.lower (source.read count)

/-- A sink with something beside it. -/
def Sink.beside (sink : Sink (StateM World)) : Sink (StateM (Beside World Kept)) where
  write bytes := Beside.lift (sink.write bytes)
  flush := Beside.lift sink.flush

/-- A sink for a format that knows nothing of what is kept. -/
def Sink.alone [Inhabited Kept] (sink : Sink (StateM (Beside World Kept))) :
    Sink (StateM World) where
  write bytes := Beside.lower (sink.write bytes)
  flush := Beside.lower sink.flush

/-- A file for reading with something beside it. -/
def InputFile.beside (file : InputFile (StateM World)) :
    InputFile (StateM (Beside World Kept)) where
  source := file.source.beside
  close := Beside.lift file.close

/-- A file for writing with something beside it. -/
def OutputFile.beside (file : OutputFile (StateM World)) :
    OutputFile (StateM (Beside World Kept)) where
  sink := file.sink.beside
  close := Beside.lift file.close

end BeaconCeremony
