import BeaconCeremony.CommandLine.Command
import BeaconCeremony.Text.Terminal

/-!
# The program

The program with real files, the real environment and the standard streams.
-/

namespace BeaconCeremony
namespace CommandLine

/-- An error of the operating system with its number and its text. -/
def systemError : IO.Error → SystemError
  | .noFileOrDirectory _ code details | .interrupted _ code details => ⟨some code.toNat, details⟩
  | .alreadyExists _ code details | .invalidArgument _ code details
  | .permissionDenied _ code details | .resourceExhausted _ code details
  | .inappropriateType _ code details | .noSuchThing _ code details => ⟨some code.toNat, details⟩
  | .otherError code details | .resourceBusy code details | .resourceVanished code details
  | .unsupportedOperation code details | .hardwareFault code details
  | .unsatisfiedConstraints code details | .illegalOperation code details
  | .protocolError code details | .timeExpired code details => ⟨some code.toNat, details⟩
  | error => ⟨none, toString error⟩

/-- An effect whose error is returned as a failure. -/
def attempt {α : Type} (effect : IO α) : IO (Except Failure α) := do
  try
    return .ok (← effect)
  catch error => return .error (.system (systemError error))

/-- An effect on a file, whose path must not have a null character in it.  Paths that are not in
UTF-8 lead nowhere. -/
def onFile {α : Type} (path : RawText) (effect : String → IO α) : IO (Except Failure α) :=
  match path.pathBytes with
  | .error error => return .error (.notEncodable error)
  | .ok bytes =>
    if bytes.contains 0 then return .error (.value "embedded null byte")
    else
      match Utf8.decode bytes with
      | .ok path => attempt (effect path)
      | .error _ => return .error (.system .noSuchFile)

/-- The content of a file. -/
def readFile (path : String) : IO (Except Failure Bytes) :=
  onFile path fun path => do
    let handle ← IO.FS.Handle.mk path .read
    return (← handle.readBinToEnd).toList

/-- A source that brings bytes that have been read from a file, and then what follows them there. -/
def fileSource (handle : IO.FS.Handle) (first : IO.Ref Bytes) : Source IO where
  read count := do
    let bytes ← first.get
    if bytes.isEmpty then attempt do return (← handle.read count.toUSize).toList
    else
      first.set (bytes.drop count)
      return .ok (bytes.take count)

/-- The number of bytes that are read from a file when it is opened, so that directories are
refused. -/
def firstPart : USize := 4096

/-- A sink that passes bytes on to a file. -/
def fileSink (handle : IO.FS.Handle) : Sink IO where
  write bytes := attempt (handle.write bytes.toByteArray)
  flush := attempt handle.flush

/-- Shows a line on a stream; control sequences are left out unless it is a terminal. -/
def showLine (stream : IO.FS.Stream) (line : String) : IO Unit := do
  let isTerminal ← stream.isTty
  stream.putStrLn (if isTerminal then line else Text.withoutControls line)

/-- Files and the standard output. -/
def fileHost : Host IO where
  echo line := do
    match line.plain with
    | .ok line => attempt do showLine (← IO.getStdout) line
    | .error error => return .error (.notEncodable error)
  openInput path := onFile path fun path => do
    let handle ← IO.FS.Handle.mk path .read
    let first ← IO.mkRef (← handle.read firstPart).toList
    return { source := fileSource handle first, close := return .ok () }
  openOutput path := onFile path fun path => do
    let handle ← IO.FS.Handle.mk path .write
    return { sink := fileSink handle, close := attempt handle.flush }
  depth := Datum.usualDepth

/-- All bytes of a stream. -/
def drain (stream : IO.FS.Stream) : IO ByteArray := do
  let mut bytes := ByteArray.empty
  repeat
    let chunk ← stream.read 65536
    if chunk.isEmpty then break
    bytes := bytes ++ chunk
  return bytes

/-- The environment variables of a configuration. -/
def readEnvironment : IO Environment := do
  let environment ← (Environment.names Environment.standardStem).mapM fun name =>
    return (name, ← IO.getEnv name)
  return environment.filterMap fun (name, value?) => value?.map (name, ·)

/-- The real surroundings of the program. -/
def realSystem (environment : Environment) : System IO where
  host := fileHost
  readFile := readFile
  readInput := attempt do return (← drain (← IO.getStdin)).toList
  complain line := do showLine (← IO.getStderr) line.escaped
  environment := environment

end CommandLine
end BeaconCeremony

open BeaconCeremony.CommandLine in
/-- Runs the program. -/
def main (arguments : List String) : IO UInt32 := do
  match ← Command.execute (realSystem (← readEnvironment)) arguments with
  | .exit code =>
    if code = 2 then Command.usage.forM IO.eprintln
    return UInt32.ofNat code
  | .escaped failure =>
    IO.eprintln failure.message.escaped
    return 1
