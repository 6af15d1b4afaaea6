import BeaconCeremony.Error.Kind
import BeaconCeremony.Text.Encoding

/-!
# Failures

The errors of a contribution, one for each cause an operator can act on, and the failures of the
things around it: files, streams and parameter formats.  Every error has one message, which names
the path or value that is to blame.
-/

namespace BeaconCeremony

/-- What is wrong with a beacon value. -/
inductive BeaconDefect
  /-- It is not bare hexadecimal text. -/
  | notHex
  /-- It does not stand for 32 bytes but for the given number, if that is known. -/
  | wrongLength (length? : Option Int)
deriving DecidableEq

/-- An error of a beacon contribution. -/
inductive CeremonyError
  | inputOpen (path reason : RawText)
  | parameterFormat (source reason : RawText)
  | beaconFormat (value : RawText) (defect : BeaconDefect)
  | iterationRange (given : Datum) (least greatest : Int)
  | contribution (source reason : RawText)
  | outputCreate (path reason : RawText)
  | serializationWrite (path reason : RawText)
  | stepOrder (step expected actual : String)
  | transcriptFormat (lineNumber : Int) (line reason : String)

namespace CeremonyError

/-- The kind of an error. -/
def kind : CeremonyError → ErrorKind
  | .inputOpen _ _ => .inputOpen
  | .parameterFormat _ _ => .parameterFormat
  | .beaconFormat _ _ => .beaconFormat
  | .iterationRange _ _ _ => .iterationRange
  | .contribution _ _ => .contribution
  | .outputCreate _ _ => .outputCreate
  | .serializationWrite _ _ => .serializationWrite
  | .stepOrder _ _ _ => .stepOrder
  | .transcriptFormat _ _ _ => .transcriptFormat

/-- The reason of a defect and the length that was found, if there is one. -/
def defectFields : BeaconDefect → List Datum
  | .notHex => [.text "not-hex", .null]
  | .wrongLength length? => [.text ErrorKind.wrongLength, (length?.map Datum.int).getD .null]

/-- The values of the fields of an error. -/
def fields : CeremonyError → List Datum
  | .inputOpen path reason => [.text path, .text reason]
  | .parameterFormat source reason => [.text source, .text reason]
  | .beaconFormat value defect => .text value :: defectFields defect
  | .iterationRange given least greatest => [given, .int least, .int greatest]
  | .contribution source reason => [.text source, .text reason]
  | .outputCreate path reason => [.text path, .text reason]
  | .serializationWrite path reason => [.text path, .text reason]
  | .stepOrder step expected actual => [.text step, .text expected, .text actual]
  | .transcriptFormat lineNumber line reason => [.int lineNumber, .text line, .text reason]

/-- The operator-facing text of an error, or why it has none. -/
def message (error : CeremonyError) : RawText :=
  match error.kind.wording error.fields with
  | .ok text => text
  | .error unshown => unshown.message

end CeremonyError

/-- An error reported by the operating system, with its number when it has one. -/
structure SystemError where
  /-- The number of the error. -/
  code? : Option Int
  /-- Its text. -/
  text : String
deriving DecidableEq

namespace SystemError

/-- The error with its number in front. -/
def display (error : SystemError) : String :=
  match error.code? with
  | some code => s!"[Errno {code}] " ++ error.text
  | none => error.text

/-- The reason to report: the text that belongs to the number, if there is one. -/
def reason (error : SystemError) : String :=
  if error.code?.isSome && !error.text.isEmpty then error.text else error.display

/-- There is no such file or directory. -/
def noSuchFile : SystemError := ⟨some 2, "No such file or directory"⟩

/-- Access is not permitted. -/
def permissionDenied : SystemError := ⟨some 13, "Permission denied"⟩

/-- A part of the path that is no directory is used as one. -/
def notDirectory : SystemError := ⟨some 20, "Not a directory"⟩

/-- A directory is used as a file. -/
def isDirectory : SystemError := ⟨some 21, "Is a directory"⟩

/-- The device is full. -/
def noSpace : SystemError := ⟨some 28, "No space left on device"⟩

/-- A part of the path or all of it is too long. -/
def nameTooLong : SystemError := ⟨some 36, "File name too long"⟩

end SystemError

/-- Why an operation did not answer: an error of the contribution, or a failure of something that
the contribution uses. -/
inductive Failure
  | ceremony (error : CeremonyError)
  | value (reason : RawText)
  | wrongType (reason : RawText)
  | unknownKey (reason : RawText)
  | noPart (reason : RawText)
  | beyondEnd (reason : RawText)
  | tooLarge (reason : RawText)
  | tooDeep (reason : RawText)
  | notEncodable (error : RawText.EncodeError)
  | system (error : SystemError)
  | breakdown (reason : RawText)

/-- What it comes to that a datum cannot be shown. -/
def LiteralError.failure (error : LiteralError) : Failure :=
  match error with
  | .longNumber => .value error.message
  | .tooDeep => .tooDeep error.message

/-- The text of a failure. -/
def Failure.message : Failure → RawText
  | .ceremony error => error.message
  | .value reason => reason
  | .wrongType reason => reason
  | .unknownKey reason => reason
  | .noPart reason => reason
  | .beyondEnd reason => reason
  | .tooLarge reason => reason
  | .tooDeep reason => reason
  | .notEncodable error => error.message
  | .system error => error.display
  | .breakdown reason => reason

end BeaconCeremony
