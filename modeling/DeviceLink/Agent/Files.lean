import DeviceLink.Text.Utf8
/-!
# Files

Reading files by path. A reader is any function from paths to bytes or faults.
-/

namespace DeviceLink.Agent

/-- Why a file cannot be read. -/
inductive FileFault
  | notFound
  | notADirectory
  | isADirectory
  | nameTooLong
  | nulInName
  | notText
  | other (message : String)
  deriving DecidableEq, Repr

/-- The wording of a fault. -/
def FileFault.message : FileFault → String
  | notFound => "No such file or directory (os error 2)"
  | notADirectory => "Not a directory (os error 20)"
  | isADirectory => "Is a directory (os error 21)"
  | nameTooLong => "File name too long (os error 36)"
  | nulInName => "file name contained an unexpected NUL byte"
  | notText => "stream did not contain valid UTF-8"
  | other message => message

/-- A reader of files. -/
abbrev Files := String → Except FileFault (List UInt8)

/-- The text of a file. -/
def Files.text (files : Files) (path : String) : Except FileFault String := do
  let bytes ← files path
  match Utf8.decode? bytes with
  | some text => pure text
  | none => throw .notText

end DeviceLink.Agent
