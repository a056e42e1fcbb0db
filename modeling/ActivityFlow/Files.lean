import ActivityFlow.Text.Utf8

/-!
# Files

Documents come from files. How a file's bytes are obtained is left to the surroundings, so
that everything that is done with them can be stated without an outer world.
-/
namespace ActivityFlow

/-- Why a file could not be read. -/
inductive FileFault where
  | missing
  | directory
  | notText
  | other (message : String)
deriving DecidableEq

def FileFault.message : FileFault → String
  | .missing => "No such file or directory (os error 2)"
  | .directory => "Is a directory (os error 21)"
  | .notText => "stream did not contain valid UTF-8"
  | .other message => message

/-- A way to obtain the bytes of the file at a path. -/
abbrev Files (m : Type → Type) := String → m (Except FileFault (List UInt8))

def textOfBytes (bytes : Except FileFault (List UInt8)) : Except FileFault String := do
  match Text.decode? (← bytes) with
  | some text => return text
  | none => throw .notText

end ActivityFlow
