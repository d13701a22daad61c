/-!
# Files that give no text

Reading a file or standard input may fail for reasons of the system; a report names the reason.
-/

namespace SeriesFilter

/-- Why a file gives no text. -/
inductive FileFault where
  | missing
  | directory
  | notText
  | other (message : String)
  deriving DecidableEq, Repr

/-- The reason in the words of the system. -/
def FileFault.message : FileFault → String
  | .missing => "No such file or directory (os error 2)"
  | .directory => "Is a directory (os error 21)"
  | .notText => "stream did not contain valid UTF-8"
  | .other message => message

end SeriesFilter
