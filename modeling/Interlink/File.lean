import Interlink.Text.Quoted

/-!
# Files that a run reads

Two files are read: a topology and, if values are given, a snapshot. Whatever
goes wrong with one of them is reported with the file's path.
-/

namespace Interlink

/-- The files that a run reads. -/
inductive InputFile
  | topology
  | snapshot
deriving DecidableEq, Repr, Inhabited

namespace InputFile

/-- What a file is called in messages. -/
def label : InputFile → String
  | .topology => "topology file"
  | .snapshot => "values snapshot"

/-- The message for a file that cannot be opened. -/
def notOpened (f : InputFile) (path : String) : String :=
  "Failed to open " ++ f.label ++ " " ++ Quoted.encode path

/-- The message for a file whose content is not understood; `path` is the path
as it is shown. -/
def notParsed (f : InputFile) (path : String) : String :=
  "Failed to parse " ++ f.label ++ " " ++ path

end InputFile

end Interlink
