import Interlink.Moment
import Interlink.Report
import Std.Time.DateTime.Timestamp

/-!
# The command line

Reads the files that a request names, and writes the plan. What to do with their
text is decided by `Request`; nothing is decided here but where text comes from
and goes to.
-/

namespace Interlink.CommandLine

/-- The text of a file: nothing if it cannot be opened, and no text if it is not
UTF-8. -/
def readText (path : String) : IO (Option (Option String)) := do
  try
    let bytes ← IO.FS.readBinFile path
    pure (some (String.fromUTF8? bytes))
  catch _ => pure none

/-- The text of an input file, or why there is none. -/
def readInput (file : InputFile) (path : String) : IO (Except Failure String) := do
  match ← readText path with
  | none => pure (.error (.notOpened file path))
  | some none => pure (.error (.notParsed file path "invalid UTF-8"))
  | some (some text) => pure (.ok text)

/-- Put text where a request wants it. -/
def deliver (text : String) : Option String → IO (Except Failure Unit)
  | none => do
    IO.println text
    pure (.ok ())
  | some path =>
    try
      IO.FS.writeFile path text
      pure (.ok ())
    catch _ => pure (.error (.notWritten path))

/-- The present moment. -/
def now : IO Moment := do
  let t ← Std.Time.Timestamp.now
  let n := t.toNanosecondsSinceUnixEpoch.val.toNat
  pure ⟨n / 1000000000, n % 1000000000⟩

/-- Carry a request out. -/
def carryOut (r : Request) : ExceptT Failure IO Unit := do
  let text ← ExceptT.mk (readInput .topology r.topology)
  let t ← ExceptT.mk (pure (r.topologyOf text))
  for warning in t.lint do
    IO.eprintln ("warning: " ++ warning.message)
  let memory ← match r.values with
    | some path => do
      let text ← ExceptT.mk (readInput .snapshot path)
      ExceptT.mk (pure (Request.memoryOf path text))
    | none => do
      IO.eprintln "warning: No values snapshot given; every lookup will come back empty"
      pure {}
  let plan ← ExceptT.mk (pure (r.planOf t memory))
  ExceptT.mk (deliver (plan.render (← now).render r.format) r.output)

/-- Answer a command line; the exit code is 0 for a plan, 1 for a failure and 2
for a command line that is no request. -/
def run (words : List String) : IO UInt32 := do
  if words.contains "--help" || words.contains "-h" then
    IO.println helpText
    pure 0
  else
    match Request.parse words with
    | .error e =>
      IO.eprintln e.report
      pure 2
    | .ok r =>
      match ← (carryOut r).run with
      | .ok () => pure 0
      | .error f =>
        IO.eprintln f.report
        pure 1

end Interlink.CommandLine

/-- Plan one unit. -/
def main (words : List String) : IO UInt32 := Interlink.CommandLine.run words
