import IntegerProgram.CommandLine.Run

/-!
# The command

Reads the model file, solves, prints what the run prints and tells, and writes the report. What is
printed goes to the standard output, what is told to the standard error.

## Main definitions

* `main`: the command.
-/
namespace IntegerProgram.Command

/-- What a failed access to a file says about its path. -/
def problemOf : IO.Error → FileProblem
  | .permissionDenied .. => .denied
  | .alreadyExists .. => .occupied
  | .inappropriateType _ code _ => if code = 20 then .notDirectory else .isDirectory
  | _ => .missing

/-- The bytes at a path. -/
def readFile (path : Path) : IO (Except FileProblem ByteArray) := do
  try return .ok (← IO.FS.readBinFile (Text.toChars path.text))
  catch e => return .error (problemOf e)

/-- The model file that the arguments name. -/
def readModel (args : List String) : IO (Except FileProblem ByteArray) :=
  match Arguments.read args with
  | .ok a => readFile (a.model.getD default)
  | .error _ => pure (.error .missing)

/-- Prints lines to a stream. -/
def printTo (stream : IO.FS.Stream) (lines : List String) : IO Unit :=
  lines.forM fun line => do
    stream.write ((Text.bytes? line).getD (Text.quote line).toUTF8)
    stream.putStr "\n"

/-- Tells a fault that has no exit code of its own. -/
def fail (fault : Fault) : IO UInt32 := do
  printTo (← IO.getStderr) [s!"ipmodel-solve: {fault.message}"]
  return 1

/-- Writes the report, prints and tells, and gives the exit code. -/
def conclude (e : Run.Ending) : IO UInt32 := do
  if let some (.one path, bytes) := e.output then
    IO.FS.createDirAll (Text.toChars path.parent.text)
    IO.FS.writeBinFile (Text.toChars path.text) bytes
  printTo (← IO.getStderr) e.saved.told
  printTo (← IO.getStdout) e.printed
  if let some (.nothing, _) := e.output then return ← fail .notAPath
  return e.exitCode.toUInt32

/-- Solves a posed problem and measures the time that the search takes. -/
def solve (p : Run.Posed) : IO UInt32 := do
  let before ← IO.monoMsNow
  let search ← IO.lazyPure fun _ => p.search
  let after ← IO.monoMsNow
  let wallTime : Number := .real (.ofDecimal false (after - before) (-3))
  match p.finishSearch search wallTime fun t => t.fixed 3 with
  | .ok e => conclude e
  | .error fault => fail fault

/-- Runs the command. -/
def run (args : List String) : IO UInt32 := do
  let model ← readModel args
  match Run.start args fun _ => model with
  | .misused e =>
    printTo (← IO.getStderr) Arguments.usage
    conclude (Run.misuse e)
  | .ended e => conclude e
  | .failed fault => fail fault
  | .posed p => solve p

end IntegerProgram.Command

/-- The command. -/
def main (args : List String) : IO UInt32 :=
  IntegerProgram.Command.run (args.map IntegerProgram.Text.ofChars)
