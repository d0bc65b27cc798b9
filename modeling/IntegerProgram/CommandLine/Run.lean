import IntegerProgram.CommandLine.Arguments
import IntegerProgram.CommandLine.FileTree
import IntegerProgram.CommandLine.Log
import IntegerProgram.Document.Reader
import IntegerProgram.Json.Printer
import IntegerProgram.Program.Engine
import IntegerProgram.Report.Json

/-!
# Runs of the command

The command solves the model in a file. A run has two halves with a solve between them: the first
reads arguments and file and builds a session, the second reports the outcome, which remains to be
written to a file if one is named. It exits with 0 at an optimum, with 1 if no optimum was found and
with 2 if the arguments, the settings or the model are not valid. Faults of other kinds end a run
without an exit code.

## Main definitions

* `Run.start`: the first half, up to a posed problem.
* `Run.Posed.finish`: the second half.
* `Run.Ending.save`: writes what a run leaves to a tree of files.
-/
namespace IntegerProgram.Run

/-- How a run has ended: its exit code, what it has printed and told, and the file that remains to
be written. -/
structure Ending where
  exitCode : Nat
  printed : List String := []
  told : List String := []
  output : Option (Given Path × ByteArray) := none
  deriving Inhabited

/-- A run whose problem has been posed and awaits its outcome. -/
structure Posed where
  arguments : Arguments
  path : Path
  session : Session
  sense : Sense
  told : List LogEntry
  deriving Inhabited

/-- How the first half of a run ends. -/
inductive Start where
  | misused (e : UsageError)
  | ended (e : Ending)
  | failed (fault : Fault)
  | posed (p : Posed)
  deriving Inhabited

/-- The entries that are written, as lines. -/
def written (verbose : Bool) (told : List LogEntry) : List String :=
  (told.filter fun e => e.isWritten verbose).map LogEntry.text

/-- Ends a run at a fault: with what it means for the model at a path if it is a fault of the model,
a solve or the file, and otherwise with the fault itself. -/
def concludeFault (fault : Fault) (path : Path) (verbose : Bool) (told : List LogEntry) :
    Except Fault Ending :=
  let ending (code : Nat) (message : String) : Ending :=
    { exitCode := code, told := written verbose (told ++ [⟨.error, message⟩]) }
  match fault.kind with
  | .infeasible | .timeout =>
    pure (ending 1 s!"No optimal solution for {path.text}: {fault.message}")
  | .file problem =>
    if problem.isReported then pure (ending 2 s!"Cannot read {path.text}: {fault.message}")
    else throw fault
  | kind =>
    if kind.isModelFault then pure (ending 2 s!"Invalid model {path.text}: {fault.message}")
    else throw fault

/-- The settings that arguments ask for. -/
def settings (a : Arguments) : Except Fault Config :=
  Config.withOverrides {} [("backend", a.backend.toValue .text),
    ("time_limit_s", (a.timeLimit.map fun x => x.toValue .float).getD .none),
    ("num_workers", (a.workers.map fun n => n.toValue .int).getD .none),
    ("log_search_progress", if a.logSearch then .bool true else .none)]

/-- Gives access to files: the bytes at a path. -/
abbrev Files := Path → Except FileProblem ByteArray

/-- The document in a file. -/
def readDocument (files : Files) (path : Path) : Except Fault Document :=
  match files path with
  | .ok bytes => Document.load bytes path.text
  | .error problem => throw (.file path.text problem)

/-- What is told of a document. -/
def loaded (path : Path) (d : Document) : LogEntry :=
  ⟨.info, s!"Loaded {path.text}: {d.vars.length} variables, "
    ++ s!"{d.constraints.length} constraints, {d.implications.length} implications"⟩

/-- What is told of a solve that begins. -/
def solving (s : Session) (sense : Sense) : LogEntry :=
  ⟨.info, s!"Solving ({s.config.backend.shown}, {sense.name}): {s.model.vars.length} variables, "
    ++ s!"{s.model.constraints.length} constraints"⟩

/-- Builds a session from a document and poses its objective. -/
def pose (config : Config) (d : Document) : Except Fault Unit × Session × List LogEntry :=
  let (built, s, told) := Request.performTelling d.requests { config }
  match built with
  | .error fault => (.error fault, s, told)
  | .ok () =>
    let objective := Session.pose (Document.keysOf d.objective)
      (Document.coefficientsOf d.objective) d.sense
    match objective.on s with
    | (.error fault, s) => (.error fault, s, told)
    | (.ok (), s) => (.ok (), s, told ++ [solving s d.sense])

/-- Reads and builds the model that arguments name. -/
def startModel (a : Arguments) (path : Path) (config : Config) (files : Files) : Start :=
  let conclude (fault : Fault) (told : List LogEntry) : Start :=
    match concludeFault fault path a.verbose told with
    | .ok e => .ended e
    | .error fault => .failed fault
  match readDocument files path with
  | .error fault => conclude fault []
  | .ok d =>
    let (posed, session, told) := pose config d
    let told := loaded path d :: told
    match posed with
    | .error fault => conclude fault told
    | .ok () => .posed { arguments := a, path, session, sense := d.sense, told }

/-- Ends a run whose arguments are wrong. -/
def misuse (e : UsageError) : Ending :=
  { exitCode := 2, told := [s!"ipmodel-solve: error: {e.message}"] }

/-- The first half of a run. -/
def start (args : List String) (files : Files) : Start :=
  match Arguments.read args with
  | .error .help => .ended { exitCode := 0, printed := Arguments.help }
  | .error (.usage e) => .misused e
  | .ok a =>
    match settings a with
    | .error fault =>
      if fault.kind = .configuration then
        let told := [⟨.error, s!"Invalid settings: {fault.message}"⟩]
        .ended { exitCode := 2, told := written a.verbose told }
      else .failed fault
    | .ok config => startModel a (a.model.getD default) config files

/-- What is told of an outcome that is no optimum. -/
def stopped (o : Outcome) (seconds : Number → String) : LogEntry :=
  ⟨.warning, s!"Solve ended with status {o.status.name} after {seconds o.wallTime}s "
    ++ s!"(timed_out={Datum.truthText o.timedOut})"⟩

/-- What is told of an optimum. -/
def solved (o : Outcome) (seconds : Number → String) : LogEntry :=
  ⟨.info, s!"Solved to optimality: objective={o.objective.shown} in {seconds o.wallTime}s"⟩

/-- The line between the parts of a summary. -/
def rule : String := String.ofList (List.replicate 70 '=')

/-- The summary of a report. -/
def summary (r : Report) (seconds : Number → String) : List LogEntry :=
  [rule, "SOLVE SUMMARY", rule, s!"Backend: {r.backend}", s!"Status: {r.status.name}",
    s!"Objective ({r.sense.name}): {r.objective.shown}",
    s!"Variables: {r.variableCount}  Constraints: {r.constraintCount}",
    s!"Wall time: {seconds r.wallTime}s", rule].map fun line => ⟨.info, line⟩

/-- Checks that a value can be printed under its key. -/
def requirePrintable (entry : Value × Value) : Except Fault Unit := do
  Obstacle.requireNone entry.1.keyObstacle?
  entry.2.requireText

/-- Reports the values of a session that has been solved. -/
def Posed.report (p : Posed) (s : Session) (values : List (Value × Value)) (told : List LogEntry)
    (seconds : Number → String) : Except Fault Ending := do
  let r := s.lastReport.getD default
  let bytes := ((r.toJson Value.keyText).indented 0).toUTF8
  values.forM requirePrintable
  return {
    exitCode := 0
    printed := values.map fun e => s!"{e.1.keyText} = {e.2.shown}"
    told := written p.arguments.verbose (told ++ summary r seconds)
    output := p.arguments.output.map fun path => (path, bytes) }

/-- The second half of a run, from the outcome of the solve. The notes are what the engine has told.
-/
def Posed.finish (p : Posed) (outcome : Except Fault Outcome) (notes : List LogEntry)
    (seconds : Number → String) : Except Fault Ending :=
  let told := p.told ++ notes
  match outcome with
  | .error fault => concludeFault fault p.path p.arguments.verbose told
  | .ok o =>
    match (Session.conclude p.sense o).on p.session with
    | (.ok values, s) => p.report s values (told ++ [solved o seconds]) seconds
    | (.error fault, _) =>
      let told := if o.status = .optimal then told else told ++ [stopped o seconds]
      concludeFault fault p.path p.arguments.verbose told

/-- The engine's outcome for a posed problem, with its notes. -/
def Posed.search (p : Posed) : Except Fault EngineRun := do
  let b ← Backend.ofName p.session.config.backend
  b.run p.session.model p.session.config

/-- The second half of a run, from a search. -/
def Posed.finishSearch (p : Posed) (search : Except Fault EngineRun) (wallTime : Number)
    (seconds : Number → String) : Except Fault Ending :=
  match search with
  | .error fault => p.finish (.error fault) [] seconds
  | .ok r =>
    let notes := (r.before ++ [s!"{r.after} in {seconds wallTime}s"]).map fun line =>
      (⟨.debug, line⟩ : LogEntry)
    p.finish (.ok { r.outcome with wallTime }) notes seconds

/-- The ending once its file has been written. -/
def Ending.saved (e : Ending) : Ending :=
  match e.output with
  | none | some (.nothing, _) => e
  | some (.one path, _) =>
    let entry : LogEntry := ⟨.info, s!"Wrote result to {path.text}"⟩
    { e with told := e.told ++ [entry.text], output := none }

/-- Writes the file of an ending, making the directories above it. -/
def Ending.save (e : Ending) (files : FileTree) : Except Fault (Ending × FileTree) := do
  match e.output with
  | none => return (e, files)
  | some (.nothing, _) => throw .notAPath
  | some (.one path, bytes) =>
    let place (problem : FileProblem) : Fault := .file path.text problem
    let files ← (files.makeDirectories path.parent).mapError place
    let files ← (files.write path bytes).mapError place
    return (e.saved, files)

end IntegerProgram.Run
