import IntegerProgram.CommandLine.Run
import IntegerProgram.Proofs.Document.Assignment
import IntegerProgram.Proofs.Document.Short
import IntegerProgram.Proofs.Rows.Limit

/-!
# Exit codes

The exit code of a run on a model tells what has been found out. It is two if the file holds no
document, or one that is not valid; one if the document has no solution; and zero if it has one.
Only then are values printed and is there a file to write, and the values are those of an optimum.
What is not valid counts for more than that there is no solution, though some of it comes to light
last: a key of the objective that is not declared, or a multiple that is too large for a program of
rows.

## Main definitions

* `Run.solveModel`: a run on a model, with a given solver.
* `Document.IsInvalid`: a document that a run refuses.
* `Run.Ending.Tells`: what an ending tells of a document.

## Main statements

* `Run.solveModel_exit`: with an exact solver a run ends, and tells the truth.
* `Run.not_solveModel_exit`: a run that does not end, for a number beyond all doubles.
-/
namespace IntegerProgram

/-! ## Documents in files -/

namespace Document

/-- What is wrong with a document itself: the bounds of a first declaration are in the wrong order,
or an entry or the objective mentions a key that is not declared. -/
def IsFaulty (d : Document) : Prop :=
  d.HasInversion ∨ d.MentionsUndeclared ∨ ∃ t ∈ d.objective, ∀ v ∈ d.vars, v.key ≠ t.1

/-- What is wrong with a document for an engine that knows only rows: the model that it is built
into takes a multiple that is too large. -/
def ExceedsLimit (d : Document) (config : Config) : Prop :=
  Backend.ofName config.backend = .ok .bigM ∧ ∃ s holders fault,
    d.build config = .ok (s, holders) ∧ RowProgram.ofModel s.model = .error fault ∧ fault.IsLimit

/-- A document that a run refuses. -/
def IsInvalid (d : Document) (config : Config) : Prop := d.IsFaulty ∨ d.ExceedsLimit config

/-- The bytes of a text are read as the text. -/
theorem fromUTF8?_toUTF8 (s : String) : String.fromUTF8? s.toUTF8 = some s :=
  dif_pos s.isValidUTF8

/-- The bytes of a text that writes a document hold the document. -/
theorem load_ofList {cs : List Char} {source : String} {d : Document}
    (written :
      ((Json.readValue Json.maxDepth (2 * cs.length + 2) (Json.skipSpace cs)).toOption.bind fun v =>
        if (Json.skipSpace v.2).isEmpty then (ofJson v.1 source).toOption else none) = some d) :
    load (String.ofList cs).toUTF8 source = .ok d := by
  have of_toOption {ε α : Type} {r : Except ε α} {a : α} (found : r.toOption = some a) :
      r = .ok a := by
    cases r <;> simp_all [Except.toOption]
  obtain ⟨⟨j, rest⟩, value, written⟩ := Option.bind_eq_some_iff.1 written
  obtain ⟨blank, made⟩ := Option.ite_none_right_eq_some.1 written
  have read : Json.read (String.ofList cs) = .ok j := by
    simp only [Json.read, String.toList_ofList, of_toOption value, ok_bind, blank, if_true]
    rfl
  rw [load, fromUTF8?_toUTF8]
  simp only [read, of_toOption made]

end Document

/-! ## Multiples that are too large -/

theorem Fault.not_isLimit_of_isOther {fault : Fault} (other : fault.IsOther) : ¬fault.IsLimit := by
  rintro ⟨f, k, bound, limit, rfl⟩
  simp [Fault.kind] at other

/-- An objective has nothing to do with multiples. -/
theorem RowProgram.ofModel_limit_iff {m t : Model} {fault : Fault} (limit : fault.IsLimit)
    (vars : t.vars = m.vars) (constraints : t.constraints = m.constraints) :
    ofModel t = .error fault ↔ ofModel m = .error fault := by
  have before (k : Model) : ofModel k = .error fault ↔
      (do k.vars.forM requireHeldBounds; ofConstraints held k.constraints) = .error fault := by
    have other : FailsOnly Fault.IsOther (k.objective.mapM fun o => columnsOf o.sum) := by
      cases k.objective with
      | none => simp
      | some o =>
        rw [Option.mapM_some]
        exact (failsOnly_columnsOf o.sum).map _
    rw [ofModel]
    cases k.vars.forM requireHeldBounds with
    | error _ => simp
    | ok =>
      cases ofConstraints held k.constraints with
      | error _ => simp
      | ok p =>
        cases listed : k.objective.mapM fun o => columnsOf o.sum with
        | error fault' =>
          simp only [ok_bind, error_bind, Except.error.injEq, reduceCtorEq, iff_false]
          rintro rfl
          exact Fault.not_isLimit_of_isOther (other _ listed) limit
        | ok _ => simp
  rw [before, before, vars, constraints]

/-- A solver that answers the program of a model exactly, unless a multiple in it is too large. -/
def Solver.IsExactOrLimited (s : Solver) (m : Model) (c : Config) : Prop :=
  s.IsExact m c ∨ Backend.ofName c.backend = .ok .bigM ∧
    ∃ fault, RowProgram.ofModel m = .error fault ∧ fault.IsLimit

/-- What an exact solver is asked for takes no multiple that is too large. -/
theorem Solver.IsExact.not_limited {s : Solver} {m : Model} {c : Config} {fault : Fault}
    (S : s.IsExact m c) (chosen : Backend.ofName c.backend = .ok .bigM) :
    RowProgram.ofModel m ≠ .error fault := by
  cases S with
  | gated other => simp [chosen] at other
  | bigM p _ _ translated => simp [translated]

namespace Run

variable {d : Document} {config : Config} {s : Session} {fault : Fault} {path : Path}
  {verbose : Bool} {told : List LogEntry}

/-! ## A run -/

/-- The outcome of a given solver for a posed problem, with its notes. -/
def Posed.searchWith (solver : Solver) (p : Posed) : Except Fault EngineRun := do
  let b ← Backend.ofName p.session.config.backend
  b.runWith solver p.session.model p.session.config

/-- A run searches exactly. -/
theorem Posed.search_eq (p : Posed) : p.search = p.searchWith .search := rfl

/-- A run on the model in a file, from reading it to reporting what a solver has found. -/
def solveModel (solver : Solver) (a : Arguments) (path : Path) (config : Config) (files : Files)
    (wallTime : Number) (seconds : Number → String) : Except Fault Ending :=
  match startModel a path config files with
  | .misused e => .ok (misuse e)
  | .ended e => .ok e
  | .failed fault => .error fault
  | .posed p => p.finishSearch (p.searchWith solver) wallTime seconds

/-- An ending with a given exit code that prints nothing and leaves no file to write. -/
structure Ending.IsSilent (e : Ending) (code : Nat) : Prop where
  exitCode : e.exitCode = code
  printed : e.printed = []
  output : e.output = none

/-- A fault of the model, or of a file that cannot be read, ends a run with two. -/
theorem concludeFault_invalid (path : Path) (verbose : Bool) (told : List LogEntry)
    (invalid : fault.kind = .configuration ∨ fault.kind = .notFound ∨
      ∃ problem, fault.kind = .file problem ∧ problem.isReported = true) :
    ∃ e, concludeFault fault path verbose told = .ok e ∧ e.IsSilent 2 := by
  unfold concludeFault
  rcases invalid with kind | kind | ⟨problem, kind, isReported⟩
  · exact ⟨_, by rw [kind]; rfl, rfl, rfl, rfl⟩
  · exact ⟨_, by rw [kind]; rfl, rfl, rfl, rfl⟩
  · exact ⟨_, by rw [kind]; simp only [isReported, if_true]; rfl, rfl, rfl, rfl⟩

/-- That there is no optimum ends a run with one. -/
theorem concludeFault_infeasible (infeasible : fault.kind = .infeasible) :
    ∃ e, concludeFault fault path verbose told = .ok e ∧ e.IsSilent 1 := by
  unfold concludeFault
  exact ⟨_, by rw [infeasible]; rfl, rfl, rfl, rfl⟩

/-! ## The first half -/

/-- A document in a file has short integers. -/
theorem isShort_of_readDocument {files : Files} (read : readDocument files path = .ok d) :
    d.IsShort := by
  unfold readDocument at read
  split at read
  · exact Document.isShort_of_load read
  · simp at read

/-- Telling of requests changes nothing of what comes of them. -/
theorem performTelling_eq (requests : List Request) (s : Session) :
    ∃ told, Request.performTelling requests s =
      (((requests.mapM Request.perform).on s).1.map fun _ => (),
        ((requests.mapM Request.perform).on s).2, told) := by
  induction requests generalizing s with
  | nil => exact ⟨[], rfl⟩
  | cons request requests ih =>
    rw [List.mapM_cons, Request.performTelling]
    cases ran : request.perform.on s with
    | mk ending t =>
      cases ending with
      | error fault =>
        rw [Attempt.on_bind_error ran]
        exact ⟨_, rfl⟩
      | ok answer =>
        obtain ⟨told, rest⟩ := ih t
        rw [Attempt.on_bind_ok ran, Attempt.on_bind]
        simp only [rest]
        cases (requests.mapM Request.perform).on t with
        | mk ending u => cases ending <;> exact ⟨_, rfl⟩

/-- The objective of a document is refused if it mentions a key that is not declared, and otherwise
posed. -/
theorem pose_objective_cases (K : s.Knows (d.vars.map (·.key))) :
    ((∃ t ∈ d.objective, ∀ v ∈ d.vars, v.key ≠ t.1) ∧ ∃ fault,
        (Session.pose (Document.keysOf d.objective) (Document.coefficientsOf d.objective)
          d.sense).on s = (.error fault, s) ∧ fault.kind = .notFound) ∨
      (¬∃ t ∈ d.objective, ∀ v ∈ d.vars, v.key ≠ t.1) ∧
        (Session.pose (Document.keysOf d.objective) (Document.coefficientsOf d.objective)
          d.sense).on s = (.ok (), s.posed (s.weigh d.objective) d.sense) := by
  -- the objective is looked at as the sum of a relation is
  let r : Document.RelationEntry := ⟨d.objective, .eq, 0, ""⟩
  have all : Document.undeclared (d.vars.map (·.key)) r.keys = [] ↔
      ¬∃ t ∈ d.objective, ∀ v ∈ d.vars, v.key ≠ t.1 := by
    simp [Document.undeclared_eq_nil, Document.RelationEntry.keys, r]
  cases missing : Document.undeclared (d.vars.map (·.key)) r.keys with
  | nil =>
    have summed := K.sumOf_eq_ok missing
    exact .inr ⟨all.1 missing, Session.on_pose K.coherent summed⟩
  | cons fault faults =>
    left
    have mentions : ∃ t ∈ d.objective, ∀ v ∈ d.vars, v.key ≠ t.1 := by
      by_contra fine
      simp [all.2 fine] at missing
    have blamed : fault ∈ Document.undeclared (d.vars.map (·.key)) r.keys := by simp [missing]
    obtain ⟨key, -, rfl⟩ := List.mem_map.1 blamed
    refine ⟨mentions, .unknownKey (.text key), ?_, rfl⟩
    rw [Session.pose, Attempt.on_get_bind]
    exact Attempt.on_check_error (K.sumOf_eq_error missing _) s

/-- **What comes of posing a document** with short integers: it is refused if something is wrong
with it, and otherwise its session has been built and its objective posed. -/
theorem pose_cases (valid : config.validate = .ok config) (short : d.IsShort) :
    (d.IsFaulty ∧ ∃ fault s told, pose config d = (.error fault, s, told) ∧
        (fault.kind = .configuration ∨ fault.kind = .notFound)) ∨
      ¬d.IsFaulty ∧ ∃ s told,
        pose config d = (.ok (), s.posed (s.weigh d.objective) d.sense, told) ∧
        d.build config = .ok (s, d.holders) ∧ d.IsReplayedTo s d.holders := by
  have made : Session.new config = .ok { config } := by rw [Session.new, valid]; rfl
  obtain ⟨told, telling⟩ := performTelling_eq d.requests { config }
  rcases d.build_cases made with ⟨fault, faults, all, refused⟩ | ⟨none_, s, ran, gained, built⟩
  · have failed : ((d.requests.mapM Request.perform).on { config }).1 = .error fault := by
      rw [d.build_eq made] at refused
      revert refused
      rcases (d.requests.mapM Request.perform).on { config } with ⟨_ | answers, t⟩ <;> simp
    refine .inl ⟨?_, fault, _, _, by rw [pose, telling, failed]; rfl, ?_⟩
    · by_contra fine
      rw [Document.faults_eq_nil.2] at all
      · cases all
      · rintro (inverted | undeclared | unwritten)
        · exact fine (.inl inverted)
        · exact fine (.inr (.inl undeclared))
        · exact short.not_hasUnwritten unwritten
    · rcases Document.kind_of_head?_faults (by rw [all, List.head?_cons]) with
        ⟨kind, -⟩ | ⟨kind, -⟩ | ⟨-, unwritten⟩
      · exact .inl kind
      · exact .inr kind
      · exact absurd unwritten short.not_hasUnwritten
  · have fine := Document.faults_eq_nil.1 none_
    have K := Document.knows_of_gains (Document.knows_new made) gained
    rcases pose_objective_cases K with ⟨mentions, fault, failed, kind⟩ | ⟨declared, objective⟩
    · refine .inl ⟨.inr (.inr mentions), fault, s, told, ?_, .inr kind⟩
      rw [pose, telling, ran]
      simp only [Except.map, failed]
    · refine .inr ⟨?_, s, told ++ [solving (s.posed (s.weigh d.objective) d.sense) d.sense], ?_,
        built, Document.isReplayedTo_of_build none_ made ran built⟩
      · rintro (inverted | undeclared | mentions)
        · exact fine (.inl inverted)
        · exact fine (.inr (.inl undeclared))
        · exact declared mentions
      · rw [pose, telling, ran]
        simp only [Except.map, objective]

/-! ## The second half -/

variable {p : Posed} {solver : Solver} {r : EngineRun} {o : Outcome} {wallTime : Number}
  {seconds : Number → String}

/-- What an engine answers is what a search with its solver finds. -/
theorem Posed.exists_searchWith
    (answered : Config.engineWith solver p.session.model p.session.config = .ok o) :
    ∃ r, p.searchWith solver = .ok r ∧ r.outcome = o := by
  obtain ⟨b, named, answered⟩ := bind_eq_ok.1 answered
  obtain ⟨r, ran, same⟩ := bind_eq_ok.1 answered
  exact ⟨r, by rw [searchWith, named, ok_bind, ran], Except.ok.inj same⟩

/-- A search that finds values ends a run with zero, and they are printed if they can be. -/
theorem Posed.finishSearch_of_values {values : List (Value × Value)}
    (valued : p.session.valuesAt r.outcome = .ok values)
    (printable : values.forM requirePrintable = .ok ()) :
    ∃ e bytes, p.finishSearch (.ok r) wallTime seconds = .ok e ∧ e.exitCode = 0 ∧
      e.printed = values.map (fun v => s!"{v.1.keyText} = {v.2.shown}") ∧
      e.output = p.arguments.output.map fun path => (path, bytes) := by
  have timed : p.session.valuesAt { r.outcome with wallTime } = .ok values := valued
  rw [finishSearch, finish, Session.on_conclude, timed]
  simp only [report, printable, ok_bind]
  exact ⟨_, _, rfl, rfl, rfl, rfl⟩

/-- A search that finds no point ends a run with one. -/
theorem Posed.finishSearch_of_infeasible (unsolved : p.session.valuesAt r.outcome = .error fault)
    (infeasible : fault.kind = .infeasible) :
    ∃ e, p.finishSearch (.ok r) wallTime seconds = .ok e ∧ e.IsSilent 1 := by
  have timed : p.session.valuesAt { r.outcome with wallTime } = .error fault := unsolved
  rw [finishSearch, finish, Session.on_conclude, timed]
  exact concludeFault_infeasible infeasible

/-- A search that is refused for a multiple ends a run with two. -/
theorem Posed.finishSearch_of_limit (refused : p.searchWith solver = .error fault)
    (limit : fault.IsLimit) :
    ∃ e, p.finishSearch (p.searchWith solver) wallTime seconds = .ok e ∧ e.IsSilent 2 := by
  rw [refused, finishSearch, finish]
  obtain ⟨f, k, bound, most, rfl⟩ := limit
  exact concludeFault_invalid _ _ _ (.inl rfl)

/-- Where no program of rows is made, there is nothing to search. -/
theorem Posed.searchWith_of_refused
    (chosen : Backend.ofName p.session.config.backend = .ok .bigM)
    (refused : RowProgram.ofModel p.session.model = .error fault) :
    p.searchWith solver = .error fault := by
  simp [searchWith, chosen, Backend.runWith, Backend.runBigM, refused]

/-! ## Endings -/

/-- What an ending tells of the document in a file: the exit code is two if there is none or it is
invalid, one if it has no solution, and zero if it has one. Only then are there lines, which give
the keys of its session, each once, with their values in an optimum, and a file to write if one was
asked for. -/
structure Ending.Tells (e : Ending) (a : Arguments) (config : Config)
    (read : Except Fault Document) : Prop where
  invalid : e.exitCode = 2 ↔ ∀ d, read = .ok d → d.IsInvalid config
  infeasible : e.exitCode = 1 ↔
    ∃ d, read = .ok d ∧ ¬d.IsInvalid config ∧ ∀ b, ¬d.IsSolvedBy b
  solved : e.exitCode = 0 ↔ ∃ d b, read = .ok d ∧ ¬d.IsInvalid config ∧ d.IsSolvedBy b
  silent : e.exitCode ≠ 0 → e.printed = [] ∧ ∀ files, e.save files = .ok (e, files)
  printed : e.exitCode = 0 → ∃ d s b bytes, read = .ok d ∧ d.build config = .ok (s, d.holders) ∧
    s.registry.keys.Nodup ∧ d.IsOptimum b ∧
    e.printed = s.registry.keys.map (fun key => s!"{key.keyText} = {b key}") ∧
    e.output = a.output.map fun path => (path, bytes)

/-- A silent ending writes nothing. -/
theorem Ending.IsSilent.save {e : Ending} {code : Nat} (silent : e.IsSilent code)
    (files : FileTree) : e.save files = .ok (e, files) := by
  rw [Ending.save, silent.output]
  rfl

theorem Ending.IsSilent.tells_invalid {e : Ending} {a : Arguments} {read : Except Fault Document}
    (silent : e.IsSilent 2) (invalid : ∀ d, read = .ok d → d.IsInvalid config) :
    e.Tells a config read := by
  refine ⟨iff_of_true silent.exitCode invalid, iff_of_false (by simp [silent.exitCode]) ?_,
    iff_of_false (by simp [silent.exitCode]) ?_, fun _ => ⟨silent.printed, silent.save⟩,
    fun zero => by simp [silent.exitCode] at zero⟩
  · rintro ⟨d, same, fine, -⟩
    exact fine (invalid d same)
  · rintro ⟨d, b, same, fine, -⟩
    exact fine (invalid d same)

theorem Ending.IsSilent.tells_infeasible {e : Ending} {a : Arguments} (silent : e.IsSilent 1)
    (fine : ¬d.IsInvalid config) (void : ∀ b, ¬d.IsSolvedBy b) :
    e.Tells a config (.ok d) := by
  refine ⟨iff_of_false (by simp [silent.exitCode]) ?_, iff_of_true silent.exitCode
    ⟨d, rfl, fine, void⟩, iff_of_false (by simp [silent.exitCode]) ?_,
    fun _ => ⟨silent.printed, silent.save⟩, fun zero => by simp [silent.exitCode] at zero⟩
  · intro invalid
    exact fine (invalid d rfl)
  · rintro ⟨d', b, same, -, solved⟩
    obtain rfl := Except.ok.inj same
    exact void b solved

theorem Ending.tells_of_optimum {e : Ending} {a : Arguments} {b : Value → Int} {bytes : ByteArray}
    (zero : e.exitCode = 0) (fine : ¬d.IsInvalid config)
    (built : d.build config = .ok (s, d.holders)) (best : d.IsOptimum b)
    (printed : e.printed = s.registry.keys.map fun key => s!"{key.keyText} = {b key}")
    (output : e.output = a.output.map fun path => (path, bytes)) : e.Tells a config (.ok d) := by
  refine ⟨iff_of_false (by simp [zero]) fun invalid => fine (invalid d rfl),
    iff_of_false (by simp [zero]) ?_, iff_of_true zero ⟨d, b, rfl, fine, best.solved⟩,
    fun other => absurd zero other, fun _ => ?_⟩
  · rintro ⟨d', same, -, void⟩
    obtain rfl := Except.ok.inj same
    exact void b best.solved
  · exact ⟨d, s, b, bytes, rfl, built, Document.nodup_keys_of_build built, best, printed, output⟩

/-- The values that solve a short document can be printed: they lie between bounds that can be. -/
theorem forM_requirePrintable {x : Point} (R : d.IsReplayedTo s d.holders) (short : d.IsShort)
    (solved : d.IsSolvedBy (s.valueAt x)) : (s.valuesIn x).forM requirePrintable = .ok () := by
  have printable (key : Value) (n : Int) (named : key.keyObstacle? = none)
      (written : Obstacle.ofInt? n = none) : requirePrintable (key, .int n) = .ok () := by
    simp [requirePrintable, named, written, Value.requireText, Obstacle.requireNone]
  rw [R.valuesIn_eq, forM_eq_ok, List.forall_mem_map, Registry.keys, List.forall_mem_map]
  intro e he
  rcases R.entry_cases he with ⟨v, first, key, -, -⟩ | ⟨held, -, -⟩
  · have bounds := solved.declared v first
    obtain ⟨i, here, -⟩ := first
    obtain ⟨low, high⟩ := short.vars v (List.mem_of_getElem? here)
    rw [key]
    exact printable _ _ (by simp [Value.keyObstacle?])
      (Document.ofInt?_eq_none_of_between bounds low high)
  · have switch := solved.holders e.1 held
    obtain ⟨i, -, holder⟩ := List.mem_map.1 held
    refine printable _ _ (holder ▸ rfl) ?_
    rcases switch with off | on
    · rw [off]; decide +kernel
    · rw [on]; decide +kernel

/-- A run on a document that is in order, and posed in its session. -/
theorem tells_of_posed {told : List LogEntry} (a : Arguments) (fine : ¬d.IsFaulty)
    (short : d.IsShort) (built : d.build config = .ok (s, d.holders))
    (R : d.IsReplayedTo s d.holders)
    (exact : solver.IsExactOrLimited (s.posed (s.weigh d.objective) d.sense).model config) :
    let p : Posed := ⟨a, path, s.posed (s.weigh d.objective) d.sense, d.sense, told⟩
    ∃ e, p.finishSearch (p.searchWith solver) wallTime seconds = .ok e ∧
      e.Tells a config (.ok d) := by
  intro p
  obtain ⟨-, gained⟩ := Document.gains_of_build built
  have settings : p.session.config = config := gained.config
  have C := gained.coherent
  have undeclared : ¬d.MentionsUndeclared := fun undeclared => fine (.inr (.inl undeclared))
  have declared : ∀ t ∈ d.objective, ∃ v ∈ d.vars, v.key = t.1 := by
    by_contra missing
    push Not at missing
    exact fine (.inr (.inr missing))
  have same (fault : Fault) (limit : fault.IsLimit) : RowProgram.ofModel p.session.model =
      .error fault ↔ RowProgram.ofModel s.model = .error fault :=
    RowProgram.ofModel_limit_iff limit rfl rfl
  rcases exact with exact | ⟨chosen, fault, refused, limit⟩
  · have unlimited : ¬d.IsInvalid config := by
      rintro (faulty | ⟨chosen, t, holders, fault, made, refused, limit⟩)
      · exact fine faulty
      · obtain ⟨rfl, -⟩ := Prod.mk.inj (Except.ok.inj (built.symm.trans made))
        exact exact.not_limited chosen ((same fault limit).2 refused)
    have posed : p.session.IsCoherent := C.of_content (Session.content_posed _)
    obtain ⟨o, answered, told⟩ := exact.engine posed.model rfl (R.mem_vars_of_weigh declared)
    rw [← settings] at answered
    obtain ⟨r, ran, rfl⟩ := p.exists_searchWith answered
    rw [ran]
    cases told with
    | optimal x optimum status values =>
      have valued := posed.valuesAt_optimal status optimum.admits values
      have best := R.isOptimum C undeclared declared optimum
      have printable := forM_requirePrintable R short best.solved
      obtain ⟨e, bytes, ended, zero, printed, output⟩ := p.finishSearch_of_values valued printable
      refine ⟨e, ended, e.tells_of_optimum zero unlimited built best ?_ output⟩
      rw [printed, show p.session.valuesIn x = s.valuesIn x from rfl, R.valuesIn_eq, List.map_map]
      rfl
    | infeasible void status timedOut =>
      have unsolved : p.session.valuesAt r.outcome =
          .error (.notOptimal .infeasible p.session.registry.names) := by
        simp [Session.valuesAt, status, Session.failure, timedOut]
        rfl
      obtain ⟨e, ended, silent⟩ := p.finishSearch_of_infeasible unsolved rfl
      refine ⟨e, ended, silent.tells_infeasible unlimited fun b solved => ?_⟩
      obtain ⟨z, admitted, -⟩ := R.exists_admits C undeclared solved
      exact void z (Session.posed_admits_iff.2 admitted)
  · have limited : p.searchWith solver = .error fault :=
      p.searchWith_of_refused (settings.symm ▸ chosen) refused
    obtain ⟨e, ended, silent⟩ := p.finishSearch_of_limit limited limit
    refine ⟨e, ended, silent.tells_invalid ?_⟩
    rintro d' ⟨⟩
    exact .inr ⟨chosen, s, d.holders, fault, built, (same fault limit).1 refused, limit⟩

/-- **The exit code of a run tells what has been found out.** With an exact solver, a run on a file
that holds a document or is refused for what it holds ends, and tells whether the document is valid
and has a solution. -/
theorem solveModel_exit (solver : Solver) (a : Arguments) (path : Path) (config : Config)
    (files : Files) (wallTime : Number) (seconds : Number → String)
    (valid : config.validate = .ok config)
    (loads : ∀ fault, readDocument files path = .error fault → fault.kind = .configuration ∨
      ∃ problem, fault.kind = .file problem ∧ problem.isReported = true)
    (exact : ∀ p, startModel a path config files = .posed p →
      solver.IsExactOrLimited p.session.model config) :
    ∃ e, solveModel solver a path config files wallTime seconds = .ok e ∧
      e.Tells a config (readDocument files path) := by
  cases read : readDocument files path with
  | error fault =>
    obtain ⟨e, ended, silent⟩ :=
      concludeFault_invalid path a.verbose [] ((loads fault read).imp_right .inr)
    refine ⟨e, ?_, silent.tells_invalid (by simp)⟩
    rw [solveModel, startModel, read]
    simp only [ended]
  | ok d =>
    have short := isShort_of_readDocument read
    rcases pose_cases valid short with ⟨faulty, fault, s, told, posed, kind⟩ |
      ⟨fine, s, told, posed, built, R⟩
    · obtain ⟨e, ended, silent⟩ :=
        concludeFault_invalid path a.verbose (loaded path d :: told) (kind.imp_right .inl)
      refine ⟨e, ?_, silent.tells_invalid ?_⟩
      · rw [solveModel, startModel, read]
        simp only [posed, ended]
      · rintro d' ⟨⟩
        exact .inl faulty
    · have started : startModel a path config files = .posed ⟨a, path,
          s.posed (s.weigh d.objective) d.sense, d.sense, loaded path d :: told⟩ := by
        rw [startModel, read]
        simp only [posed]
      rw [solveModel, started]
      exact tells_of_posed a fine short built R (exact _ started)

/-! ## A capped number -/

namespace Capped

/-- A text that declares a number up to three, a multiple of which is at most five. The number is to
be as great as possible. -/
def text (multiple : List Char) : List Char :=
  "\x7b\"variables\": [\x7b\"key\": \"x\", \"min\": 0, \"max\": 3\x7d], ".toList ++
  "\"constraints\": [\x7b\"terms\": \x7b\"x\": ".toList ++ multiple ++
  "\x7d, \"relation\": \"<=\", \"rhs\": 5, \"description\": \"cap\"\x7d], ".toList ++
  "\"objective\": \x7b\"sense\": \"maximize\", \"terms\": \x7b\"x\": 1\x7d\x7d\x7d".toList

/-- The document that the text writes. -/
def document (k : Int) : Document where
  vars := [⟨"x", 0, 3, "x"⟩]
  fixed := []
  constraints := [⟨[("x", k)], .lte, 5, "cap"⟩]
  implications := []
  sense := .maximize
  objective := [("x", 1)]

/-- The variable of the number. -/
def number : Variable := ⟨⟨0, 0⟩, 0, "x", 0, 3, none⟩

/-- The session that the document is built into. -/
def session (k : Int) (config : Config) : Session where
  config := config
  registry := ⟨[(.text "x", number)]⟩
  model :=
    { vars := [number]
      constraints := [⟨.whole ⟨[(number, k)]⟩, .known .le, 5, none, .text "cap"⟩] }

/-- The session with the number as its objective. -/
def posed (k : Int) (config : Config) : Session :=
  (session k config).posed ⟨[(number, 1)]⟩ .maximize

/-- The path of a file. -/
def file : Path := ⟨"", ["m.json"]⟩

/-- Access to the file, which holds the text. -/
def files (multiple : List Char) : Files := fun _ => .ok (String.ofList (text multiple)).toUTF8

variable {multiple : List Char} {k : Int}

theorem readDocument_files
    (load : Document.load (String.ofList (text multiple)).toUTF8 "m.json" = .ok (document k)) :
    readDocument (files multiple) file = .ok (document k) := load

theorem readDocument_two : readDocument (files ['2']) file = .ok (document 2) :=
  readDocument_files (Document.load_ofList (by decide +kernel))

/-- There is a file with a multiple beyond all doubles. -/
theorem exists_beyond : ∃ multiple k, readDocument (files multiple) file = .ok (document k) ∧
    RowProgram.held k = .error .numberTooLarge :=
  ⟨'1' :: List.replicate 400 '0', Int.ofNat (Nat.pow 10 400),
    readDocument_files (Document.load_ofList (by decide +kernel)), RowProgram.held_huge⟩

theorem build_document (k : Int) (config : Config) (valid : config.validate = .ok config) :
    (document k).build config = .ok (session k config, []) := by
  rw [Document.build, Session.new, valid]
  rfl

theorem startModel_files (a : Arguments) (config : Config)
    (read : readDocument (files multiple) file = .ok (document k)) :
    ∃ told, startModel a file config (files multiple) =
      .posed ⟨a, file, posed k config, .maximize, told⟩ := by
  rw [startModel, read]
  exact ⟨_, rfl⟩

theorem isSolvedBy_iff {b : Value → Int} : (document k).IsSolvedBy b ↔
    (0 ≤ b (.text "x") ∧ b (.text "x") ≤ 3) ∧ k * b (.text "x") ≤ 5 := by
  have first (v : Document.VariableEntry) :
      Document.IsFirst (document k).vars v ↔ v = ⟨"x", 0, 3, "x"⟩ :=
    Document.mem_firsts.symm.trans List.mem_singleton
  constructor
  · rintro ⟨declared, -, ⟨-, constraints, -⟩⟩
    exact ⟨declared _ ((first _).2 rfl), by
      simpa [document, Document.RelationEntry.IsMetBy, Document.totalOf, Relation.Relates]
        using constraints⟩
  · rintro ⟨within, most⟩
    constructor
    · intro v declared
      obtain rfl := (first v).1 declared
      exact within
    · simp [document, Document.holders, Document.holdersFrom]
    · constructor
      · simp [document]
      · simpa [document, Document.RelationEntry.IsMetBy, Document.totalOf, Relation.Relates]
          using most
      · simp [document]

theorem not_isFaulty (k : Int) : ¬(document k).IsFaulty := by
  rintro (inverted | undeclared | mentions)
  · exact absurd inverted (Document.inversions_eq_nil.1 rfl)
  · exact absurd undeclared (Document.undeclared_mentioned_eq_nil.1 rfl)
  · simp [document] at mentions

theorem admits_iff {config : Config} {z : Point} :
    (posed k config).model.Admits z ↔ (0 ≤ z 0 ∧ z 0 ≤ 3) ∧ k * z 0 ≤ 5 := by
  constructor
  · rintro ⟨bounds, constraints⟩
    simpa [posed, session, number, Session.posed, Variable.admits, Constraint.Holds,
      Operator.Relates, Comparison.holds] using And.intro bounds constraints
  · rintro ⟨within, most⟩
    constructor <;>
    simpa [posed, session, number, Session.posed, Variable.admits, Constraint.Holds,
      Operator.Relates, Comparison.holds]

/-- A solver that answers two. -/
def two : Solver := ⟨fun _ => ⟨some .optimal, [.int 2], .int 2⟩, RowProgram.solve⟩

theorem two_isExact : two.IsExact (posed 2 {}).model {} := by
  obtain ⟨-, gained⟩ := Document.gains_of_build (build_document 2 {} rfl)
  have C : (posed 2 {}).IsCoherent := gained.coherent.of_content (Session.content_posed _)
  refine .gated rfl ⟨_, rfl⟩ fun p made => ?_
  have optimum : (posed 2 {}).model.IsOptimum ⟨[(number, 1)]⟩ .maximize fun _ => 2 := by
    refine ⟨admits_iff.2 (by decide), fun z admitted => ?_⟩
    have most := admits_iff.1 admitted
    simp only [Sense.Prefers, WeightedSum.value, List.foldr, number]
    omega
  refine .of_isOptimum C.model rfl ?_ made optimum rfl ?_
  · exact fun v hv => hv
  · intro i hi
    obtain rfl : i = 0 := by simpa [posed, session, Session.posed] using hi
    rfl

/-- The program of rows is refused for a multiple beyond all doubles. -/
theorem ofModel_posed {fault : Fault} (config : Config)
    (beyond : RowProgram.held k = .error fault) :
    RowProgram.ofModel (posed k config).model = .error fault := by
  have finite (n : Int) (small : n.natAbs < Nat.pow 2 53) : RowProgram.held n = .ok n :=
    RowProgram.held_of_lt small
  simp [RowProgram.ofModel, RowProgram.ofConstraints, posed, session, number, Session.posed,
    RowProgram.add, LinearForm.terms, RowProgram.compare, RowProgram.atMost,
    RowProgram.columnsOf, beyond, RowProgram.requireHeldBounds, finite]

end Capped

/-- The greatest number of which twice is at most five. -/
theorem solveModel_exit_capped : ∃ e,
    solveModel Capped.two {} Capped.file {} (Capped.files ['2']) default (fun _ => "") = .ok e ∧
      e.exitCode = 0 ∧ e.printed = ["x = 2"] := by
  have read := Capped.readDocument_two
  obtain ⟨told, started⟩ := Capped.startModel_files {} {} read
  obtain ⟨e, ended, tells⟩ := solveModel_exit Capped.two {} Capped.file {} (Capped.files ['2'])
    default (fun _ => "") rfl (by simp [read]) (by
      intro p posed
      obtain rfl := Start.posed.inj (started.symm.trans posed)
      exact .inl Capped.two_isExact)
  have fine : ¬(Capped.document 2).IsInvalid {} := by
    rintro (faulty | ⟨⟨⟩, -⟩)
    exact Capped.not_isFaulty 2 faulty
  have solved : (Capped.document 2).IsSolvedBy fun _ => 2 := Capped.isSolvedBy_iff.2 (by decide)
  have zero : e.exitCode = 0 := tells.solved.2 ⟨_, _, read, fine, solved⟩
  refine ⟨e, ended, zero, ?_⟩
  obtain ⟨d, s, b, bytes, same, built, -, best, printed, -⟩ := tells.printed zero
  obtain rfl := Except.ok.inj (read.symm.trans same)
  obtain ⟨rfl, -⟩ :=
    Prod.mk.inj (Except.ok.inj ((Capped.build_document 2 {} rfl).symm.trans built))
  have most := Capped.isSolvedBy_iff.1 best.solved
  have least : 2 ≤ b (.text "x") := by
    simpa [Capped.document, Sense.Prefers, Document.totalOf] using best.best _ solved
  have value : b (.text "x") = 2 := by omega
  rw [printed, Session.registry, Capped.session]
  simp [Registry.keys, value]
  rfl

/-- Without the condition that the program of rows can be held as it is, a run may end with no exit
code, though the document is valid and has a solution. -/
theorem not_solveModel_exit :
    ¬ ∀ (solver : Solver) (a : Arguments) (path : Path) (config : Config) (files : Files)
      (wallTime : Number) (seconds : Number → String),
      config.validate = .ok config →
      (∀ fault, readDocument files path = .error fault → fault.kind = .configuration ∨
        ∃ problem, fault.kind = .file problem ∧ problem.isReported = true) →
      Backend.ofName config.backend = .ok .bigM →
      (∃ options, RowProgram.options config = .ok options) →
      (∀ p q, startModel a path config files = .posed p →
        RowProgram.ofModel p.session.model = .ok q →
        q.IsExact p.session.model (solver.rows q p.session.model)) →
      ∃ e, solveModel solver a path config files wallTime seconds = .ok e ∧
        e.Tells a config (readDocument files path) := by
  intro exit
  let config : Config := { backend := .text "cbc" }
  obtain ⟨multiple, k, read, beyond⟩ := Capped.exists_beyond
  obtain ⟨told, started⟩ := Capped.startModel_files {} config read
  have refused : RowProgram.ofModel (Capped.posed k config).model = .error .numberTooLarge :=
    Capped.ofModel_posed config beyond
  have unsearched : Posed.searchWith .search
      ⟨{}, Capped.file, Capped.posed k config, .maximize, told⟩ = .error .numberTooLarge :=
    Posed.searchWith_of_refused rfl refused
  obtain ⟨e, ended, -⟩ := exit .search {} Capped.file config (Capped.files multiple) default
    (fun _ => "") rfl (by simp [read]) rfl ⟨_, rfl⟩ (by
      intro p q posed made
      obtain rfl := Start.posed.inj (started.symm.trans posed)
      simp [refused] at made)
  rw [solveModel, started] at ended
  simp only [unsearched, Posed.finishSearch, Posed.finish] at ended
  cases ended

end Run

end IntegerProgram
