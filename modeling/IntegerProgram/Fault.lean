import IntegerProgram.Constraint
import IntegerProgram.Outcome

/-!
# Faults

Everything that can go wrong, by cause. A fault has a message for the caller and a kind, by which
callers tell apart the faults that they handle differently.

A message is written when the fault comes about. If it cannot be written, then this is the fault
that comes about in its place.

## Main definitions

* `Fault`: the causes.
* `Fault.kind`: the family of a fault.
* `Fault.message`: the wording.
* `Fault.raised`: the fault that comes about.
-/
namespace IntegerProgram

/-- What is wrong at some place of a model document. -/
inductive DocumentProblem where
  | notAnObject
  | noVariables
  | missing (member : String)
  | notInteger (value : Value)
  | notAPair (item : Value)
  | notTerms
  | unsupportedRelation (value : Value)
  | unknownSense
  | notJson
  | notText
  deriving Inhabited

/-- The side of an implication. -/
inductive Side where
  | predicate
  | entailment
  deriving DecidableEq, Inhabited, Repr

/-- What is wrong with a path in the file system. A name is unwritable if it holds what has no
bytes, and invalid if it has a null character; only so many levels of directories are made at
once. -/
inductive FileProblem where
  | missing
  | isDirectory
  | notDirectory
  | occupied
  | nameTooLong
  | denied
  | unwritableName
  | invalidName
  | tooManyLevels
  deriving DecidableEq, Inhabited, Repr

/-- What is asked of a variable: its name, its place in a table, or its value. -/
inductive Aspect where
  | name
  | place
  | value
  deriving DecidableEq, Inhabited, Repr

/-- What can go wrong, by cause. -/
inductive Fault where
  /-- A number that has to be an integer is not. -/
  | notInteger (what : String) (value : Value)
  /-- A number is beyond the range of doubles, or of what counts repetitions. -/
  | numberTooLarge
  /-- An integer is not one of the width that it is computed with in. -/
  | notOfWidth (n : Int) (width : IntegerWidth)
  /-- A whole number is asked of a double that is not a number. -/
  | notANumber
  /-- A decimal operation has a result beyond the range of decimals. -/
  | decimalTooLarge
  /-- A fraction has the denominator zero. -/
  | zeroDenominator
  /-- Something is repeated so often that there is no room for it. -/
  | tooLong
  /-- A machine number is added to a text. -/
  | machineAndText
  /-- Grids of different shapes cannot be combined. -/
  | shapeMismatch
  /-- A number that an engine is to use is infinite or none. -/
  | notFinite (value : Value)
  /-- A key cannot be hashed. -/
  | unhashableKey (key : Value)
  /-- A variable is given as a key for a variable. -/
  | handleAsKey (handle : Variable)
  /-- The bounds of a new key are in the wrong order. -/
  | invertedRange (lower upper : Int) (description : Value)
  /-- An allocated variable has the index of one that is bound. -/
  | alreadyBound (made : Variable) (key : Value)
  /-- A key is not bound. -/
  | unknownKey (key : Value)
  /-- A handle comes from elsewhere. -/
  | foreignHandle (handle : Variable)
  /-- Something that is no variable is asked for what a variable has. -/
  | notAVariable (value : Value) (asked : Aspect)
  /-- The bounds of a new variable are in the wrong order. -/
  | emptyDomain (lower upper name : Value)
  /-- There is no index left for a new variable. -/
  | noIndexLeft
  /-- A variable belongs to another model. -/
  | foreignVariable (made : Variable)
  /-- A negative index points before the start of the table of variables. -/
  | noSuchPlace (index : Int)
  /-- The indicator of a gate takes other values than zero and one. -/
  | gateDomain (indicator : Variable)
  /-- A gate is active at another value than zero and one. -/
  | gateValue (value : Value)
  /-- The indicator of an implication takes other values than zero and one. -/
  | indicatorDomain (indicator : Variable)
  /-- The sense of an objective is neither of the two. -/
  | unknownSense (value : Value)
  /-- A sum has not as many coefficients as variables. -/
  | sumArity (vars coefficients : Nat) (context : Value)
  /-- A side of an implication has not as many coefficients as variables. -/
  | sideArity (side : Side) (coefficients vars : Nat) (description : Value)
  /-- A relation is outside the closed set. -/
  | unsupportedRelation (value : Value)
  /-- A relation without a complement. -/
  | noComplement (value : Value)
  /-- A value that cannot be hashed is looked up. -/
  | unhashable
  /-- A constraint has a symbol that is no comparison, and an engine is asked to enforce it. -/
  | unsupportedOperator (symbol : String)
  /-- A constraint has a symbol that is no comparison, and it is asked whether it holds. -/
  | notAComparison (symbol : String)
  /-- A variable that a constraint needs has no value. -/
  | missingValue
  /-- The settings name no known backend. -/
  | unlistedBackend (name : Value)
  /-- No backend has this name. -/
  | unknownBackend (name : Value)
  /-- The time limit is not positive. -/
  | timeLimitNotPositive (limit : Value)
  /-- There is no worker. -/
  | tooFewWorkers (workers : Value)
  /-- There is no setting of this name. -/
  | unknownSetting (name : String)
  /-- A setting cannot be compared with a number, or is no number where an engine needs one. -/
  | notComparable (value : Value)
  /-- A decimal that is no number cannot be compared with one, or an operation on decimals has no
  result. -/
  | undefinedDecimal
  /-- A setting is a text that writes no number. -/
  | notANumeral (value : Value)
  /-- An engine is asked to solve that cannot. -/
  | notImplemented
  /-- The package that an engine is from is not installed. -/
  | notInstalled (package source : String)
  /-- A gated row needs too large a constant. -/
  | bigM (sum : LinearForm) (rhs bound limit : Int)
  /-- A solve ended without a proven optimum. -/
  | notOptimal (status : Status) (names : List String)
  /-- A solve ended at its time limit. -/
  | timedOut (status : Status) (names : List String) (limit : Value)
  /-- An engine's values lie outside the bounds of these variables. -/
  | outOfBounds (vars : List Variable)
  /-- An engine's values violate these constraints. -/
  | violated (constraints : List Constraint)
  /-- A model document is malformed. -/
  | document (place : String) (problem : DocumentProblem)
  /-- A section of a model document holds nothing that could be listed. -/
  | notIterable
  /-- A whole number has more digits than can be read or written. -/
  | tooManyDigits
  /-- A value is nested too deeply to be read, written or compared. -/
  | tooDeep
  /-- A file cannot be used. -/
  | file (path : String) (problem : FileProblem)
  /-- There is no path where one is needed. -/
  | notAPath
  deriving Inhabited

/-- The families of faults. -/
inductive Fault.Kind where
  | configuration
  | notFound
  | arity
  | relation
  | infeasible
  | timeout
  | verification
  | notImplemented
  | badValue
  | badType
  | missingKey
  | missingMember
  | overflow
  | decimalOverflow
  | invalidOperation
  | zeroDivision
  | memory
  | noLoop
  | engine
  | recursion
  | noSuchPlace
  | noIndexLeft
  | file (problem : FileProblem)
  deriving DecidableEq, Inhabited, Repr

namespace DocumentProblem

/-- The wording, without the place. -/
def message : DocumentProblem → String
  | notAnObject => "top level must be an object"
  | noVariables => "at least one variable is required"
  | missing member => "missing '" ++ member ++ "'"
  | notInteger value => s!"expected an integer, got {value.literal}"
  | notAPair item => s!"expected [key, coefficient] pairs, got {item.literal}"
  | notTerms => "expected an object or a list of pairs"
  | unsupportedRelation value => s!"Relation {value.literal} cannot be enforced"
  | unknownSense => "objective.sense must be 'minimize' or 'maximize'"
  | notJson => "invalid JSON (...)"
  | notText => "not UTF-8 text (...)"

/-- What keeps the wording from being written. -/
def obstacle? : DocumentProblem → Option Obstacle
  | notInteger value | notAPair value | unsupportedRelation value => value.obstacle?
  | _ => none

end DocumentProblem

namespace FileProblem

/-- Whether the problem is one that the system reports. -/
def isReported : FileProblem → Bool
  | unwritableName | invalidName | tooManyLevels => false
  | _ => true

/-- The system's number and wording. -/
def message : FileProblem → String
  | missing => "[Errno 2] No such file or directory"
  | occupied => "[Errno 17] File exists"
  | notDirectory => "[Errno 20] Not a directory"
  | isDirectory => "[Errno 21] Is a directory"
  | nameTooLong => "[Errno 36] File name too long"
  | denied => "[Errno 13] Permission denied"
  | unwritableName => "unwritable name"
  | invalidName => "invalid name"
  | tooManyLevels => "too many levels"

end FileProblem

namespace Fault

/-- The family that a fault belongs to. -/
def kind : Fault → Kind
  | notInteger .. | unhashableKey .. | handleAsKey .. | invertedRange .. | alreadyBound ..
  | emptyDomain .. | foreignVariable .. | gateDomain .. | gateValue .. | indicatorDomain ..
  | unlistedBackend .. | unknownBackend .. | timeLimitNotPositive .. | tooFewWorkers ..
  | notInstalled .. | bigM .. | document .. => .configuration
  | unknownKey .. | foreignHandle .. => .notFound
  | sumArity .. | sideArity .. => .arity
  | unsupportedRelation .. | noComplement .. | unsupportedOperator .. => .relation
  | notOptimal .. => .infeasible
  | timedOut .. => .timeout
  | outOfBounds .. | violated .. => .verification
  | notImplemented => .notImplemented
  | unknownSense .. | notANumber | notANumeral .. | tooManyDigits | shapeMismatch => .badValue
  | unhashable | unknownSetting .. | notComparable .. | notIterable => .badType
  | missingValue => .missingKey
  | notAVariable value asked =>
    if value.isSequence then
      match asked with
      | .name => .missingMember
      | .place => .badType
      | .value => .missingKey
    else .missingMember
  | notAComparison .. | notAPath => .missingMember
  | numberTooLarge | notOfWidth .. => .overflow
  | decimalTooLarge => .decimalOverflow
  | undefinedDecimal => .invalidOperation
  | zeroDenominator => .zeroDivision
  | tooLong => .memory
  | machineAndText => .noLoop
  | notFinite _ => .engine
  | tooDeep => .recursion
  | noSuchPlace .. => .noSuchPlace
  | noIndexLeft => .noIndexLeft
  | file _ problem => .file problem

/-- Whether the family is one of those that modelling itself gives rise to. -/
def Kind.isModelFault : Kind → Bool
  | configuration | notFound | arity | relation | infeasible | timeout => true
  | _ => false

/-- The name of a side of an implication. -/
def sideText : Side → String
  | .predicate => "predicate"
  | .entailment => "entailment"

/-- A constraint and where it comes from. -/
def constraintText (c : Constraint) : String := c.text ++ " (" ++ c.description.shown ++ ")"

/-- Quoted texts in brackets. -/
def textList (texts : List String) : String := (Value.list (texts.map .text)).literal

/-- The wording where a solve ended with a given status. -/
def noOptimumText (status : String) (names : List String) : String :=
  s!"Solver status {status}: no optimal solution for variables " ++ "|".intercalate names

/-- The wording of a fault. -/
def message : Fault → String
  | notInteger what value => s!"{what} must be an integer, got {value.literal}"
  | numberTooLarge => "number too large"
  | notOfWidth n width => s!"{n} is no {Value.widthText width}"
  | notANumber => "not a number"
  | decimalTooLarge => "decimal too large"
  | zeroDenominator => "the denominator is zero"
  | tooLong => "too long to be held"
  | machineAndText => "a machine number cannot be added to a text"
  | shapeMismatch => "the shapes of two grids do not match"
  | notFinite value => s!"{value.literal} is not finite"
  | unhashableKey key => s!"Key {key.literal} is not hashable and cannot be bound"
  | handleAsKey handle => s!"Variable handle {handle.label} cannot be used as a caller key"
  | invertedRange lower upper description =>
    s!"Invalid range [{lower}, {upper}] for {description.literal}: minimum exceeds maximum"
  | alreadyBound made key => s!"Variable {made.label} is already bound to {key.literal}"
  | unknownKey key =>
    s!"Object {key.literal} is not known to the solver, try registering it with bind"
  | foreignHandle handle => s!"Variable {handle.label} does not belong to this solver"
  | notAVariable value _ => s!"{value.literal} is not a variable"
  | emptyDomain lower upper name =>
    s!"Invalid range [{lower.shown}, {upper.shown}] for {name.literal}"
  | noIndexLeft => "no index is left"
  | foreignVariable made => s!"Variable {made.label} does not belong to this model"
  | noSuchPlace index => s!"no variable at place {index}"
  | gateDomain indicator => s!"Gate indicator {indicator.label} must have domain [0, 1]"
  | gateValue value => s!"Gate must be active when indicator is 0 or 1, got {value.shown}"
  | indicatorDomain indicator => s!"Implication indicator {indicator.label} must have domain [0, 1]"
  | unknownSense value => s!"{value.literal} is not a valid ObjectiveSense"
  | sumArity vars coefficients context =>
    s!"Mismatch between size of expression variables {vars} "
      ++ s!"and coefficients {coefficients} for {context.shown}"
  | sideArity side coefficients vars description =>
    s!"Mismatch between size of {sideText side} coefficients {coefficients} "
      ++ s!"and variables {vars} for condition {description.shown}"
  | unsupportedRelation value => s!"Relation {value.literal} cannot be enforced"
  | noComplement value => s!"Relation {value.literal} has no complement"
  | unhashable => "value is not hashable"
  | unsupportedOperator symbol => s!"Comparison {Text.quote symbol} cannot be enforced"
  | notAComparison symbol => s!"{Text.quote symbol} is not a comparison"
  | missingValue => "a variable has no value"
  | unlistedBackend name =>
    s!"Unknown backend {name.literal}, expected one of " ++ "('cp_sat', 'cbc')"
  | unknownBackend name => s!"Unknown backend {name.literal}"
  | timeLimitNotPositive limit => s!"time_limit_s must be positive, got {limit.shown}"
  | tooFewWorkers workers => s!"num_workers must be at least 1, got {workers.shown}"
  | unknownSetting name => s!"unknown setting {name}"
  | notComparable value => s!"{value.literal} is not a number"
  | undefinedDecimal => "a decimal is not a number"
  | notANumeral value => s!"{value.literal} writes no number"
  | notImplemented => ""
  | notInstalled package source =>
    s!"{package} is not installed. Run `python3 -m pip install {source}` first."
  | bigM sum rhs bound limit =>
    s!"Gated row on {sum.text} against {rhs} needs a big-M of {bound}, above the CBC limit of "
      ++ s!"{limit}; tighten the variable bounds or use the cp_sat backend"
  | notOptimal status names => noOptimumText status.name names
  | timedOut status names limit =>
    s!"Time limit of {limit.shown}s reached with status {status.name} for variables "
      ++ "|".intercalate names
  | outOfBounds vars =>
    "Solution violates variable bounds of: " ++ textList (vars.map Variable.label)
  | violated constraints =>
    s!"Solution violates {constraints.length} constraint(s): "
      ++ textList (constraints.map constraintText)
  | document place problem => s!"{place}: {problem.message}"
  | notIterable => "value cannot be listed"
  | tooManyDigits => "whole number with too many digits"
  | tooDeep => "value nested too deeply"
  | file path problem => s!"{problem.message}: {Text.quote path}"
  | notAPath => "no path is given"

/-- What keeps the message from being written. The sum and the constraints in a message are not
looked at here, since they are shown before. -/
def obstacle? : Fault → Option Obstacle
  | notInteger _ value | unhashableKey value | unknownKey value | gateValue value
  | unknownSense value | sumArity _ _ value | sideArity _ _ _ value | unsupportedRelation value
  | noComplement value | unlistedBackend value | unknownBackend value | timeLimitNotPositive value
  | tooFewWorkers value | timedOut _ _ value => value.obstacle?
  | handleAsKey v | foreignHandle v | foreignVariable v | gateDomain v | indicatorDomain v =>
    v.obstacle?
  | invertedRange lower upper description =>
    Obstacle.ofInt? lower <|> Obstacle.ofInt? upper <|> description.obstacle?
  | alreadyBound made key => made.obstacle? <|> key.obstacle?
  | emptyDomain lower upper name => lower.obstacle? <|> upper.obstacle? <|> name.obstacle?
  | bigM _ rhs bound _ => Obstacle.ofInt? rhs <|> Obstacle.ofInt? bound
  | outOfBounds vars => vars.findSome? Variable.obstacle?
  | document _ problem => problem.obstacle?
  | _ => none

end Fault

namespace Obstacle

/-- The fault of what cannot be written. -/
def fault : Obstacle → Fault
  | tooManyDigits => .tooManyDigits
  | tooDeep => .tooDeep

/-- Checks that nothing is in the way. -/
def requireNone : Option Obstacle → Except Fault Unit
  | none => pure ()
  | some o => throw o.fault

@[simp] theorem requireNone_none : requireNone none = .ok () := rfl

@[simp] theorem requireNone_some (o : Obstacle) : requireNone (some o) = .error o.fault := rfl

theorem requireNone_eq_ok {o? : Option Obstacle} :
    requireNone o? = .ok () ↔ o? = Option.none := by
  cases o? <;> simp

end Obstacle

/-- The fault that comes about: that the message cannot be written, if it cannot. -/
def Fault.raised (f : Fault) : Fault := (f.obstacle?.map Obstacle.fault).getD f

theorem Fault.raised_of_none {f : Fault} (writable : f.obstacle? = none) : f.raised = f := by
  rw [raised, writable]
  rfl

theorem Fault.raised_of_some {f : Fault} {o : Obstacle} (unwritable : f.obstacle? = some o) :
    f.raised = o.fault := by
  rw [raised, unwritable]
  rfl

/-- Checks that a value can be written. -/
def Value.requireText (value : Value) : Except Fault Unit := Obstacle.requireNone value.obstacle?

theorem Value.requireText_eq_ok {value : Value} :
    value.requireText = .ok () ↔ value.obstacle? = Option.none :=
  Obstacle.requireNone_eq_ok

@[simp] theorem Value.requireText_text (s : String) : (text s).requireText = .ok () := by
  simp [requireText]

end IntegerProgram
