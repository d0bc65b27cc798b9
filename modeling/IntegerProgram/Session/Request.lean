import IntegerProgram.Session

/-!
# Requests

A request is a call by which a caller builds up a session. Requests as data make histories of calls
possible: a history is performed by performing its requests in order, up to the first that fails.

## Main definitions

* `Request`: a call with its arguments.
* `Request.perform`: the call.
* `Request.performAll`: a history.
-/
namespace IntegerProgram

/-- A call that adds to a session. -/
inductive Request where
  | bind (key minimum maximum description : Value)
  | enforceValue (key value : Value)
  | enforce (keys coefficients : List Value) (value relation description : Value)
  | ifThen (predicate entailment : ConditionRequest) (description : Value)
  deriving Inhabited

namespace Request

/-- Makes the call. Only an implication returns something that the session does not already list:
its holder. -/
def perform : Request → Attempt Session (Option Value)
  | bind key minimum maximum description => do
    let _ ← Session.bind key minimum maximum description
    return none
  | enforceValue key value => do
    let _ ← Session.enforceValue key value
    return none
  | enforce keys coefficients value relation description => do
    let _ ← Session.enforce keys coefficients value relation description
    return none
  | ifThen predicate entailment description => do
    let holder ← Session.ifThen predicate entailment description
    return some holder

/-- Makes calls in order and returns the holders of the implications. -/
def performAll (requests : List Request) : Attempt Session (List Value) := do
  let holders ← requests.mapM perform
  return holders.filterMap id

end Request

end IntegerProgram
