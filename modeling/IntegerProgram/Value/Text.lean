import IntegerProgram.Number.Decimal.Arithmetic
import IntegerProgram.Text.Quoted
import IntegerProgram.Value.Basic

/-!
# The text of a value

A value has two texts. Its *literal* tells the type and the extent of the value, so texts are
quoted in it; a message uses it for what was passed in error. Its *shown* text is for a reader, and
is the text itself where the value is one. Inside a list, a tuple or a dictionary everything is
written as a literal.

Neither text can be written where an integer has too many digits or the parts of the value are
nested too deeply. The places of variables and the numbers of implications count what has been made,
and so always have few digits.

## Main definitions

* `Value.literal`, `Value.shown`: the two texts.
* `Value.obstacle?`: what keeps either of them from being written.
-/
namespace IntegerProgram.Value

/-- A part of a complex number, without a fraction if that is zero. -/
def partText (x : Binary64) : String :=
  let s := x.text
  if s.endsWith ".0" then (s.dropEnd 2).toString else s

/-- A complex number: its imaginary part alone if the real one is a positive zero. -/
def complexText (re im : Binary64) : String :=
  let s := partText im
  if re = Binary64.zero false then s ++ "j"
  else
    let sign := if s.startsWith "-" then "" else "+"
    "(" ++ partText re ++ sign ++ s ++ "j)"

/-- A fraction in its lowest terms. -/
def ratioText (q : Rat) : String := if q.den = 1 then toString q.num else s!"{q.num}/{q.den}"

/-- The name of a kind of machine integers. -/
def widthText (width : IntegerWidth) : String :=
  (if width.isSigned then "int" else "uint") ++ toString width.bits

/-- A real machine number with its type. One of extended precision is quoted. -/
def realText (x : MachineReal) : RealType → String
  | .half => "np.float16(" ++ x.text ++ ")"
  | .single => "np.float32(" ++ x.text ++ ")"
  | .extended => "np.longdouble('" ++ x.text ++ "')"

/-- A decision variable with its fields. -/
def variableText (v : Variable) : String :=
  let d := v.declaration
  s!"DecisionVariable(index={v.index}, name={d.name.literal}, lower={d.lower.literal}, "
    ++ s!"upper={d.upper.literal})"

mutual

/-- The text that tells the type and the extent of a value. -/
def literal : Value → String
  | none => "None"
  | bool b => Datum.truthText b
  | int n => toString n
  | float x => x.text
  | fraction q => s!"Fraction({q.num}, {q.den})"
  | decimal d => "Decimal('" ++ d.text ++ "')"
  | complex re im => complexText re im
  | machineInt width n => "np." ++ widthText width ++ "(" ++ toString n ++ ")"
  | machineFloat x => "np.float64(" ++ x.text ++ ")"
  | machineReal type x => realText x type
  | machineComplex re im => "np.complex128(" ++ complexText re im ++ ")"
  | machineBool b => "np." ++ Datum.truthText b ++ "_"
  | text s => Text.quote s
  | relation r => s!"<Relation.{r.name}: '{r.name}'>"
  | comparison c => s!"<Comparison.{c.name}: '{c.symbol}'>"
  | list items => "[" ++ ", ".intercalate (literals items) ++ "]"
  | tuple [item] => "(" ++ item.literal ++ ",)"
  | tuple items => "(" ++ ", ".intercalate (literals items) ++ ")"
  | dictionary entries => "\x7b" ++ ", ".intercalate (entryLiterals entries) ++ "\x7d"
  | object name => "<" ++ name ++ ">"
  | handle v => variableText v
  | holder id description =>
    s!"ConditionHolder(condition_id={id}, description=" ++ description.literal ++ ")"

/-- The literals of the members of a sequence. -/
def literals : List Value → List String
  | [] => []
  | v :: rest => v.literal :: literals rest

/-- The literals of the entries of a dictionary. -/
def entryLiterals : List (Value × Value) → List String
  | [] => []
  | (key, v) :: rest => (key.literal ++ ": " ++ v.literal) :: entryLiterals rest

end

/-- The text of a value for a reader. -/
def shown : Value → String
  | text s => s
  | fraction q => ratioText q
  | decimal d => d.text
  | machineInt _ n => toString n
  | machineFloat x => x.text
  | machineReal _ x => x.text
  | machineComplex re im => complexText re im
  | machineBool b => Datum.truthText b
  | relation r => r.name
  | comparison c => c.symbol
  | handle v => v.label
  | value => value.literal

mutual

/-- What keeps a value from being written where so many levels are left. -/
def obstacleAt : Nat → Value → Option Obstacle
  | _, int n => Obstacle.ofInt? n
  | _, fraction q => Obstacle.ofRat? q
  | levels, handle v => v.obstacleAt levels
  | 0, list _ | 0, tuple _ | 0, dictionary _ | 0, holder .. => some .tooDeep
  | levels + 1, list items | levels + 1, tuple items => itemsObstacleAt levels items
  | levels + 1, dictionary entries => entriesObstacleAt levels entries
  | levels + 1, holder _ description => description.obstacleAt levels
  | _, _ => Option.none

/-- What keeps the members of a sequence from being written. -/
def itemsObstacleAt : Nat → List Value → Option Obstacle
  | _, [] => Option.none
  | levels, v :: rest => v.obstacleAt levels <|> itemsObstacleAt levels rest

/-- What keeps the entries of a dictionary from being written. -/
def entriesObstacleAt : Nat → List (Value × Value) → Option Obstacle
  | _, [] => Option.none
  | levels, (key, v) :: rest =>
    key.obstacleAt levels <|> v.obstacleAt levels <|> entriesObstacleAt levels rest

end

/-- What keeps a value from being written. -/
def obstacle? (value : Value) : Option Obstacle := value.obstacleAt Obstacle.maxLevels

/-- Whether the value is a number below zero. -/
def isNegative : Value → Bool
  | int n | machineInt _ n => n < 0
  | float x | machineFloat x => x.isNegative && x.toRat? ≠ some 0
  | machineReal _ x => x.text.startsWith "-" && x.toRat? ≠ some 0
  | fraction q => q < 0
  | decimal d => d.isNegative && !d.isZero
  | _ => false

/-- The text of a number without its sign. A truth value counts as zero or one, a machine integer
may have no opposite, and a decimal is rounded to the working precision. -/
def sizeText : Value → String
  | bool b => if b then "1" else "0"
  | int n => toString n.natAbs
  | machineInt width n => toString (width.wrap n.natAbs)
  | float x | machineFloat x => x.abs.text
  | machineReal _ x => (x.text.dropWhile (· = '-')).toString
  | fraction q => ratioText (if q < 0 then -q else q)
  | decimal d => (d.abs.toOption.getD d).text
  | value => value.shown

/-- The name of a key in a result. An implication is named by its number. -/
def keyText : Value → String
  | holder id _ => s!"condition#{id}"
  | value => value.shown

/-- What keeps the name of a key from being written. -/
def keyObstacle? : Value → Option Obstacle
  | holder .. => Option.none
  | value => value.obstacle?

@[simp] theorem obstacle?_text (s : String) : (text s).obstacle? = Option.none := by
  simp [obstacle?, obstacleAt]

@[simp] theorem obstacle?_int (n : Int) : (int n).obstacle? = Obstacle.ofInt? n := by
  simp [obstacle?, obstacleAt]

end IntegerProgram.Value
