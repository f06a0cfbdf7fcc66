import Rewind.Host
import Rewind.Number.Numeral
import Rewind.Proofs.Tree

namespace Rewind

/-- A function that owns its body. -/
structure TreeFunction where
  id : Identity
  name : String
  params : List String
  body : List Tree

/-- What a tree evaluates to. -/
inductive TreeValue where
  | number (x : Float)
  | string (text : String)
  | function (f : TreeFunction)
  | native (host : Native)
  | nil

namespace TreeValue

/-- Whether the value counts as true. -/
def truthy : TreeValue → Bool
  | number x => !(Number.isZero x || Number.isNaN x)
  | string text => !text.isEmpty
  | function _ => true
  | native _ => true
  | nil => false

/-- The value as running text. -/
def text : TreeValue → String
  | number x => Value.numberLayout.write x
  | string text => text
  | function f => "fn " ++ f.name ++ "(" ++ ", ".intercalate f.params ++ ")"
  | native host => "native function " ++ host.name
  | nil => "nil"

/-- The name of the type of a value. -/
def typeName : TreeValue → String
  | number _ => "number"
  | string _ => "string"
  | function _ => "function"
  | native _ => "native"
  | nil => "nil"

/-- The value the way it is spelled in a program: a string between quotes. -/
def code : TreeValue → String
  | string text => "\"" ++ text ++ "\""
  | value => value.text

/-- The value the way a failure mentions it. -/
def described (value : TreeValue) : String := "`" ++ value.typeName ++ "` (" ++ value.code ++ ")"

/-- Numbers take every operator, and `+` joins texts when either side is a
    string. -/
def operate? (operator : String) : TreeValue → TreeValue → Option TreeValue
  | number x, number y => (Value.arithmetic? operator x y).map number
  | string a, right => if operator == "+" then some (string (a ++ right.text)) else none
  | left, string b => if operator == "+" then some (string (left.text ++ b)) else none
  | _, _ => none

/-- The answer of a host. Hosts do not answer with functions. -/
def ofAnswer : Value → TreeValue
  | .number x => number x
  | .string text => string text
  | .native host => native host
  | .nil => nil
  | .function _ => nil

end TreeValue

/-- What evaluating trees changes. -/
structure TreeState where
  env : String → Option TreeValue
  made : Nat
  calls : Array HostCall

namespace TreeState

def bind (state : TreeState) (name : String) (value : TreeValue) : TreeState :=
  { state with env := fun other => if other = name then some value else state.env other }

/-- Missing arguments are nil, and those without a parameter are ignored. -/
def bindAll (state : TreeState) : (params : List String) → (arguments : List TreeValue) → TreeState
  | [], _ => state
  | param :: params, [] => (state.bind param .nil).bindAll params []
  | param :: params, value :: arguments => (state.bind param value).bindAll params arguments

end TreeState

/-- How evaluating a tree ends. -/
inductive TreeOutcome (α : Type) where
  | done (result : α) (state : TreeState)
  | failed (message : String) (span : Span) (state : TreeState)
  /-- A loop ran out of patience, or calls went deeper than was asked for. -/
  | unfinished

/-- A computation over trees. -/
def TreeEval (α : Type) : Type := TreeState → TreeOutcome α

namespace TreeEval

protected def pure {α : Type} (a : α) : TreeEval α := fun state => .done a state

protected def bind {α β : Type} (x : TreeEval α) (f : α → TreeEval β) : TreeEval β := fun state =>
  match x state with
  | .done a state => f a state
  | .failed message span state => .failed message span state
  | .unfinished => .unfinished

instance : Monad TreeEval where
  pure := TreeEval.pure
  bind := TreeEval.bind

theorem bind_apply {α β : Type} (x : TreeEval α) (f : α → TreeEval β) (state : TreeState) :
    (x >>= f) state = match x state with
      | .done a state => f a state
      | .failed message span state => .failed message span state
      | .unfinished => .unfinished := rfl

def fail {α : Type} (message : String) (span : Span) : TreeEval α := fun state => .failed message span state

def update (change : TreeState → TreeState) : TreeEval Unit := fun state => .done () (change state)

def lookup (name : String) (span : Span) : TreeEval TreeValue := fun state =>
  match state.env name with
  | some value => .done value state
  | none => .failed ("identifier '" ++ name ++ "' not found") span state

/-- Applies an operator to operands that have been evaluated. -/
def combine (operator : Located) (left right : TreeValue) : TreeEval TreeValue :=
  match TreeValue.operate? operator.token.lexeme left right with
  | some value => pure value
  | none => fail ("unsupported operand type(s) for " ++ operator.token.text ++ " operator: " ++ left.described
      ++ " and " ++ right.described) operator.span

/-- Hands code to the host, whose answer may depend on what it was handed before. -/
def consult (hosts : Hosts) (name : String) (host : Native) (arguments : List TreeValue) (span : Span) :
    TreeEval TreeValue :=
  match arguments with
  | .string code :: _ => fun state =>
    let earlier := (state.calls.toList.filter (·.native == host)).map (·.code)
    let state' := { state with calls := state.calls.push ⟨host, code⟩ }
    match (hosts host).answer earlier code with
    | .ok value => .done (.ofAnswer value) state'
    | .error text => .failed text span state'
  | _ => fail ("`" ++ name ++ "` expects a string of " ++ host.name ++ " code") span

/-- The rounds of a loop: the test, and while it holds the body, whose last value is
    that of the loop. -/
def rounds (test : TreeEval TreeValue) (body : TreeEval TreeValue) :
    (patience : Nat) → (last : TreeValue) → TreeEval TreeValue
  | 0, _ => fun _ => .unfinished
  | patience + 1, last => do
    if (← test).truthy then rounds test body patience (← body) else pure last

end TreeEval

open TreeEval

/-- The last of some values, or a default. -/
def lastOr (default : TreeValue) (values : List TreeValue) : TreeValue := values.getLast?.getD default

mutual

/-- Evaluates a tree. `invoke` is what calling a function does. -/
def Tree.eval (hosts : Hosts) (patience : Nat) (invoke : TreeFunction → List TreeValue → TreeEval TreeValue) :
    Tree → TreeEval TreeValue
  | .number lexeme => pure (.number (Number.ofNumeral lexeme))
  | .string text => pure (.string text)
  | .name label span => lookup label span
  | .binary operator left right => do
    let left ← left.eval hosts patience invoke
    let right ← right.eval hosts patience invoke
    combine operator left right
  | .call label span arguments => do
    match ← lookup label span with
    | .function f => invoke f (← Tree.evalAll hosts patience invoke arguments)
    | .native host => consult hosts label host (← Tree.evalAll hosts patience invoke arguments) span
    | value => fail ("`" ++ label ++ "` is not callable: it is bound to " ++ value.described) span
  | .cond test yes no => do
    if (← test.eval hosts patience invoke).truthy then
      return lastOr (.number 0) (← Tree.evalAll hosts patience invoke yes)
    else return lastOr (.number 0) (← Tree.evalAll hosts patience invoke no)
  | .forLoop first test step body => do
    let _ ← first.eval hosts patience invoke
    let round := do
      let _ ← step.eval hosts patience invoke
      return lastOr .nil (← Tree.evalAll hosts patience invoke body)
    rounds (test.eval hosts patience invoke) round patience .nil
  | .whileLoop test body => do
    let round := do return lastOr .nil (← Tree.evalAll hosts patience invoke body)
    rounds (test.eval hosts patience invoke) round patience .nil
  | .define label params body => do
    update fun state =>
      { state with made := state.made + 1 }.bind label (.function ⟨.made state.made, label, params, body⟩)
    pure .nil
  | .assign label value => do
    let value ← value.eval hosts patience invoke
    update (·.bind label value)
    pure .nil
  | .group span elements => do
    match (← Tree.evalAll hosts patience invoke elements).getLast? with
    | some value => pure value
    | none => fail "an empty list has no value" span

/-- Evaluates trees in order. -/
def Tree.evalAll (hosts : Hosts) (patience : Nat) (invoke : TreeFunction → List TreeValue → TreeEval TreeValue) :
    List Tree → TreeEval (List TreeValue)
  | [] => pure []
  | tree :: trees => do
    let value ← tree.eval hosts patience invoke
    let values ← Tree.evalAll hosts patience invoke trees
    pure (value :: values)

end

/-- Calls a function: binds its parameters, evaluates its body, and yields the last
    value. At most `calls` calls are active at once. -/
def TreeFunction.invoke (hosts : Hosts) (patience : Nat) :
    (calls : Nat) → TreeFunction → List TreeValue → TreeEval TreeValue
  | 0, _, _ => fun _ => .unfinished
  | calls + 1, f, arguments => do
    update (·.bindAll f.params arguments)
    return lastOr .nil (← Tree.evalAll hosts patience (TreeFunction.invoke hosts patience calls) f.body)

/-- Evaluates a program to its last value. -/
def Tree.run (hosts : Hosts) (patience calls : Nat) (trees : List Tree) : TreeEval TreeValue := do
  return lastOr .nil (← Tree.evalAll hosts patience (TreeFunction.invoke hosts patience calls) trees)

end Rewind
