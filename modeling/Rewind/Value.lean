import Rewind.Cursor
import Rewind.Number.Layout
import Rewind.Text.Quoted

namespace Rewind

/-- The identity of a function, which distinguishes it from functions that look the same. -/
inductive Identity where
  /-- The function came from the definition that was executed as number `n`. -/
  | made (n : Nat)
  /-- The function was handed in from outside, as number `n`. -/
  | given (n : Nat)
deriving DecidableEq, Repr

/-- A function of the language. It does not own its body: `body` is a position in
    the token buffer of the source that defined it, where the body's list should
    begin. -/
structure Function where
  id : Identity
  name : String
  params : List String
  body : Cursor
deriving DecidableEq, Repr

/-- A way out of the language, to the host with this number. `name` is the
    language that the host runs. -/
structure Native where
  id : Nat
  name : String
deriving DecidableEq, Repr

/-- What an expression evaluates to. -/
inductive Value where
  | number (x : Float)
  | string (text : String)
  | function (f : Function)
  | native (host : Native)
  /-- The result of definitions, assignments and loops that never ran. -/
  | nil

namespace Value

/-- The word for the sort of a value. -/
def typeName : Value → String
  | number _ => "number"
  | string _ => "string"
  | function _ => "function"
  | native _ => "native"
  | nil => "nil"

/-- Zeros, NaNs, the empty string and nil count as false, all else as true. -/
def truthy : Value → Bool
  | number x => !(Number.isZero x || Number.isNaN x)
  | string text => !text.isEmpty
  | function _ => true
  | native _ => true
  | nil => false

/-- Whether the value can be called. -/
def callable : Value → Bool
  | function _ => true
  | native _ => true
  | _ => false

/-- Numbers print with the fewest digits that read back, the even one of two
    equally near. Leading digits from the fifth place after the point to the
    sixteenth before it need no power of ten. -/
def numberLayout : Number.Layout where
  tie := .toEven
  least := -5
  greatest := 15
  wholePoint := false
  signedZero := false

/-- The value as running text, which is also what joining strings uses. -/
def text : Value → String
  | number x => numberLayout.write x
  | string text => text
  | function f => "fn " ++ f.name ++ "(" ++ ", ".intercalate f.params ++ ")"
  | native host => "native function " ++ host.name
  | nil => "nil"

/-- The value the way it is spelled in a program: a string between quotes. -/
def code : Value → String
  | string text => "\"" ++ text ++ "\""
  | value => value.text

/-- Inside a dump, a number always shows that it has a fraction or a power of
    ten, and the sign of zero. -/
def dumpLayout : Number.Layout where
  tie := .up
  least := -4
  greatest := 15
  wholePoint := true
  signedZero := true

/-- The value with its constructor, for a reader who wants every detail. -/
def dump : Value → String
  | number x => "Number(" ++ dumpLayout.write x ++ ")"
  | string text => "String(" ++ Text.quoted text ++ ")"
  | function f =>
    "Function(Function \x7b name: " ++ Text.quoted f.name ++ ", parameters: " ++ Text.quotedList f.params
      ++ ", body_start: " ++ toString f.body.pos ++ " \x7d)"
  | native host => "Native(" ++ Text.quoted host.name ++ ")"
  | nil => "Nil"

/-- Whether two values are equal. Functions and natives equal only themselves,
    and numbers compare as numbers: a NaN differs from itself and zeros of either
    sign are one. -/
def same : Value → Value → Bool
  | number x, number y => x == y
  | string a, string b => a == b
  | function f, function g => f.id == g.id
  | native h, native k => h.id == k.id
  | nil, nil => true
  | _, _ => false

end Value

end Rewind
