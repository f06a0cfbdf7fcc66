import Rewind.Value

namespace Rewind

/-- What the grammar asks for at the cursor. -/
inductive Wanted where
  | expression
  | punct (lexeme : String)
  | kind (kind : Token.Kind)
  | phrase (text : String)

/-- The words for what is wanted. -/
def Wanted.text : Wanted → String
  | expression => "an expression"
  | punct lexeme => "`" ++ lexeme ++ "`"
  | kind k => k.word
  | phrase text => text

/-- Why a run stopped. -/
inductive Cause where
  /-- Another token, or the end, stands where the grammar requires something else. -/
  | expected (wanted : Wanted) (found : Option Token)
  /-- A name that was never bound. -/
  | unbound (name : String)
  /-- A call of a name that is bound to neither a function nor a native. -/
  | notCallable (name : String) (value : Value)
  /-- An empty list where a value is needed. -/
  | emptyList
  /-- An operator on operands that it is not defined on. -/
  | operands (operator : Token) (left right : Value)
  /-- More nested calls than the limit allows. -/
  | callDepth (limit : Nat)
  /-- More nested expressions than the limit allows. -/
  | nestingDepth (limit : Nat)
  /-- A call of a native without a string to run. -/
  | hostCode (name host : String)
  /-- A failure that comes with its own words, such as a host's. -/
  | other (text : String)

/-- A value with the word for its sort, as diagnostics show it. -/
def Value.described (value : Value) : String := "`" ++ value.typeName ++ "` (" ++ value.code ++ ")"

/-- The words of a diagnostic. -/
def Cause.message : Cause → String
  | expected wanted (some token) => "expected " ++ wanted.text ++ ", got `" ++ token.text ++ "`"
  | expected wanted none => "expected " ++ wanted.text ++ ", got EOF"
  | unbound name => "identifier '" ++ name ++ "' not found"
  | notCallable name value => "`" ++ name ++ "` is not callable: it is bound to " ++ value.described
  | emptyList => "an empty list has no value"
  | operands operator left right =>
    "unsupported operand type(s) for " ++ operator.text ++ " operator: " ++ left.described ++ " and "
      ++ right.described
  | callDepth limit => "maximum call depth of " ++ toString limit ++ " exceeded"
  | nestingDepth limit => "maximum nesting depth of " ++ toString limit ++ " exceeded"
  | hostCode name host => "`" ++ name ++ "` expects a string of " ++ host ++ " code"
  | other text => text

/-- The failure of a run, and the token it is about, if there is one. -/
structure Error where
  cause : Cause
  span : Option Span

namespace Error

/-- A failure at a place. -/
def atSpan (span : Span) (cause : Cause) : Error := ⟨cause, some span⟩

/-- The failure to find what the grammar wants. It points at the token that was
    found instead. -/
def expected (wanted : Wanted) (found : Option Located) : Error :=
  ⟨.expected wanted (found.map (·.token)), found.map (·.span)⟩

/-- The failure of an operator, at the operator. -/
def operands (operator : Located) (left right : Value) : Error :=
  .atSpan operator.span (.operands operator.token left right)

/-- The diagnostic: the words, then the place. -/
def message (error : Error) : String :=
  match error.span with
  | some span => error.cause.message ++ " " ++ span.mention
  | none => error.cause.message

/-- The text of `source` that the failure points at. -/
def near? (error : Error) (source : String) : Option String :=
  error.span.bind (·.slice? source)

end Error

end Rewind
