namespace Rewind.Shell

/-- What is done with the value of a parameter. -/
inductive Use where
  | value
  | length
  /-- Another word when the parameter is not set. -/
  | orElse
  /-- The same, and the parameter is set to it. -/
  | orAssign
  /-- A failure when the parameter is not set. -/
  | orFail
  /-- Another word when the parameter is set. -/
  | ifSet
  /-- The value without a match of a pattern at its start or end, the shortest
      or the longest one. -/
  | dropHead (longest : Bool)
  | dropTail (longest : Bool)
deriving DecidableEq

/-- Where a redirection leads. -/
inductive Direction where
  | input
  | output
  | append
  | both
  /-- To what another descriptor leads to. -/
  | copy
  /-- From text that stands in the script. -/
  | here
deriving DecidableEq

mutual

/-- A piece of a word. Text that is quoted is neither split into fields nor read
    as a pattern. -/
inductive Part where
  | text (text : String) (quoted : Bool)
  /-- With `nullCounts`, an empty value counts as one that is not set. -/
  | param (name : String) (use : Use) (nullCounts : Bool) (word : List Part) (quoted : Bool)
  /-- What a command prints. -/
  | output (body : Command) (quoted : Bool)
  | arithmetic (expression : List Part) (quoted : Bool)

/-- A change of what a descriptor leads to. -/
inductive Redirect where
  | mk (descriptor : Nat) (direction : Direction) (target : List Part)

/-- A command. -/
inductive Command where
  | nothing
  | simple (line : Nat) (assignments : List (String × List Part)) (words : List (List Part))
      (redirects : List Redirect)
  | redirected (line : Nat) (body : Command) (redirects : List Redirect)
  | pipeline (negated : Bool) (stages : List Command)
  | both (left right : Command)
  | either (left right : Command)
  | sequence (left right : Command)
  | background (body : Command)
  | subshell (body : Command)
  | cond (test yes no : Command)
  | loop (stopsWhenTrue : Bool) (test body : Command)
  | each (name : String) (words : Option (List (List Part))) (body : Command)
  | choose (word : List Part) (branches : List (List (List Part) × Command))
  | define (name : String) (body : Command)

end

end Rewind.Shell
