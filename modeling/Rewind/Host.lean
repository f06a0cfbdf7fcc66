import Rewind.Value

namespace Rewind

/-- Code that a native was given to run. -/
structure HostCall where
  native : Native
  code : String
deriving DecidableEq, Repr

/-- What stands behind a native. Its answer, a value or the words of a failure,
    may depend on the code that it was given before. -/
structure Host where
  answer : (earlier : List String) → (code : String) → Except String Value
  /-- Whether the log records each call. -/
  logged : Bool := false

/-- The host behind each native. -/
abbrev Hosts := Native → Host

namespace Host

/-- Answers with what a table says of the code, and with the code itself when
    the table does not mention it. -/
def table (entries : List (String × Except String Value)) : Host where
  answer _ code := (entries.lookup code).getD (.ok (.string code))

/-- Answers every code with itself. -/
def echo : Host := table []

end Host

end Rewind
