import Rewind.Env

namespace Rewind

/-- How deep a run may go before it is cut off. -/
structure Limits where
  /-- The most calls that may be active at once. -/
  calls : Nat := 1000
  /-- The deepest nesting of expressions, counted on through the bodies of called
      functions. -/
  nesting : Nat := 5000
deriving DecidableEq, Repr

/-- The settings of an interpreter. By default there is no way out of the
    language. -/
structure Config where
  /-- The way out, if programs get one. -/
  host : Option Native := none
  /-- The name that the way out is bound to. -/
  hostBinding : String := "sh_raw"
  limits : Limits := {}

end Rewind
