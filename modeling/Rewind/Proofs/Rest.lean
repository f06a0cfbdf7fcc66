import Rewind.Proofs.Comparison.Forms
import Rewind.Proofs.Step

namespace Rewind

/-- The tokens from a position on, as a buffer of their own. -/
def restFrom (tokens : Array Located) (offset : Nat) : Array Located := tokens.extract offset tokens.size

@[simp]
theorem size_restFrom (tokens : Array Located) (offset : Nat) :
    (restFrom tokens offset).size = tokens.size - offset := by
  simp [restFrom]

@[simp]
theorem getElem?_restFrom (tokens : Array Located) (offset pos : Nat) :
    (restFrom tokens offset)[pos]? = tokens[offset + pos]? := by
  unfold restFrom
  rw [Array.getElem?_extract]
  split
  · rfl
  · rw [Array.getElem?_eq_none (by omega)]

theorem restFrom_zero (tokens : Array Located) : restFrom tokens 0 = tokens := by
  simp [restFrom]

/-- Two cursors with the same tokens before them: the second buffer is the rest of
    the first one from some position on. -/
def Cursor.Rest (left right : Cursor) : Prop :=
  ∃ offset ≤ left.tokens.size, right.tokens = restFrom left.tokens offset ∧ left.pos = offset + right.pos

private theorem Cursor.Rest.refl (cursor : Cursor) : cursor.Rest cursor :=
  ⟨0, Nat.zero_le _, (restFrom_zero _).symm, (Nat.zero_add _).symm⟩

/-- The places where the body of a called function may begin. Those inside of
    their buffer are among them. -/
structure Landings where
  allowed : Cursor → Bool
  inside : ∀ cursor : Cursor, cursor.pos ≤ cursor.tokens.size → allowed cursor = true

namespace Landings

/-- Any place at all. -/
def anywhere : Landings where
  allowed _ := true
  inside _ _ := rfl

/-- The places inside of their buffer, its end included. -/
def insideBuffer : Landings where
  allowed cursor := cursor.pos ≤ cursor.tokens.size
  inside _ hinside := decide_eq_true hinside

end Landings

variable {landings : Landings}

/-- The same value, but for functions, whose bodies may be read from the rest of
    the buffer they were read from. On the left they begin where they may. -/
inductive Value.Rest (landings : Landings) : Value → Value → Prop where
  | function {f g : Function} (hid : f.id = g.id) (hname : f.name = g.name)
    (hparams : f.params = g.params) (hbody : f.body.Rest g.body)
    (hallowed : landings.allowed f.body = true) : Rest landings (.function f) (.function g)
  | plain {v : Value} (hplain : ∀ f, v ≠ .function f) : Rest landings v v

namespace Value.Rest

variable {v w l l' r r' : Value}

private theorem text (hrest : Value.Rest landings v w) : v.text = w.text := by
  cases hrest with
  | function _ hname hparams =>
    dsimp only [Value.text]
    rw [hname, hparams]
  | plain => rfl

private theorem code (hrest : Value.Rest landings v w) : v.code = w.code := by
  cases hrest with
  | function hid hname hparams hbody hallowed => exact (Value.Rest.function hid hname hparams hbody hallowed).text
  | plain => rfl

private theorem described (hrest : Value.Rest landings v w) : v.described = w.described := by
  have hcode := hrest.code
  cases hrest with
  | function =>
    dsimp only [Value.described]
    rw [hcode]
    rfl
  | plain => rfl

theorem truthy (hrest : Value.Rest landings v w) : v.truthy = w.truthy := by
  cases hrest <;> rfl

/-- Where bodies may begin anywhere, nothing is asked of a value. -/
theorem anywhere (v : Value) : Value.Rest .anywhere v v := by
  cases v with
  | function f => exact .function rfl rfl rfl (.refl f.body) rfl
  | number x => exact .plain nofun
  | string text => exact .plain nofun
  | native host => exact .plain nofun
  | nil => exact .plain nofun

theorem number (x : Float) : Value.Rest landings (.number x) (.number x) := .plain nofun

theorem string (text : String) : Value.Rest landings (.string text) (.string text) := .plain nofun

theorem nil : Value.Rest landings .nil .nil := .plain nofun

/-- Joining texts gives the same on both sides. -/
private theorem join {operator a b : String} (hjoined : a = b) :
    Option.Rel (Value.Rest landings) (if operator == "+" then some (.string a) else none)
      (if operator == "+" then some (.string b) else none) := by
  subst hjoined
  split
  · exact .some (.string a)
  · exact .none

/-- No operator yields a function, and none looks into one. -/
theorem operate? (operator : String) (hleft : Value.Rest landings l l') (hright : Value.Rest landings r r') :
    Option.Rel (Value.Rest landings) (operate? operator l r) (operate? operator l' r') := by
  have htexts := hleft.text
  have htexts' := hright.text
  cases hleft with
  | function =>
    cases hright with
    | function => exact .none
    | plain hplain =>
      cases r with
      | string b => exact join (congrArg (· ++ b) htexts)
      | function f => exact absurd rfl (hplain f)
      | number x => exact .none
      | native host => exact .none
      | nil => exact .none
  | plain hplain =>
    cases l with
    | function f => exact absurd rfl (hplain f)
    | string a => exact join (congrArg (a ++ ·) htexts')
    | number x =>
      cases hright with
      | function => exact .none
      | plain hplain =>
        cases r with
        | number y =>
          simp only [Value.operate?]
          cases arithmetic? operator x y with
          | none => exact .none
          | some z => exact .some (number z)
        | string b => exact join rfl
        | function f => exact absurd rfl (hplain f)
        | native host => exact .none
        | nil => exact .none
    | native host =>
      cases hright with
      | function => exact .none
      | plain hplain => cases r <;> first | exact join rfl | exact .none
    | nil =>
      cases hright with
      | function => exact .none
      | plain hplain => cases r <;> first | exact join rfl | exact .none

end Value.Rest

/-- The same failure, by its words and its place. -/
def Error.Alike (left right : Error) : Prop :=
  left.cause.message = right.cause.message ∧ left.span = right.span

theorem Error.Alike.refl (error : Error) : error.Alike error := ⟨rfl, rfl⟩

theorem Error.Alike.operands (operator : Located) {l l' r r' : Value} (hleft : Value.Rest landings l l')
    (hright : Value.Rest landings r r') : (Error.operands operator l r).Alike (.operands operator l' r') := by
  refine ⟨?_, rfl⟩
  dsimp only [Error.operands, Error.atSpan, Cause.message]
  rw [hleft.described, hright.described]

theorem Error.Alike.notCallable (span : Span) (name : String) {v w : Value} (hvalues : Value.Rest landings v w) :
    (Error.atSpan span (.notCallable name v)).Alike (.atSpan span (.notCallable name w)) := by
  refine ⟨?_, rfl⟩
  dsimp only [Error.atSpan, Cause.message]
  rw [hvalues.described]

/-- The same machine up to positions and peaks, and up to functions in the rest of
    a buffer. -/
structure Machine.Rest (landings : Landings) (left right : Machine) : Prop where
  env : ∀ name, Option.Rel (Value.Rest landings) (left.env.get? name) (right.env.get? name)
  made : left.made = right.made
  calls : left.calls = right.calls
  log : left.log.map Event.line = right.log.map Event.line

namespace Machine.Rest

variable {left right : Machine}

theorem record (hrest : left.Rest landings right) {event event' : Event} (hline : event.line = event'.line) :
    (left.record event).Rest landings (right.record event') where
  env := hrest.env
  made := hrest.made
  calls := hrest.calls
  log := by simp [Machine.record, hrest.log, hline]

theorem bind (hrest : left.Rest landings right) (name : String) {v w : Value}
    (hvalues : Value.Rest landings v w) : (left.bind name v).Rest landings (right.bind name w) where
  env other := by
    simp only [Machine.bind, Env.get?_set]
    split
    · exact .some hvalues
    · exact hrest.env other
  made := hrest.made
  calls := hrest.calls
  log := by
    have hline : (Event.bound name v).line = (Event.bound name w).line := by
      simp [Event.line, Event.details, Event.level, Event.message, hvalues.code]
    simp [Machine.bind, hrest.log, hline]

theorem bindAll (hrest : left.Rest landings right) (params : List String) {values values' : List Value}
    (hvalues : List.Forall₂ (Value.Rest landings) values values') :
    (left.bindAll params values).Rest landings (right.bindAll params values') := by
  induction params generalizing left right values values' with
  | nil => exact hrest
  | cons param params ih =>
    cases hvalues with
    | nil => exact ih (hrest.bind param .nil) .nil
    | cons hvalue hvalues => exact ih (hrest.bind param hvalue) hvalues

theorem define (hrest : left.Rest landings right) (name : String) (params : List String) {body body' : Cursor}
    (hbody : body.Rest body') (hallowed : landings.allowed body = true) :
    (left.define name params body).Rest landings (right.define name params body') := by
  unfold Machine.define
  have hmade : Machine.Rest landings { left with made := left.made + 1 } { right with made := right.made + 1 } :=
    ⟨hrest.env, by rw [hrest.made], hrest.calls, hrest.log⟩
  have hdefined : (Event.defined ⟨.made left.made, name, params, body⟩).line =
      (Event.defined ⟨.made right.made, name, params, body'⟩).line := rfl
  exact (hmade.record hdefined).bind name
    (.function (congrArg Identity.made hrest.made) rfl rfl hbody hallowed)

end Machine.Rest

end Rewind
