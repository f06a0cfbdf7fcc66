import Rewind.Proofs.Comparison.Forms
import Rewind.Proofs.Tree.Evaluator
import Rewind.Proofs.Tree.Unique

namespace Rewind

/-- The same function, one with a place in a buffer for its body and one with the
    trees that are read there. -/
structure Function.Means (f : Function) (g : TreeFunction) : Prop where
  id : f.id = g.id
  name : f.name = g.name
  params : f.params = g.params
  body : ∃ stop, Reads f.body.tokens (.list g.body) f.body.pos stop

private theorem Function.Means.unique {f : Function} {g g' : TreeFunction} (hmeans : f.Means g) (hmeans' : f.Means g') :
    g = g' := by
  obtain ⟨stop, hbody⟩ := hmeans.body
  obtain ⟨stop', hbody'⟩ := hmeans'.body
  have hsame := Phrase.list.inj (hbody.sole.only (.list _ _) hbody').1
  have hid := hmeans.id.symm.trans hmeans'.id
  have hname := hmeans.name.symm.trans hmeans'.name
  have hparams := hmeans.params.symm.trans hmeans'.params
  cases g
  cases g'
  congr

/-- The same value of the two evaluators. -/
inductive Value.Means : Value → TreeValue → Prop where
  | number (x : Float) : Means (.number x) (.number x)
  | string (text : String) : Means (.string text) (.string text)
  | function {f : Function} {g : TreeFunction} (hfunction : f.Means g) : Means (.function f) (.function g)
  | native (host : Native) : Means (.native host) (.native host)
  | nil : Means .nil .nil

namespace Value.Means

variable {v l r : Value} {w l' r' : TreeValue}

private theorem unique {w' : TreeValue} (hmeans : v.Means w) (hmeans' : v.Means w') : w = w' := by
  cases hmeans with
  | function hfunction =>
    cases hmeans' with
    | function hfunction' => rw [hfunction.unique hfunction']
  | number x => cases hmeans'; rfl
  | string text => cases hmeans'; rfl
  | native host => cases hmeans'; rfl
  | nil => cases hmeans'; rfl

theorem truthy (hmeans : v.Means w) : v.truthy = w.truthy := by
  cases hmeans <;> rfl

private theorem text (hmeans : v.Means w) : v.text = w.text := by
  cases hmeans with
  | function hfunction =>
    dsimp only [Value.text, TreeValue.text]
    rw [hfunction.name, hfunction.params]
  | number x => rfl
  | string text => rfl
  | native host => rfl
  | nil => rfl

theorem described (hmeans : v.Means w) : v.described = w.described := by
  have htext := hmeans.text
  cases hmeans with
  | function hfunction =>
    dsimp only [Value.described, TreeValue.described, Value.code, TreeValue.code]
    rw [htext]
    rfl
  | number x => rfl
  | string text => rfl
  | native host => rfl
  | nil => rfl

/-- Joining texts gives the same on both sides. -/
private theorem join {operator a b : String} (hjoined : a = b) :
    Option.Rel Value.Means (if operator == "+" then some (.string a) else none)
      (if operator == "+" then some (.string b) else none) := by
  subst hjoined
  split
  · exact .some (.string a)
  · exact .none

theorem operate? (operator : String) (hleft : l.Means l') (hright : r.Means r') :
    Option.Rel Value.Means (operate? operator l r) (TreeValue.operate? operator l' r') := by
  have htext := hleft.text
  have htext' := hright.text
  cases hleft with
  | string a => exact join (congrArg (a ++ ·) htext')
  | number x =>
    cases hright with
    | number y =>
      simp only [Value.operate?, TreeValue.operate?]
      cases arithmetic? operator x y with
      | none => exact .none
      | some z => exact .some (.number z)
    | string b => exact join (congrArg (· ++ b) htext)
    | function hfunction => exact .none
    | native host => exact .none
    | nil => exact .none
  | function hfunction =>
    cases hright with
    | string b => exact join (congrArg (· ++ b) htext)
    | _ => exact .none
  | native host =>
    cases hright with
    | string b => exact join (congrArg (· ++ b) htext)
    | _ => exact .none
  | nil =>
    cases hright with
    | string b => exact join (congrArg (· ++ b) htext)
    | _ => exact .none

/-- A host's answer, which is no function. -/
theorem ofAnswer (hplain : ∀ f, v ≠ .function f) : v.Means (.ofAnswer v) := by
  cases v with
  | number x => exact .number x
  | string text => exact .string text
  | function f => exact absurd rfl (hplain f)
  | native host => exact .native host
  | nil => exact .nil

end Value.Means

/-- Values of the two evaluators that are the same one by one. -/
def MeansAll (values : List Value) (values' : List TreeValue) : Prop := List.Forall₂ Value.Means values values'

theorem MeansAll.back? {values : Array Value} {values' : List TreeValue}
    (hvalues : MeansAll values.toList values') : Option.Rel Value.Means values.back? values'.getLast? := by
  rw [← Array.getLast?_toList]
  exact rel_getLast? hvalues

theorem MeansAll.last {values : Array Value} {values' : List TreeValue} {v : Value} {w : TreeValue}
    (hvalues : MeansAll values.toList values') (hdefault : v.Means w) :
    (values.back?.getD v).Means (lastOr w values') :=
  rel_getD hvalues.back? hdefault

/-- The same bindings, definitions so far, and host calls. -/
structure Machine.Means (machine : Machine) (state : TreeState) : Prop where
  env : ∀ name, Option.Rel Value.Means (machine.env.get? name) (state.env name)
  made : machine.made = state.made
  calls : machine.calls = state.calls

namespace Machine.Means

variable {machine : Machine} {state : TreeState}

/-- Positions, peaks and the log mean nothing. -/
theorem of_eq {machine' : Machine} (hmeans : machine.Means state) (henv : machine'.env = machine.env)
    (hmade : machine'.made = machine.made) (hcalls : machine'.calls = machine.calls) : machine'.Means state :=
  ⟨henv ▸ hmeans.env, hmade.trans hmeans.made, hcalls.trans hmeans.calls⟩

theorem bind (hmeans : machine.Means state) (name : String) {v : Value} {w : TreeValue} (hvalue : v.Means w) :
    (machine.bind name v).Means (state.bind name w) where
  env other := by
    simp only [Machine.bind, TreeState.bind, Env.get?_set]
    split
    · exact .some hvalue
    · exact hmeans.env other
  made := hmeans.made
  calls := hmeans.calls

theorem bindAll (hmeans : machine.Means state) (params : List String) {values : List Value}
    {values' : List TreeValue} (hvalues : MeansAll values values') :
    (machine.bindAll params values).Means (state.bindAll params values') := by
  induction params generalizing machine state values values' with
  | nil => exact hmeans
  | cons param params ih =>
    cases hvalues with
    | nil => exact ih (hmeans.bind param .nil) .nil
    | cons hvalue hvalues => exact ih (hmeans.bind param hvalue) hvalues

theorem define (hmeans : machine.Means state) (name : String) (params : List String) {body : Cursor}
    {trees : List Tree} {stop : Nat} (hbody : Reads body.tokens (.list trees) body.pos stop) :
    (machine.define name params body).Means
      (({ state with made := state.made + 1 } : TreeState).bind name
        (.function ⟨.made state.made, name, params, trees⟩)) := by
  have hmade : Machine.Means { machine with made := machine.made + 1 } { state with made := state.made + 1 } :=
    ⟨hmeans.env, congrArg (· + 1) hmeans.made, hmeans.calls⟩
  have hrecorded {event : Event} : Machine.Means ({ machine with made := machine.made + 1 }.record event)
      { state with made := state.made + 1 } := hmade.of_eq rfl rfl rfl
  exact hrecorded.bind name (.function ⟨congrArg Identity.made hmeans.made, rfl, rfl, stop, hbody⟩)

private theorem unique {state' : TreeState} (hmeans : machine.Means state) (hmeans' : machine.Means state') :
    state = state' := by
  have henv : state.env = state'.env := by
    funext name
    have hvalue := hmeans.env name
    have hvalue' := hmeans'.env name
    generalize machine.env.get? name = value at hvalue hvalue'
    generalize state.env name = left at hvalue ⊢
    generalize state'.env name = right at hvalue' ⊢
    cases hvalue with
    | none => cases hvalue'; rfl
    | some hvalue =>
      cases hvalue' with
      | some hvalue' => rw [hvalue.unique hvalue']
  have hmade := hmeans.made.symm.trans hmeans'.made
  have hcalls := hmeans.calls.symm.trans hmeans'.calls
  cases state
  cases state'
  congr

end Machine.Means

/-- Every function that is bound has a body that can be read. -/
def Machine.Readable (machine : Machine) : Prop :=
  ∀ name f, machine.env.get? name = some (.function f) →
    ∃ trees stop, Reads f.body.tokens (.list trees) f.body.pos stop

/-- Bindings with bodies that can be read are the same as bindings of trees, and of
    no others. -/
theorem Machine.Readable.existsUnique_means {machine : Machine} (hreadable : machine.Readable) :
    ∃! state, machine.Means state := by
  have hvalues (name : String) : ∃ value, Option.Rel Value.Means (machine.env.get? name) value := by
    cases hvalue : machine.env.get? name with
    | none => exact ⟨none, .none⟩
    | some value =>
      cases value with
      | function f =>
        obtain ⟨trees, stop, hbody⟩ := hreadable name f hvalue
        exact ⟨_, .some (.function (g := ⟨f.id, f.name, f.params, trees⟩) ⟨rfl, rfl, rfl, stop, hbody⟩)⟩
      | number x => exact ⟨_, .some (.number x)⟩
      | string text => exact ⟨_, .some (.string text)⟩
      | native host => exact ⟨_, .some (.native host)⟩
      | nil => exact ⟨_, .some .nil⟩
  choose env henv using hvalues
  have hmeans : machine.Means ⟨env, machine.made, machine.calls⟩ := ⟨henv, rfl, rfl⟩
  exact ⟨_, hmeans, fun _ hmeans' => hmeans'.unique hmeans⟩

end Rewind
