import Rewind.Proofs.Tree.Simulation

namespace Rewind.Eval

namespace Simulates

variable {scene : Scene} {tokens : Array Located} {p q r : Nat} {inner : Eval Value}

/-- What a list of expressions yields. -/
abbrev meansValues (values : Array Value) (values' : List TreeValue) : Prop := MeansAll values.toList values'

theorem not_closing_of_begun (hbegun : Reads.Begun tokens p q) :
    ¬ ((Cursor.mk tokens p).atEnd || (Cursor.mk tokens p).isPunct ")") = true := by
  have hclose : ¬ (Cursor.mk tokens p).isPunct ")" = true := hbegun.notClosing
  simp [Cursor.atEnd, hclose, hbegun.inside]

private theorem evalAll_cons (scene : Scene) (tree : Tree) (trees : List Tree) :
    scene.evalAll (tree :: trees) = scene.eval tree >>= fun value =>
      scene.evalAll trees >>= fun values => Pure.pure (value :: values) := rfl

/-- The values so far, and those that are still to come. -/
abbrev meansOnTop (before : List TreeValue) (values : Array Value) (rest : List TreeValue) : Prop :=
  meansValues values (before ++ rest)

section Lists

variable (hinner : ∀ {tree p q}, Reads tokens (.expression tree) p q →
    Simulates scene tokens p q Value.Means inner (scene.eval tree))

include hinner

private theorem elementsFrom {trees : List Tree} (hreads : Reads tokens (.elements trees) p q) {rounds : Nat}
    (hrounds : tokens.size - p < rounds) {values : Array Value} {values' : List TreeValue}
    (hvalues : meansValues values values') :
    Simulates scene tokens p q (meansOnTop values') (elementsFrom inner rounds values) (scene.evalAll trees) := by
  induction trees generalizing p rounds values values' with
  | nil =>
    obtain ⟨rounds, rfl⟩ : ∃ n, rounds = n + 1 := ⟨rounds - 1, by omega⟩
    cases hreads with
    | elementsEnd hclose =>
      refine move Moves.cursor ?_
      rw [if_pos (Bool.or_eq_true_iff.2 (.inr hclose))]
      exact pure (show meansValues values (values' ++ []) by rwa [List.append_nil])
  | cons tree trees ih =>
    obtain ⟨rounds, rfl⟩ : ∃ n, rounds = n + 1 := ⟨rounds - 1, by omega⟩
    rw [evalAll_cons]
    -- what comes after the first element, whether or not a comma follows it
    have hrest {r : Nat} (hreads : Reads tokens (.elements trees) r q) (hmoves : p < r) (hinside : p < tokens.size)
        {value : Value} {value' : TreeValue} (hvalue : value.Means value') :
        Simulates scene tokens r q (meansOnTop values') (Eval.elementsFrom inner rounds (values.push value))
          (scene.evalAll trees >>= fun values => Pure.pure (value' :: values)) := by
      have hpushed : meansValues (values.push value) (values' ++ [value']) := by
        unfold meansValues MeansAll at *
        rw [Array.toList_push]
        exact List.rel_append hvalues (.cons hvalue .nil)
      have hrounds : tokens.size - r < rounds := by omega
      have htail := ih hreads hrounds hpushed
      rw [← bind_pure (Eval.elementsFrom inner rounds (values.push value))]
      refine bind htail fun all all' hall => pure ?_
      rwa [meansOnTop, List.append_assoc] at hall
    cases hreads with
    | elementsComma hfirst hcomma hreads =>
      have hbegun := hfirst.begun_chain
      refine move Moves.cursor ?_
      rw [if_neg (not_closing_of_begun hbegun)]
      refine bind (hinner hfirst) fun value value' hvalue => move Moves.cursor ?_
      obtain ⟨located, hcurrent, _⟩ := isPunct_iff.1 hcomma
      rw [if_pos hcomma]
      exact move (.advance hcurrent) (hrest hreads (Nat.lt_succ_of_lt hbegun.moves) hbegun.inside hvalue)
    | elementsPlain hfirst hcomma hreads =>
      have hbegun := hfirst.begun_chain
      refine move Moves.cursor ?_
      rw [if_neg (not_closing_of_begun hbegun)]
      refine bind (hinner hfirst) fun value value' hvalue => move Moves.cursor ?_
      rw [if_neg hcomma]
      exact hrest hreads hbegun.moves hbegun.inside hvalue

theorem list {trees : List Tree} (hreads : Reads tokens (.list trees) p q) :
    Simulates scene tokens p q meansValues (list inner) (scene.evalAll trees) := by
  cases hreads with
  | list hopen helements hclose =>
    refine move (.expectPunct hopen) (move Moves.rounds ?_)
    have hempty : meansValues #[] [] := .nil
    have helements := elementsFrom hinner helements (show tokens.size - (p + 1) < tokens.size + 1 by omega) hempty
    rw [← bind_pure (scene.evalAll trees)]
    exact bind helements fun values values' hvalues => move (.expectPunct hclose) (pure hvalues)

theorem programFrom {trees : List Tree} (hreads : Reads tokens (.program trees) p q) {rounds : Nat}
    (hrounds : tokens.size - p < rounds) {last : Value} {last' : TreeValue} (hlast : last.Means last') :
    Simulates scene tokens p q Value.Means (programFrom inner rounds last)
      (do return lastOr last' (← scene.evalAll trees)) := by
  induction trees generalizing p rounds last last' with
  | nil =>
    obtain ⟨rounds, rfl⟩ : ∃ n, rounds = n + 1 := ⟨rounds - 1, by omega⟩
    cases hreads with
    | programEnd hend =>
      refine move Moves.cursor ?_
      rw [if_pos ((Cursor.atEnd_iff_current? ⟨tokens, q⟩).2 hend)]
      exact pure hlast
  | cons tree trees ih =>
    obtain ⟨rounds, rfl⟩ : ∃ n, rounds = n + 1 := ⟨rounds - 1, by omega⟩
    cases hreads with
    | @programCons _ r _ _ _ hfirst hrest =>
      have hbegun := hfirst.begun_chain
      have hmoves := hbegun.moves
      have hinside := hbegun.inside
      rw [evalAll_cons, bind_assoc]
      refine move Moves.cursor ?_
      rw [if_neg (by simp [Cursor.atEnd, hinside])]
      refine bind (hinner hfirst) fun value value' hvalue => ?_
      have hrounds : tokens.size - r < rounds := by omega
      have hnext := ih hrest hrounds hvalue
      rw [bind_assoc]
      simpa [lastOr, List.getLast?_cons] using hnext

end Lists

end Simulates

end Rewind.Eval
