import Rewind.Value

namespace Rewind

/-- The bytes of a name in UTF-8. Names are listed in the order of their bytes. -/
def nameKey (name : String) : List UInt8 := name.toByteArray.data.toList

private theorem nameKey_injective {a b : String} (hkey : nameKey a = nameKey b) : a = b :=
  String.toByteArray_inj.1 (ByteArray.ext (Array.toList_inj.1 hkey))

private theorem nameKey_lt_of_not_lt {a b : String} (hne : a ≠ b) (hlt : ¬ nameKey a < nameKey b) :
    nameKey b < nameKey a := by
  rcases List.le_iff_lt_or_eq.1 (List.not_lt.1 hlt) with h | h
  · exact h
  · exact absurd (nameKey_injective h.symm) hne

/-- Entries in strictly increasing order of their names. -/
def Ordered (entries : List (String × Value)) : Prop :=
  entries.Pairwise fun a b => nameKey a.1 < nameKey b.1

/-- The symbol table: one flat namespace, in which the last write to a name wins
    everywhere. -/
structure Env where
  /-- The bindings, one for each name, in the order of the names. -/
  entries : List (String × Value) := []
  ordered : Ordered entries := by exact List.Pairwise.nil

namespace Env

/-- Puts a binding in its place, over any binding of the same name. -/
def write (name : String) (value : Value) : List (String × Value) → List (String × Value)
  | [] => [(name, value)]
  | entry :: rest =>
    if entry.1 = name then (name, value) :: rest
    else if nameKey name < nameKey entry.1 then (name, value) :: entry :: rest
    else entry :: write name value rest

private theorem mem_write {name : String} {value : Value} {entries : List (String × Value)}
    {entry : String × Value} (hmem : entry ∈ write name value entries) :
    entry = (name, value) ∨ entry ∈ entries := by
  induction entries with
  | nil => simpa [write] using hmem
  | cons first rest ih =>
    unfold write at hmem
    split at hmem
    · simp at hmem
      grind
    · split at hmem
      · simpa using hmem
      · simp only [List.mem_cons] at hmem ⊢
        grind

private theorem Ordered.write {name : String} {value : Value} {entries : List (String × Value)}
    (hordered : Ordered entries) : Ordered (write name value entries) := by
  induction entries with
  | nil => simp [Ordered, Env.write]
  | cons first rest ih =>
    obtain ⟨hfirst, hrest⟩ := List.pairwise_cons.1 hordered
    unfold Env.write
    split
    · rename_i heq
      subst heq
      exact List.pairwise_cons.2 ⟨hfirst, hrest⟩
    · rename_i hne
      split
      · rename_i hlt
        refine List.pairwise_cons.2 ⟨fun entry hmem => ?_, hordered⟩
        rcases List.mem_cons.1 hmem with rfl | hmem
        · exact hlt
        · exact List.lt_trans hlt (hfirst entry hmem)
      · rename_i hlt
        refine List.pairwise_cons.2 ⟨fun entry hmem => ?_, ih hrest⟩
        rcases mem_write hmem with rfl | hmem
        · exact nameKey_lt_of_not_lt (fun h => hne h.symm) hlt
        · exact hfirst entry hmem

/-- The value bound to `name`. -/
def get? (env : Env) (name : String) : Option Value := env.entries.lookup name

/-- Binds `name`, over any value it had. -/
def set (env : Env) (name : String) (value : Value) : Env where
  entries := write name value env.entries
  ordered := Ordered.write env.ordered

private theorem lookup_write (name other : String) (value : Value) (entries : List (String × Value)) :
    (write name value entries).lookup other = if other = name then some value else entries.lookup other := by
  induction entries with
  | nil =>
    by_cases h : other = name
    · simp [write, h]
    · simp [write, List.lookup_cons, beq_eq_false_iff_ne.2 h, h]
  | cons entry rest ih =>
    obtain ⟨first, bound⟩ := entry
    unfold write
    split
    · rename_i heq
      simp only at heq
      subst heq
      by_cases h : other = first
      · simp [h]
      · simp [List.lookup_cons, beq_eq_false_iff_ne.2 h, h]
    · rename_i hne
      simp only at hne
      split
      · by_cases h : other = name
        · simp [h]
        · simp [List.lookup_cons, beq_eq_false_iff_ne.2 h, h]
      · by_cases h : other = first
        · simp [h, hne]
        · simp [List.lookup_cons, beq_eq_false_iff_ne.2 h, ih]

/-- The last write to a name is the one that is read, and no other name is
    touched. -/
theorem get?_set (env : Env) (name other : String) (value : Value) :
    (env.set name value).get? other = if other = name then some value else env.get? other :=
  lookup_write name other value env.entries

/-- Whether `name` is bound. -/
def contains (env : Env) (name : String) : Bool := (env.get? name).isSome

/-- The number of bound names. -/
def size (env : Env) : Nat := env.entries.length

/-- Whether no name is bound. -/
def isEmpty (env : Env) : Bool := env.entries.isEmpty

/-- One line of `name = value` for each binding, in the order of the names. -/
def listing (env : Env) : String :=
  String.join (env.entries.map fun entry => entry.1 ++ " = " ++ entry.2.code ++ "\n")

end Env

end Rewind
