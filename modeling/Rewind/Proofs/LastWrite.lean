import Mathlib.Data.Finset.Card
import Mathlib.Data.List.Sort
import Rewind.Env

namespace Rewind

private theorem ordered_nil : Ordered [] := List.Pairwise.nil

/-- The symbol table after writes to an empty one, in order. -/
def Env.ofWrites (writes : List (String × Value)) : Env :=
  writes.foldl (fun env write => env.set write.1 write.2) ⟨[], ordered_nil⟩

/-- The last one of the writes to the name is a write of the value. -/
def LastWrite (writes : List (String × Value)) (name : String) (value : Value) : Prop :=
  ∃ earlier later, writes = earlier ++ (name, value) :: later ∧ name ∉ later.map (·.1)

/-- Of two entries, the one whose name has the lesser bytes is listed first. -/
def ListedBefore (left right : String × Value) : Prop := nameKey left.1 < nameKey right.1

instance : Std.Antisymm ListedBefore where
  antisymm _ _ hlt hgt := absurd hgt (List.lt_asymm hlt)

instance : Std.Irrefl ListedBefore where
  irrefl _ hlt := List.lt_irrefl _ hlt

/-- A write on top of others is the last one to its own name, and leaves the other
    names to those. -/
private theorem lastWrite_concat {writes : List (String × Value)} {name other : String} {value found : Value} :
    LastWrite (writes ++ [(other, value)]) name found ↔
      if name = other then found = value else LastWrite writes name found := by
  constructor
  · rintro ⟨earlier, later, hwrites, hlater⟩
    rcases List.eq_nil_or_concat later with rfl | ⟨later, last, rfl⟩
    · obtain ⟨-, hlast⟩ := List.append_inj' hwrites rfl
      obtain ⟨rfl, rfl⟩ : other = name ∧ value = found := by simpa using hlast
      rw [if_pos rfl]
    · rw [List.concat_eq_append, ← List.cons_append, ← List.append_assoc] at hwrites
      obtain ⟨rfl, hlast⟩ := List.append_inj' hwrites rfl
      obtain rfl : (other, value) = last := by simpa using hlast
      have hne : name ≠ other := by
        rintro rfl
        simp at hlater
      rw [if_neg hne]
      exact ⟨earlier, later, rfl, fun hmem => hlater (by simp [List.mem_map.1 hmem])⟩
  · intro hfound
    by_cases hname : name = other
    · rw [if_pos hname] at hfound
      subst hname hfound
      exact ⟨writes, [], rfl, List.not_mem_nil⟩
    · rw [if_neg hname] at hfound
      obtain ⟨earlier, later, rfl, hlater⟩ := hfound
      refine ⟨earlier, later ++ [(other, value)], by simp, ?_⟩
      simp only [List.map_append, List.mem_append, List.map_cons, List.map_nil, List.mem_singleton, not_or]
      exact ⟨hlater, hname⟩

namespace Env

private theorem ofWrites_concat (writes : List (String × Value)) (name : String) (value : Value) :
    ofWrites (writes ++ [(name, value)]) = (ofWrites writes).set name value := by
  simp [ofWrites]

/-- A name has the value of the last write to it. -/
private theorem get?_ofWrites_eq_some_iff {writes : List (String × Value)} {name : String} {value : Value} :
    (ofWrites writes).get? name = some value ↔ LastWrite writes name value := by
  induction writes using List.reverseRecOn with
  | nil =>
    constructor
    · intro hvalue
      cases hvalue
    · rintro ⟨earlier, later, hwrites, -⟩
      simp at hwrites
  | append_singleton writes write ih =>
    rw [ofWrites_concat, get?_set, lastWrite_concat]
    split
    · exact Option.some_inj.trans eq_comm
    · exact ih

/-- A name has a value if it was written to at all. -/
private theorem contains_ofWrites_iff {writes : List (String × Value)} {name : String} :
    (ofWrites writes).contains name = true ↔ name ∈ writes.map (·.1) := by
  unfold contains
  induction writes using List.reverseRecOn with
  | nil => simp [ofWrites, get?]
  | append_singleton writes write ih =>
    rw [ofWrites_concat, get?_set, List.map_append, List.mem_append]
    split
    · rename_i heq
      simp [heq]
    · rename_i hne
      simpa [hne] using ih

variable (env : Env)

private theorem names_nodup : (env.entries.map (·.1)).Nodup := by
  refine List.pairwise_map.2 (env.ordered.imp fun {left right} hlt heq => ?_)
  rw [heq] at hlt
  exact List.lt_irrefl _ hlt

/-- What is listed is what can be read. -/
private theorem mem_entries_iff {name : String} {value : Value} :
    (name, value) ∈ env.entries ↔ env.get? name = some value := by
  obtain ⟨entries, hordered⟩ := env
  unfold get?
  dsimp only
  induction entries with
  | nil => simp
  | cons entry rest ih =>
    obtain ⟨first, bound⟩ := entry
    obtain ⟨hfirst, hrest⟩ := List.pairwise_cons.1 hordered
    rw [List.mem_cons, List.lookup_cons]
    by_cases hname : name = first
    · subst hname
      have hgone : (name, value) ∉ rest := fun hmem => List.lt_irrefl (nameKey name) (hfirst (name, value) hmem)
      simp [hgone, eq_comm]
    · simp [hname, beq_eq_false_iff_ne.2 hname, ih hrest]

private theorem mem_names_iff {name : String} : name ∈ env.entries.map (·.1) ↔ env.contains name = true := by
  unfold contains
  rw [Option.isSome_iff_exists]
  simp only [← mem_entries_iff, List.mem_map]
  constructor
  · rintro ⟨⟨_, value⟩, hmem, rfl⟩
    exact ⟨value, hmem⟩
  · rintro ⟨value, hmem⟩
    exact ⟨_, hmem, rfl⟩

/-- As many names are bound as there are different ones among the writes. -/
private theorem size_ofWrites (writes : List (String × Value)) :
    (ofWrites writes).size = (writes.map (·.1)).toFinset.card := by
  have hsame : ((ofWrites writes).entries.map (·.1)).toFinset = (writes.map (·.1)).toFinset := by
    ext name
    rw [List.mem_toFinset, List.mem_toFinset, mem_names_iff, contains_ofWrites_iff]
  rw [← hsame, List.toFinset_card_of_nodup (names_nodup _), List.length_map, size]

private theorem isEmpty_iff_size : env.isEmpty = true ↔ env.size = 0 := by
  rw [isEmpty, List.isEmpty_iff, size, List.length_eq_zero_iff]

variable {env}

/-- There is only one way to list what can be read in the order of the names. -/
private theorem entries_unique {listing : List (String × Value)} (hordered : listing.Pairwise ListedBefore)
    (hlisted : ∀ name value, (name, value) ∈ listing ↔ env.get? name = some value) : listing = env.entries :=
  hordered.eq_of_mem_iff env.ordered fun _ => (hlisted _ _).trans env.mem_entries_iff.symm

private theorem eq_of_entries_eq {other : Env} (hentries : env.entries = other.entries) : env = other := by
  cases env
  cases other
  cases hentries
  rfl

end Env

/-- The symbol table is a map in which the last write wins, with one listing. A name has
    the value of the last write to it, and none without one. The listing has each bound
    name once, with that value, in the order of the bytes of the names, and no other list
    is such a listing. So writes that end alike for every name, in whatever order they
    come, leave one and the same table. -/
theorem table_determined_by_last_writes (writes : List (String × Value)) :
    let env := Env.ofWrites writes
    (∀ name value, env.get? name = some value ↔ LastWrite writes name value) ∧
    (∀ name, env.get? name = none ↔ name ∉ writes.map (·.1)) ∧
    (∀ name value, (name, value) ∈ env.entries ↔ LastWrite writes name value) ∧
    (env.entries.map (·.1)).Nodup ∧ env.entries.Pairwise ListedBefore ∧
    env.size = (writes.map (·.1)).toFinset.card ∧ (env.isEmpty = true ↔ env.size = 0) ∧
    (∀ name, env.contains name = true ↔ name ∈ writes.map (·.1)) ∧
    (∀ listing : List (String × Value), listing.Pairwise ListedBefore →
      (∀ name value, (name, value) ∈ listing ↔ LastWrite writes name value) → listing = env.entries) ∧
    ∀ other, (∀ name value, LastWrite other name value ↔ LastWrite writes name value) → Env.ofWrites other = env := by
  intro env
  have hget (name : String) (value : Value) : env.get? name = some value ↔ LastWrite writes name value :=
    Env.get?_ofWrites_eq_some_iff
  have hlisted (name : String) (value : Value) : (name, value) ∈ env.entries ↔ LastWrite writes name value :=
    env.mem_entries_iff.trans (hget name value)
  refine ⟨hget, fun name => ?_, hlisted, env.names_nodup, env.ordered, Env.size_ofWrites writes, env.isEmpty_iff_size,
    fun name => Env.contains_ofWrites_iff, fun listing hordered hsame => ?_, fun other hsame => ?_⟩
  · rw [← Env.contains_ofWrites_iff, Env.contains, ← Option.not_isSome_iff_eq_none]
  · exact Env.entries_unique hordered fun name value => (hsame name value).trans (hget name value).symm
  · refine Env.eq_of_entries_eq (Env.entries_unique (Env.ofWrites other).ordered fun name value => ?_)
    rw [Env.mem_entries_iff, Env.get?_ofWrites_eq_some_iff, hsame, hget]

/-- Writes to three names, to one of them twice. -/
def scattered : List (String × Value) :=
  [("z", .string "first"), ("é", .nil), ("a", .string "only"), ("z", .string "last")]

/-- Writes that end alike, in another order. -/
def gathered : List (String × Value) := [("é", .nil), ("z", .string "last"), ("a", .string "only")]

theorem table_determined_by_last_writes_of_scattered :
    (∀ name value, LastWrite gathered name value ↔ LastWrite scattered name value) ∧
      Env.ofWrites gathered = Env.ofWrites scattered ∧
      (Env.ofWrites scattered).entries.map (·.1) = ["a", "z", "é"] ∧ (Env.ofWrites scattered).size = 3 := by
  have hsame (name : String) (value : Value) : LastWrite gathered name value ↔ LastWrite scattered name value := by
    rw [← Env.get?_ofWrites_eq_some_iff, ← Env.get?_ofWrites_eq_some_iff]
    simp only [gathered, scattered, Env.ofWrites, List.foldl_cons, List.foldl_nil, Env.get?_set]
    by_cases hz : name = "z"
    · simp [hz]
    · by_cases ha : name = "a"
      · simp [ha]
      · simp [hz, ha]
  obtain ⟨_, _, _, _, _, hsize, _, _, _, hdetermined⟩ := table_determined_by_last_writes scattered
  exact ⟨hsame, hdetermined gathered hsame, by decide +kernel, hsize⟩

end Rewind
