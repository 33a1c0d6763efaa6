/-!
# Attributes of an element

Attributes are kept in strictly increasing order of their names, so a name occurs once and equal
sets of attributes are equal values. Names are compared by code points, which is also the order of
their UTF-8 bytes.
-/

namespace Highlighter

/-- Puts a value under a name, at its place in the order, over any earlier value. -/
def Attributes.insertInto (name value : String) : List (String × String) → List (String × String)
  | [] => [(name, value)]
  | (n, v) :: rest =>
    if name < n then (name, value) :: (n, v) :: rest
    else if name = n then (name, value) :: rest
    else (n, v) :: insertInto name value rest

namespace Attributes

/-- Inserting brings in no pair but the inserted one. -/
theorem mem_insertInto {name value : String} {entries : List (String × String)}
    {p : String × String} (h : p ∈ insertInto name value entries) :
    p = (name, value) ∨ p ∈ entries := by
  induction entries with
  | nil => simpa [insertInto] using h
  | cons q rest ih =>
    obtain ⟨n, v⟩ := q
    simp only [insertInto] at h
    split at h
    · simpa using h
    · split at h
      · rcases List.mem_cons.1 h with h | h
        · exact .inl h
        · exact .inr (List.mem_cons_of_mem _ h)
      · rcases List.mem_cons.1 h with h | h
        · exact .inr (by simp [h])
        · exact (ih h).imp id (List.mem_cons_of_mem _)

/-- Inserting keeps the names in order. -/
theorem pairwise_insertInto {name value : String} {entries : List (String × String)}
    (h : entries.Pairwise fun p q => p.1 < q.1) :
    (insertInto name value entries).Pairwise fun p q => p.1 < q.1 := by
  induction entries with
  | nil => simp [insertInto]
  | cons q rest ih =>
    obtain ⟨n, v⟩ := q
    obtain ⟨hq, hrest⟩ := List.pairwise_cons.1 h
    simp only [insertInto]
    split
    · next hlt =>
      refine List.pairwise_cons.2 ⟨fun p hp => ?_, h⟩
      rcases List.mem_cons.1 hp with rfl | hp
      · exact hlt
      · exact String.lt_trans hlt (hq p hp)
    · next hge =>
      split
      · next heq => exact List.pairwise_cons.2 ⟨fun p hp => heq ▸ hq p hp, hrest⟩
      · next hne =>
        refine List.pairwise_cons.2 ⟨fun p hp => ?_, ih hrest⟩
        rcases mem_insertInto hp with rfl | hp
        · rcases Std.lt_trichotomy name n with h | h | h
          · exact absurd h hge
          · exact absurd h hne
          · exact h
        · exact hq p hp

end Attributes

/-- Attribute names with their values, in strictly increasing order of the names. -/
structure Attributes where
  entries : List (String × String)
  sorted : entries.Pairwise fun p q => p.1 < q.1
  deriving DecidableEq

namespace Attributes

/-- No attributes. -/
def empty : Attributes := ⟨[], .nil⟩

instance : Inhabited Attributes := ⟨empty⟩

/-- The value under a name. -/
def get? (a : Attributes) (name : String) : Option String := a.entries.lookup name

/-- Puts a value under a name, over any earlier value. -/
def set (a : Attributes) (name value : String) : Attributes :=
  ⟨insertInto name value a.entries, pairwise_insertInto a.sorted⟩

/-- The attributes of a list of names and values; a later value wins. -/
def ofList (entries : List (String × String)) : Attributes :=
  entries.foldl (fun a p => a.set p.1 p.2) empty

/-- Attributes are equal if their entries are. -/
@[ext] theorem ext {a b : Attributes} (h : a.entries = b.entries) : a = b := by
  cases a; cases b; simp_all

/-- Inserting changes what is found under the inserted name only. -/
theorem lookup_insertInto (name value other : String) (entries : List (String × String))
    (h : entries.Pairwise fun p q => p.1 < q.1) :
    (insertInto name value entries).lookup other
      = if other = name then some value else entries.lookup other := by
  induction entries with
  | nil =>
    by_cases ho : other = name
    · simp [insertInto, ho]
    · simp [insertInto, List.lookup_cons, ho, beq_false_of_ne ho]
  | cons q rest ih =>
    obtain ⟨n, v⟩ := q
    obtain ⟨_, hrest⟩ := List.pairwise_cons.1 h
    have ih := ih hrest
    simp only [insertInto]
    grind

/-- A value that was put under a name is found there, and other names keep theirs. -/
@[simp] theorem get?_set (a : Attributes) (name value other : String) :
    (a.set name value).get? other = if other = name then some value else a.get? other :=
  lookup_insertInto name value other a.entries a.sorted

/-- Nothing is set at first. -/
@[simp] theorem get?_empty (name : String) : empty.get? name = none := rfl

end Attributes

end Highlighter
