/-! # Ordered tables

A finite map as a list of keys and values in increasing order of keys, so that every key occurs at
most once and listings come out sorted.
-/

namespace MoteTrial

/-- A finite map, listed in increasing order of its keys. -/
structure Table (κ α : Type) [Ord κ] where
  entries : List (κ × α) := []
  increasing : entries.Pairwise fun a b => compare a.1 b.1 = .lt := by exact .nil

namespace Table

variable {κ α : Type} [Ord κ]

/-- The value of a key in a list of entries. -/
def lookup (key : κ) : List (κ × α) → Option α
  | [] => none
  | (k, v) :: rest => if compare key k = .eq then some v else lookup key rest

/-- Puts a value at its key's place in an ordered list of entries. -/
def place (key : κ) (value : α) : List (κ × α) → List (κ × α)
  | [] => [(key, value)]
  | (k, v) :: rest =>
    match compare key k with
    | .lt => (key, value) :: (k, v) :: rest
    | .eq => (key, value) :: rest
    | .gt => (k, v) :: place key value rest

/-- The value of a key. -/
def find? (t : Table κ α) (key : κ) : Option α := lookup key t.entries

/-- Whether a key has a value. -/
def has (t : Table κ α) (key : κ) : Bool := (t.find? key).isSome

/-- The table without entries. -/
def empty : Table κ α where

instance : EmptyCollection (Table κ α) := ⟨empty⟩

instance : Inhabited (Table κ α) := ⟨empty⟩

theorem mem_place {key : κ} {value : α} {entries : List (κ × α)} {e : κ × α}
    (h : e ∈ place key value entries) : e = (key, value) ∨ e ∈ entries := by
  induction entries with
  | nil => exact .inl (by simpa [place] using h)
  | cons head rest ih =>
    simp only [place] at h
    split at h
    · simpa using h
    · rcases List.mem_cons.mp h with h | h
      · exact .inl h
      · exact .inr (List.mem_cons_of_mem _ h)
    · rcases List.mem_cons.mp h with h | h
      · exact .inr (h ▸ List.mem_cons_self ..)
      · exact (ih h).imp_right (List.mem_cons_of_mem _)

variable [Std.TransOrd κ] [Std.LawfulEqOrd κ]

theorem place_increasing (key : κ) (value : α) {entries : List (κ × α)}
    (h : entries.Pairwise fun a b => compare a.1 b.1 = .lt) :
    (place key value entries).Pairwise fun a b => compare a.1 b.1 = .lt := by
  induction entries with
  | nil => exact List.pairwise_singleton _ _
  | cons head rest ih =>
    obtain ⟨headLt, restIncreasing⟩ := List.pairwise_cons.mp h
    simp only [place]
    split
    · rename_i before
      refine List.pairwise_cons.mpr ⟨?_, h⟩
      intro e member
      rcases List.mem_cons.mp member with rfl | member
      · exact before
      · exact Std.TransCmp.lt_trans before (headLt e member)
    · rename_i same
      have : key = head.1 := Std.LawfulEqCmp.compare_eq_iff_eq.mp same
      subst this
      exact List.pairwise_cons.mpr ⟨headLt, restIncreasing⟩
    · rename_i after
      refine List.pairwise_cons.mpr ⟨?_, ih restIncreasing⟩
      intro e member
      rcases mem_place member with rfl | member
      · exact Std.OrientedCmp.lt_of_gt after
      · exact headLt e member

/-- Gives a key a value, in place of the one it may have. -/
def put (t : Table κ α) (key : κ) (value : α) : Table κ α :=
  ⟨place key value t.entries, place_increasing key value t.increasing⟩

omit [Std.TransOrd κ] in
theorem lookup_place_self (key : κ) (value : α) (entries : List (κ × α)) :
    lookup key (place key value entries) = some value := by
  induction entries with
  | nil => simp [place, lookup]
  | cons head rest ih =>
    simp only [place]
    split
    · simp [lookup]
    · simp [lookup]
    · rename_i after
      simp [lookup, after, ih]

omit [Std.TransOrd κ] in
theorem lookup_place_of_ne {key other : κ} (value : α) (ne : other ≠ key)
    (entries : List (κ × α)) : lookup other (place key value entries) = lookup other entries := by
  have differs : compare other key ≠ .eq := fun same =>
    ne (Std.LawfulEqCmp.compare_eq_iff_eq.mp same)
  induction entries with
  | nil => simp [place, lookup, differs]
  | cons head rest ih =>
    simp only [place]
    split
    · simp [lookup, differs]
    · rename_i same
      have : key = head.1 := Std.LawfulEqCmp.compare_eq_iff_eq.mp same
      subst this
      simp [lookup, differs]
    · simp [lookup, ih]

@[simp] theorem find?_put_self (t : Table κ α) (key : κ) (value : α) :
    (t.put key value).find? key = some value := lookup_place_self key value t.entries

theorem find?_put_of_ne (t : Table κ α) {key other : κ} (value : α) (ne : other ≠ key) :
    (t.put key value).find? other = t.find? other := lookup_place_of_ne value ne t.entries

end Table

end MoteTrial
