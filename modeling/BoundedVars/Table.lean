/-!
# Tables in order of insertion

A `Table κ ν` is a finite map that remembers the order in which its keys came in.  Writing a key
that is present keeps the key and its place and changes the value; a new key goes last; a key that
is erased and written again goes last, too.  Everything the library keeps under a name is such a
table: the variables of a compartment, the compartments of the scripts, the entries of a
dictionary, the names of a session.

Keys are compared with `==`, and the key already present stays when an equal one is written.  The
small equations below say what each operation does to the look-up `get?`; nobody needs the list
behind a table to use one.
-/

namespace BoundedVars

/-- A finite map whose entries stand in the order in which their keys came in. -/
structure Table (κ ν : Type) where
  entries : List (κ × ν)
  deriving Repr, DecidableEq

namespace Table

variable {κ ν μ : Type}

/-- The table without entries. -/
def empty : Table κ ν := ⟨[]⟩

instance : EmptyCollection (Table κ ν) := ⟨empty⟩

instance : Inhabited (Table κ ν) := ⟨empty⟩

/-- The keys, in order. -/
def keys (t : Table κ ν) : List κ :=
  t.entries.map (·.1)

/-- The values, in the order of their keys. -/
def values (t : Table κ ν) : List ν :=
  t.entries.map (·.2)

/-- The number of entries. -/
def size (t : Table κ ν) : Nat :=
  t.entries.length

/-- A table without entries. -/
def isEmpty (t : Table κ ν) : Bool :=
  t.entries.isEmpty

/-- Every value replaced by its image, keys and order kept. -/
def mapValues (f : ν → μ) (t : Table κ ν) : Table κ μ :=
  ⟨t.entries.map fun e => (e.1, f e.2)⟩

variable [BEq κ]

/-- The value under a key. -/
def get? (t : Table κ ν) (k : κ) : Option ν :=
  (t.entries.find? (·.1 == k)).map (·.2)

/-- The key is present. -/
def contains (t : Table κ ν) (k : κ) : Bool :=
  t.entries.any (·.1 == k)

/-- Writes a value: in place under a key that is present, last under a new one. -/
def insert (t : Table κ ν) (k : κ) (v : ν) : Table κ ν :=
  if t.contains k then ⟨t.entries.map fun e => if e.1 == k then (e.1, v) else e⟩
  else ⟨t.entries ++ [(k, v)]⟩

/-- Removes a key and its value. -/
def erase (t : Table κ ν) (k : κ) : Table κ ν :=
  ⟨t.entries.filter fun e => !(e.1 == k)⟩

/-- Writes entries one after another. -/
def insertAll (t : Table κ ν) (entries : List (κ × ν)) : Table κ ν :=
  entries.foldl (fun t e => t.insert e.1 e.2) t

/-- The table that holds the last value given for each key, at the place of its first mention. -/
def ofList (entries : List (κ × ν)) : Table κ ν :=
  empty.insertAll entries

theorem eq_empty_of_isEmpty {κ ν : Type} {t : Table κ ν} (h : t.isEmpty) : t = empty := by
  obtain ⟨entries⟩ := t
  simpa [isEmpty, empty] using h

/-! ### What the operations do to look-up -/

@[simp] theorem get?_empty (k : κ) : (empty : Table κ ν).get? k = none := rfl

@[simp] theorem contains_empty (k : κ) : (empty : Table κ ν).contains k = false := rfl

theorem isSome_get? (t : Table κ ν) (k : κ) : (t.get? k).isSome = t.contains k := by
  rw [get?, Option.isSome_map, contains, Bool.eq_iff_iff, List.find?_isSome, List.any_eq_true]

/-- Overwriting the values under `k` changes what the first entry under `j` holds only if `j` is
`k`. -/
theorem find?_map_overwrite (entries : List (κ × ν)) (k j : κ) (v : ν) :
    (entries.map fun e => if e.1 == k then (e.1, v) else e).find? (·.1 == j) =
      (entries.find? (·.1 == j)).map fun e => if e.1 == k then (e.1, v) else e := by
  induction entries with
  | nil => rfl
  | cons e rest ih =>
    simp only [List.map_cons, List.find?_cons, ih]
    cases hk : e.1 == k <;> cases hj : e.1 == j <;> simp [hk, hj]

variable [LawfulBEq κ]

theorem get?_insert_self (t : Table κ ν) (k : κ) (v : ν) : (t.insert k v).get? k = some v := by
  rw [insert]
  split
  · rename_i h
    rw [← isSome_get?, get?, Option.isSome_map, Option.isSome_iff_exists] at h
    obtain ⟨e, he⟩ := h
    have hk := List.find?_some he
    rw [get?, find?_map_overwrite, he]
    simp [hk]
  · rename_i h
    have hn : t.entries.find? (·.1 == k) = none := by
      rw [List.find?_eq_none]
      exact fun e he hk => h (List.any_eq_true.2 ⟨e, he, hk⟩)
    simp [get?, List.find?_append, hn]

theorem get?_insert_of_ne (t : Table κ ν) {k j : κ} (v : ν) (h : j ≠ k) :
    (t.insert k v).get? j = t.get? j := by
  rw [insert]
  split
  · simp only [get?, find?_map_overwrite]
    cases he : t.entries.find? (·.1 == j) with
    | none => rfl
    | some e =>
      have hj := List.find?_some he
      simp only [beq_iff_eq] at hj
      simp [hj, h]
  · have hkj : (k == j) = false := by simpa using fun e => h e.symm
    simp [get?, List.find?_append, hkj]

theorem get?_erase_self (t : Table κ ν) (k : κ) : (t.erase k).get? k = none := by
  simp [erase, get?]

theorem get?_erase_of_ne (t : Table κ ν) {k j : κ} (h : j ≠ k) :
    (t.erase k).get? j = t.get? j := by
  simp only [erase, get?, List.find?_filter]
  congr 2
  funext e
  by_cases he : e.1 = j <;> simp_all

end Table

end BoundedVars
