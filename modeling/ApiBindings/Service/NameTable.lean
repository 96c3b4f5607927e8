import ApiBindings.Json.Value

/-!
# Tables keyed by name

Named items in the order in which their names first came up. Putting an item under a name that is
taken keeps the place and replaces the item; every name occurs once.
-/

namespace ApiBindings.Service

open Json (putEntry keys_putEntry)

/-- Named items in order, each name once. -/
structure NameTable (α : Type) where
  entries : List (String × α)
  distinct : (entries.map Prod.fst).Nodup

namespace NameTable

variable {α β : Type}

/-- The table without items. -/
def empty : NameTable α := ⟨[], .nil⟩

instance : EmptyCollection (NameTable α) := ⟨empty⟩

instance : Inhabited (NameTable α) := ⟨empty⟩

/-- The names in order. -/
def names (t : NameTable α) : List String := t.entries.map Prod.fst

/-- The number of items. -/
def size (t : NameTable α) : Nat := t.entries.length

/-- Whether there are no items. -/
def isEmpty (t : NameTable α) : Bool := t.entries.isEmpty

/-- The item under a name. -/
def find? (t : NameTable α) (name : String) : Option α := t.entries.lookup name

/-- Puts an item under a name: in its place if the name is taken, else at the end. -/
def put (name : String) (item : α) (t : NameTable α) : NameTable α where
  entries := putEntry name item t.entries
  distinct := by
    rw [keys_putEntry]
    split
    · exact t.distinct
    next h =>
      rw [List.nodup_append]
      refine ⟨t.distinct, by simp, ?_⟩
      intro a ha b hb
      rw [List.mem_singleton] at hb
      exact fun hab => h (hb ▸ hab ▸ ha)

/-- Removes a name with its item. The others keep their order. -/
def erase (name : String) (t : NameTable α) : NameTable α where
  entries := t.entries.filter (·.1 != name)
  distinct := t.distinct.sublist (List.filter_sublist.map _)

/-- Changes every item, given its name. -/
def mapItems (f : String → α → β) (t : NameTable α) : NameTable β where
  entries := t.entries.map fun (name, item) => (name, f name item)
  distinct := by
    rw [List.map_map]
    exact t.distinct

/-- The names after an item is put. -/
theorem names_put (name : String) (item : α) (t : NameTable α) :
    (t.put name item).names = if name ∈ t.names then t.names else t.names ++ [name] :=
  keys_putEntry name item t.entries

private theorem lookup_putEntry (name other : String) (item : α) (entries : List (String × α)) :
    (putEntry name item entries).lookup other =
      if other = name then some item else entries.lookup other := by
  induction entries with
  | nil =>
    by_cases h : other = name <;> simp [putEntry, h]
  | cons e rest ih =>
    obtain ⟨k, v⟩ := e
    by_cases hk : k = name
    · subst hk
      by_cases h : other = k
      · simp [putEntry, h]
      · simp [putEntry, List.lookup_cons, beq_eq_false_iff_ne.mpr h, h]
    · by_cases h : other = k
      · subst h
        simp [putEntry, hk]
      · simp [putEntry, hk, List.lookup_cons, beq_eq_false_iff_ne.mpr h, ih]

/-- An item is found under the name it was put under, and no other name is affected. -/
theorem find?_put (name other : String) (item : α) (t : NameTable α) :
    (t.put name item).find? other = if other = name then some item else t.find? other :=
  lookup_putEntry name other item t.entries

/-- An item that is found is in the table. -/
theorem mem_entries_of_find? {t : NameTable α} {name : String} {item : α}
    (h : t.find? name = some item) : (name, item) ∈ t.entries := by
  obtain ⟨before, after, hentries, -⟩ := List.lookup_eq_some_iff.mp h
  simp [hentries]

/-- A changed item is found under its name. -/
theorem find?_mapItems (f : String → α → β) (t : NameTable α) (name : String) :
    (t.mapItems f).find? name = (t.find? name).map (f name) := by
  obtain ⟨entries, distinct⟩ := t
  simp only [find?, mapItems]
  clear distinct
  induction entries with
  | nil => rfl
  | cons e rest ih =>
    obtain ⟨k, v⟩ := e
    by_cases h : name = k
    · subst h
      simp
    · simp [List.lookup_cons, beq_eq_false_iff_ne.mpr h, ih]

/-- Tables are equal when their entries are. -/
theorem ext {s t : NameTable α} (h : s.entries = t.entries) : s = t := by
  cases s
  cases t
  cases h
  rfl

end NameTable

end ApiBindings.Service
