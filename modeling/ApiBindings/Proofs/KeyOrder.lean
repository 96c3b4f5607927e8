import ApiBindings.Proofs.Record
import ApiBindings.Service.Document
import Mathlib.Data.List.Forall2

/-!
# The order of keys

Where the keys of an object are data they are kept in order. An item is put under its key at the
end, unless the key was there before, so if the keys of an object are distinct, a table has its
names in the order of the keys, and a tree has in every object the keys of the document.
-/

namespace ApiBindings.Json

variable {α : Type} {room : Nat}

/-- The keys of entries in order, as far as their spellings stand for texts. -/
def keysOf (es : List (Literal × Outline)) : List String := es.filterMap fun e => e.1.key?

private theorem keysOf_cons {e : Literal × Outline} {key : String} (h : e.1.key? = some key)
    (es : List (Literal × Outline)) : keysOf (e :: es) = key :: keysOf es := by
  simp [keysOf, h]

namespace Outline

/-- The keys of an object in order. -/
def keys : Outline → List String
  | object es _ => keysOf es
  | _ => []

/-- The values of an object, or the elements of an array, in order. -/
def children : Outline → List Outline
  | object es _ => es.map Prod.snd
  | array items _ => items
  | leaf _ => []

/-- No object has a key twice, at any depth. -/
inductive DistinctKeys : Outline → Prop
  | leaf (l : Leaf) : DistinctKeys (.leaf l)
  | array {items : List Outline} {ending : ArrayEnd} (h : ∀ o ∈ items, DistinctKeys o) :
      DistinctKeys (.array items ending)
  | object {es : List (Literal × Outline)} {ending : ObjectEnd}
      (distinct : (keysOf es).Nodup) (h : ∀ e ∈ es, DistinctKeys e.2) :
      DistinctKeys (.object es ending)

/-- A simple value has no keys. -/
@[simp] theorem distinctKeys_leaf (l : Leaf) : (leaf l).DistinctKeys := .leaf l

/-- The keys of an array are those of its elements. -/
@[simp] theorem distinctKeys_array_iff {items : List Outline} {ending : ArrayEnd} :
    (array items ending).DistinctKeys ↔ ∀ o ∈ items, o.DistinctKeys := by
  constructor
  · rintro (_ | h)
    exact h
  · exact .array

/-- The keys of an object are its own and those of its values. -/
@[simp] theorem distinctKeys_object_iff {es : List (Literal × Outline)} {ending : ObjectEnd} :
    (object es ending).DistinctKeys ↔ (keysOf es).Nodup ∧ ∀ e ∈ es, e.2.DistinctKeys := by
  constructor
  · rintro (_ | _ | ⟨distinct, h⟩)
    exact ⟨distinct, h⟩
  · exact fun h => .object h.1 h.2

/-- An object with distinct keys has each of them once. -/
theorem DistinctKeys.nodup_keys {o : Outline} (h : o.DistinctKeys) : o.keys.Nodup := by
  cases h with
  | leaf | array => exact .nil
  | object distinct => exact distinct

/-- What is inside has distinct keys too. -/
theorem DistinctKeys.of_mem_children {o child : Outline} (h : o.DistinctKeys)
    (hchild : child ∈ o.children) : child.DistinctKeys := by
  cases h with
  | leaf => cases hchild
  | array h => exact h child hchild
  | object _ h =>
    obtain ⟨e, he, rfl⟩ := List.mem_map.mp hchild
    exact h e he

/-- What is given to a name is inside. -/
theorem mem_children_of_given {names : List String} {name : String} {o child : Outline}
    (h : child ∈ o.given names name) : child ∈ o.children := by
  cases o with
  | leaf => cases h
  | array items ending =>
    obtain ⟨⟨_, _⟩, hplace, rfl⟩ := List.mem_map.mp h
    exact (List.of_mem_zip (List.mem_filter.mp hplace).1).2
  | object es ending =>
    obtain ⟨e, he, rfl⟩ := List.mem_map.mp h
    exact List.mem_map_of_mem (List.mem_filter.mp he).1

end Outline

/-! ### Items put in order -/

/-- Elements that are read one by one give what is read of them, in order. -/
theorem forall₂_of_mapM {β : Type} {f : β → Except Fault α} {l : List β} {found : List α}
    (h : l.mapM f = .ok found) : List.Forall₂ (fun b a => f b = .ok a) l found := by
  induction l generalizing found with
  | nil =>
    cases h
    exact .nil
  | cons b l ih =>
    rw [List.mapM_cons] at h
    obtain ⟨a, ha, hrest⟩ := bind_eq_ok_iff.mp h
    obtain ⟨others, hothers, heq⟩ := bind_eq_ok_iff.mp hrest
    cases heq
    exact .cons ha (ih hothers)

private theorem exists_items_of_foldlM {c : Codec α} {es : List (Literal × Outline)}
    {read items : List (String × α)} (h : es.foldlM (c.entry putEntry room) read = .ok items)
    (hkeys : (read.map Prod.fst ++ keysOf es).Nodup) :
    ∃ found, items = read ++ found ∧ keysOf es = found.map Prod.fst ∧
      List.Forall₂ (fun o a => c.decode room o = .ok a) (es.map Prod.snd) (found.map Prod.snd) := by
  induction es generalizing read with
  | nil =>
    cases h
    exact ⟨[], by simp, rfl, .nil⟩
  | cons e es ih =>
    rw [List.foldlM_cons] at h
    obtain ⟨next, hentry, hrest⟩ := bind_eq_ok_iff.mp h
    obtain ⟨key, hkey, hitem⟩ := bind_eq_ok_iff.mp hentry
    obtain ⟨a, ha, rfl⟩ := map_eq_ok_iff.mp hitem
    rw [keysOf_cons (Literal.key?_eq_some_iff.mpr hkey)] at hkeys ⊢
    have hnew : key ∉ read.map Prod.fst := fun hmem =>
      (List.nodup_append.mp hkeys).2.2 key hmem key (by simp) rfl
    rw [putEntry_of_not_mem hnew] at hrest
    obtain ⟨found, rfl, hnames, hvalues⟩ := ih hrest (by simpa using hkeys)
    exact ⟨(key, a) :: found, by simp, by rw [hnames, List.map_cons], .cons ha hvalues⟩

/-! ### Trees -/

/-- A tree that shows an outline: the same simple values, elements in order, and objects with the
same keys in the same order. -/
inductive Shows : Outline → Value → Prop
  | leaf {l : Leaf} {v : Value} (h : l.value = .ok v) : Shows (.leaf l) v
  | array {items : List Outline} {ending : ArrayEnd} {values : List Value}
      (h : List.Forall₂ Shows items values) : Shows (.array items ending) (.array values)
  | object {es : List (Literal × Outline)} {ending : ObjectEnd} {entries : List (String × Value)}
      (keys : keysOf es = entries.map Prod.fst)
      (values : List.Forall₂ Shows (es.map Prod.snd) (entries.map Prod.snd)) :
      Shows (.object es ending) (.object entries)

/-- The entries of a tree are read and put like items. -/
theorem ofEntries_eq_foldlM (room : Nat) (read : List (String × Value))
    (es : List (Literal × Outline)) :
    Value.ofEntries room read es = es.foldlM (Codec.tree.entry putEntry room) read := by
  induction es generalizing read with
  | nil => rfl
  | cons e es ih =>
    obtain ⟨key, o⟩ := e
    rw [Value.ofEntries, List.foldlM_cons]
    simp only [ih]
    cases hkey : key.text with
    | error fault => simp [Codec.entry, hkey, Except.bind, bind]
    | ok name =>
      cases hvalue : Value.ofOutline room o <;>
        simp [Codec.entry, Codec.tree, hkey, hvalue, Except.bind, Except.map, bind]

private theorem ofItems_eq_mapM (room : Nat) (items : List Outline) :
    Value.ofItems room items = items.mapM (Value.ofOutline room) := by
  induction items with
  | nil => rfl
  | cons o items ih =>
    rw [Value.ofItems, List.mapM_cons, ih]
    rfl

/-- A tree that is read from an outline with distinct keys shows it. -/
theorem shows_of_ofOutline {o : Outline} {v : Value} (hkeys : o.DistinctKeys)
    (h : Value.ofOutline room o = .ok v) : Shows o v := by
  induction room generalizing o v with
  | zero =>
    cases o with
    | leaf => exact .leaf h
    | array => cases h
    | object => cases h
  | succ room ih =>
    have hinside : ∀ {children : List Outline} {values : List Value},
        (∀ child ∈ children, child.DistinctKeys) →
          List.Forall₂ (fun o v => Value.ofOutline room o = .ok v) children values →
            List.Forall₂ Shows children values := fun hchildren hvalues =>
      ((List.forall₂_and_left _ _).mpr ⟨hchildren, hvalues⟩).imp fun _ _ h => ih h.1 h.2
    cases o with
    | leaf => exact .leaf h
    | array items ending =>
      rw [Value.ofOutline, bind_eq_ok_iff] at h
      obtain ⟨values, hvalues, hend⟩ := h
      obtain ⟨-, rfl⟩ := finish_eq_ok_iff.mp hend
      rw [ofItems_eq_mapM] at hvalues
      exact .array (hinside (fun _ => hkeys.of_mem_children) (forall₂_of_mapM hvalues))
    | object es ending =>
      rw [Value.ofOutline, bind_eq_ok_iff] at h
      obtain ⟨entries, hentries, hend⟩ := h
      obtain rfl := eq_of_finishObject hend
      rw [ofEntries_eq_foldlM] at hentries
      obtain ⟨found, rfl, hnames, hvalues⟩ := exists_items_of_foldlM hentries hkeys.nodup_keys
      exact .object hnames (hinside (fun _ => hkeys.of_mem_children) hvalues)

end ApiBindings.Json

namespace ApiBindings.Service

open Json

variable {α : Type} {room : Nat}

/-! ### Tables -/

/-- A table lists what objects hold: its names are their keys and its items belong to their values,
in order. Null and whatever else is no object holds nothing. -/
structure Lists (R : Outline → α → Prop) (given : List Outline) (t : NameTable α) : Prop where
  names : t.names = given.flatMap Outline.keys
  items : List.Forall₂ R (given.flatMap Outline.children) (t.entries.map Prod.snd)

private theorem lists_empty {R : Outline → α → Prop} {given : List Outline}
    (hkeys : given.flatMap Outline.keys = []) (hchildren : given.flatMap Outline.children = []) :
    Lists R given ∅ := by
  refine ⟨hkeys.symm, ?_⟩
  rw [hchildren]
  exact .nil

/-- Items that belong to values in one sense do so in another one that follows. -/
theorem Lists.imp {R S : Outline → α → Prop} {given : List Outline} {t : NameTable α}
    (h : Lists R given t) (himp : ∀ o ∈ given.flatMap Outline.children, ∀ a, R o a → S o a) :
    Lists S given t :=
  ⟨h.names, ((List.forall₂_and_left _ _).mpr ⟨himp, h.items⟩).imp fun _ _ h => h.1 _ h.2⟩

private theorem entries_foldlM_put {c : Codec α} {es : List (Literal × Outline)} {t u : NameTable α}
    (h : es.foldlM (c.entry NameTable.put room) t = .ok u) :
    es.foldlM (c.entry putEntry room) t.entries = .ok u.entries := by
  induction es generalizing t with
  | nil =>
    cases h
    rfl
  | cons e es ih =>
    rw [List.foldlM_cons] at h ⊢
    obtain ⟨next, hentry, hrest⟩ := bind_eq_ok_iff.mp h
    obtain ⟨key, hkey, hitem⟩ := bind_eq_ok_iff.mp hentry
    obtain ⟨a, ha, rfl⟩ := map_eq_ok_iff.mp hitem
    exact bind_eq_ok_iff.mpr ⟨_, bind_eq_ok_iff.mpr
      ⟨key, hkey, map_eq_ok_iff.mpr ⟨a, ha, rfl⟩⟩, ih hrest⟩

/-- A table that is read from an object with distinct keys lists what it holds. -/
theorem lists_of_decode {c : Codec α} {o : Outline} {t : NameTable α} (hkeys : o.DistinctKeys)
    (h : (tableCodec c).decode (room + 1) o = .ok t) :
    Lists (fun o a => c.decode room o = .ok a) [o] t := by
  cases o with
  | leaf => cases h
  | array => cases h
  | object es ending =>
    obtain ⟨found, hfound, hend⟩ := bind_eq_ok_iff.mp h
    obtain rfl := eq_of_finishObject hend
    obtain ⟨items, hitems, hnames, hvalues⟩ :=
      exists_items_of_foldlM (entries_foldlM_put hfound) hkeys.nodup_keys
    have hentries : found.entries = items := hitems
    refine ⟨?_, ?_⟩
    · rw [List.flatMap_singleton, NameTable.names, hentries]
      exact hnames.symm
    · rw [List.flatMap_singleton, hentries]
      exact hvalues

/-- A field for a table that may be missing lists what is given to it. -/
theorem lists_of_reads {c : Codec α} {f : Json.Field (NameTable α)} {given : List Outline}
    {t : NameTable α} (hcodec : f.codec = tableCodec c) (hmissing : f.missing? = some ∅)
    (hkeys : ∀ o ∈ given, o.DistinctKeys) (h : f.Reads (room + 1) given t) :
    Lists (fun o a => c.decode room o = .ok a) given t := by
  match given with
  | [] =>
    obtain rfl : ∅ = t := Option.some.inj (hmissing.symm.trans h)
    exact lists_empty rfl rfl
  | [o] =>
    have hread : f.codec.decode (room + 1) o = .ok t := h
    rw [hcodec] at hread
    exact lists_of_decode (hkeys o (by simp)) hread
  | _ :: _ :: _ => exact h.elim

/-- A field for a table that may be missing or null lists what is given to it. -/
theorem lists_of_reads_optional {c : Codec α} {f : Json.Field (Option (NameTable α))}
    {given : List Outline} {t? : Option (NameTable α)} (hcodec : f.codec = (tableCodec c).optional)
    (hmissing : f.missing? = some none) (hkeys : ∀ o ∈ given, o.DistinctKeys)
    (h : f.Reads (room + 1) given t?) :
    Lists (fun o a => c.decode room o = .ok a) given (t?.getD ∅) := by
  match given with
  | [] =>
    obtain rfl : none = t? := Option.some.inj (hmissing.symm.trans h)
    exact lists_empty rfl rfl
  | [o] =>
    have hread : f.codec.decode (room + 1) o = .ok t? := h
    rw [hcodec] at hread
    by_cases hnull : o = .leaf .null
    · subst hnull
      cases hread
      exact lists_empty rfl rfl
    · rw [Codec.decode_optional _ hnull] at hread
      obtain ⟨t, ht, rfl⟩ := map_eq_ok_iff.mp hread
      exact lists_of_decode (hkeys o (by simp)) ht
  | _ :: _ :: _ => exact h.elim

end ApiBindings.Service
