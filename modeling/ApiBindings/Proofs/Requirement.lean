import ApiBindings.Proofs.Alike

/-!
# Required members

A structure lists the names of its required members, and the list may hold names twice, in any
order, and names of no member. Only which members it names counts: structures that differ in nothing
else are shown alike at every depth, so their descriptions have one generation, and they split their
members alike.
-/

namespace ApiBindings.Service

variable {d d' : Description} {s s' : Structure}

/-! ### Lists that name the same members -/

/-- Structures that differ at most in their lists of required names, and these name the same
members. -/
structure Structure.RequiresAlike (s s' : Structure) : Prop where
  members : s.members = s'.members
  documentation : s.documentation = s'.documentation
  required : ∀ name ∈ s.members.names, name ∈ s.required ↔ name ∈ s'.required

/-- Shapes that differ at most in the list of required names of a structure. -/
inductive Shape.RequiresAlike : Shape → Shape → Prop
  | struct {s s' : Structure} (h : s.RequiresAlike s') : RequiresAlike (struct s) (struct s')
  | same (shape : Shape) : RequiresAlike shape shape

/-- Descriptions that differ at most in the lists of required names of any of their structures. -/
structure Description.RequiresAlike (d d' : Description) : Prop where
  metadata : d.metadata = d'.metadata
  documentation : d.documentation = d'.documentation
  operations : d.operations = d'.operations
  examples : d.examples = d'.examples
  shapes : List.Forall₂ (fun entry entry' => entry.1 = entry'.1 ∧ entry.2.RequiresAlike entry'.2)
    d.shapes.entries d'.shapes.entries

private theorem NameTable.find?_rel {α β : Type} {R : α → β → Prop} {t : NameTable α}
    {u : NameTable β}
    (h : List.Forall₂ (fun entry entry' => entry.1 = entry'.1 ∧ R entry.2 entry'.2) t.entries
      u.entries) (name : String) : Option.Rel R (t.find? name) (u.find? name) := by
  rw [find?, find?]
  generalize t.entries = entries, u.entries = entries' at h
  induction h with
  | nil => exact .none
  | @cons entry entry' _ _ hentry _ ih =>
    obtain ⟨key, item⟩ := entry
    obtain ⟨key', item'⟩ := entry'
    obtain ⟨rfl, hitem⟩ := hentry
    rw [List.lookup_cons, List.lookup_cons]
    cases name == key with
    | true => exact .some hitem
    | false => exact ih

namespace Structure

private theorem RequiresAlike.isRequired_eq (h : s.RequiresAlike s') {entry : String × Member}
    (hentry : entry ∈ s.members.entries) : s.isRequired entry.1 = s'.isRequired entry.1 := by
  rw [Bool.eq_iff_iff, isRequired, isRequired, List.contains_iff_mem, List.contains_iff_mem]
  exact h.required entry.1 (List.mem_map_of_mem hentry)

private theorem RequiresAlike.partitionMembers_eq (h : s.RequiresAlike s') :
    s'.partitionMembers = s.partitionMembers := by
  rw [partitionMembers, partitionMembers, List.partition_eq_filter_filter,
    List.partition_eq_filter_filter, ← h.members, Prod.mk.injEq]
  constructor <;> apply List.filter_congr
  · intro entry hentry
    exact (h.isRequired_eq hentry).symm
  · intro entry hentry
    exact congrArg not (h.isRequired_eq hentry).symm

/-- Two parts of a structure's members: the required ones and the others. Both are in order, and
each member is in one of them, once. -/
structure IsSplit (s : Structure) (parts : List (String × Member) × List (String × Member)) :
    Prop where
  required_sublist : parts.1.Sublist s.members.entries
  optional_sublist : parts.2.Sublist s.members.entries
  perm : (parts.1 ++ parts.2).Perm s.members.entries
  distinct : ((parts.1 ++ parts.2).map Prod.fst).Nodup
  mem_required_iff : ∀ entry ∈ s.members.entries, entry ∈ parts.1 ↔ entry.1 ∈ s.required

/-- The members of a structure are split in order. -/
theorem isSplit_partitionMembers (s : Structure) : s.IsSplit s.partitionMembers := by
  rw [partitionMembers, List.partition_eq_filter_filter]
  have hperm := List.filter_append_perm (fun entry => s.isRequired entry.1) s.members.entries
  refine ⟨List.filter_sublist, List.filter_sublist, hperm, ?_, ?_⟩
  · exact (hperm.map Prod.fst).nodup_iff.mpr s.members.distinct
  · intro entry hentry
    have hrequired : s.isRequired entry.1 = true ↔ entry.1 ∈ s.required := List.contains_iff_mem
    rw [List.mem_filter, hrequired, and_iff_right hentry]

end Structure

end ApiBindings.Service

namespace ApiBindings.Bindings

open Service

variable {d d' : Description} {s s' : Structure}

/-! ### Generations -/

private theorem structuresAlike_of_requiresAlike (docs : Formatter) (h : s.RequiresAlike s') :
    StructuresAlike docs docs s s' where
  members := by
    rw [← h.members]
    refine List.forall₂_same.mpr fun member hmember => ?_
    exact ⟨rfl, rfl, rfl, h.isRequired_eq hmember, rfl⟩
  documentation := by rw [h.documentation]

private theorem lookupsAlike_of_requiresAlike (docs : Formatter) (h : d.RequiresAlike d')
    (name : String) : LookupsAlike d docs d' docs name := by
  have halike {shape shape' : Shape} (hshape : shape.RequiresAlike shape') :
      ShapesAlike docs docs shape shape' := by
    cases hshape with
    | struct h => exact .struct (structuresAlike_of_requiresAlike docs h)
    | same => exact .refl docs shape
  have hrel := NameTable.find?_rel h.shapes name
  rw [LookupsAlike]
  revert hrel
  cases d.shapes.find? name <;> cases d'.shapes.find? name <;> rintro ⟨⟩
  · exact .none
  · exact .some (halike ‹_›)

/-- Descriptions that require the same members look alike. -/
theorem descriptionsAlike_of_requiresAlike (docs : Formatter) (h : d.RequiresAlike d') :
    DescriptionsAlike d docs d' docs where
  metadata := h.metadata
  documentation := by rw [h.documentation]
  operations := by
    rw [← h.operations]
    refine List.forall₂_same.mpr fun entry _ => ?_
    refine ⟨rfl, rfl, rfl, rfl, rfl, rfl, ?_, ?_, ?_⟩
    · exact fun _ _ x _ => lookupsAlike_of_requiresAlike docs h x
    · exact fun name _ => lookupsAlike_of_requiresAlike docs h name
    · rw [Description.examplesFor, Description.examplesFor, h.examples]

/-- The list of required names counts as a set of members. Whatever lists of the same members stand
in the structures of a description, its generation has the same events and the same outcome; and
each structure splits its members in the same two parts, in order and each member once. -/
theorem required_names_count_as_set (h : d.RequiresAlike d') :
    (∀ (docs : Formatter) (chosen : Option String),
      generate d docs chosen = generate d' docs chosen) ∧
    ∀ name s, d.shapes.find? name = some (.struct s) →
      ∃ s', d'.shapes.find? name = some (.struct s') ∧ s.RequiresAlike s' ∧
        s'.partitionMembers = s.partitionMembers ∧ s.IsSplit s.partitionMembers := by
  constructor
  · intro docs chosen
    exact generate_congr (descriptionsAlike_of_requiresAlike docs h) chosen
  · intro name s hfound
    have hrel := NameTable.find?_rel h.shapes name
    rw [hfound] at hrel
    generalize hfound' : d'.shapes.find? name = found' at hrel
    cases hrel with
    | some hshape =>
      have hsplit := s.isSplit_partitionMembers
      cases hshape with
      | @struct _ s' halike => exact ⟨s', rfl, halike, halike.partitionMembers_eq, hsplit⟩
      | same => exact ⟨s, rfl, ⟨rfl, rfl, fun _ _ => .rfl⟩, rfl, hsplit⟩

/-- An order of items, each of which needs a key. The lists of required names are given. -/
def orderDescription (ofOrder ofItem : List String) : Description where
  metadata := .ofRequired .json "orders" "2024-01-01"
  documentation := none
  operations := NameTable.empty.put "PutOrder"
    ⟨"PutOrder", .postRoot, some "Order", none, [], none⟩
  shapes :=
    (((NameTable.empty.put "Order" (.struct
      ⟨((NameTable.empty.put "Note" (.ofShape "Text")).put "Items" (.ofShape "Items")).put "By"
        (.ofShape "Text"), ofOrder, none⟩)).put "Items" (.list (.ofShape "Item"))).put "Item"
      (.struct ⟨(NameTable.empty.put "Key" (.ofShape "Text")).put "Count" (.ofShape "Text"), ofItem,
        none⟩)).put "Text" (.string [])
  examples := ∅

/-- Names of no member, repetitions and another order do not show. -/
theorem orders_require_alike :
    ∃ d d' : Description, d = orderDescription ["By", "Items", "By", "Date"] ["Key"] ∧
      d' = orderDescription ["Items", "By"] ["Size", "Key", "Key"] ∧ d.RequiresAlike d' ∧
      (∃ bundle, (generate d id none).outcome = .ok bundle) ∧
      generate d id none = generate d' id none ∧
      ∀ s, d.shapes.find? "Order" = some (.struct s) →
        (s.partitionMembers.1.map Prod.fst = ["Items", "By"] ∧
          s.partitionMembers.2.map Prod.fst = ["Note"]) ∧ s.IsSplit s.partitionMembers := by
  have halike : (orderDescription ["By", "Items", "By", "Date"] ["Key"]).RequiresAlike
      (orderDescription ["Items", "By"] ["Size", "Key", "Key"]) := by
    refine ⟨rfl, rfl, rfl, rfl, .cons ⟨rfl, .struct ⟨rfl, rfl, ?_⟩⟩ (.cons ⟨rfl, .same _⟩
      (.cons ⟨rfl, .struct ⟨rfl, rfl, ?_⟩⟩ (.cons ⟨rfl, .same _⟩ .nil)))⟩ <;> decide
  obtain ⟨hgenerate, hstructures⟩ := required_names_count_as_set halike
  refine ⟨_, _, rfl, rfl, halike, ⟨_, by with_unfolding_all rfl⟩, hgenerate id none, ?_⟩
  intro s hfound
  obtain ⟨-, -, -, -, hsplit⟩ := hstructures "Order" s hfound
  refine ⟨?_, hsplit⟩
  cases hfound
  exact ⟨rfl, rfl⟩

end ApiBindings.Bindings
