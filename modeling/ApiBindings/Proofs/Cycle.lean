import ApiBindings.Proofs.Rendering

/-!
# Where expansions are cut

An expansion that starts with nothing on the chain follows every reference except those that come
back to a shape it is inside of. Each of these is reported once, in the order of the text, and its
kind stands in the text where the shape would be.
-/

namespace ApiBindings.Bindings

open Service
open Service.Description (Walk)

variable {d : Description} {chain : List String} {name : String}

/-! ### Shapes inside an expansion -/

private theorem kind_of_refers {shape : Shape} {next : String}
    (hfound : d.shapes.find? name = some shape) (h : d.Refers name next) :
    shape.kind = "structure" ∨ shape.kind = "list" := by
  rw [Description.Refers, Description.referencesOf_eq hfound] at h
  cases shape with
  | struct s => exact .inl rfl
  | list element => exact .inr rfl
  | _ => cases h

private theorem looks_of_expand {e : Expansion} (he : (expand d chain name).outcome = .ok e) :
    ∃ shape, d.shapes.find? name = some shape ∧
      if name ∈ chain then e = .word shape.kind else e.Shows d.metadata shape := by
  cases hfound : d.shapes.find? name with
  | none =>
    rw [expand_undeclared hfound] at he
    cases he
  | some shape =>
    refine ⟨shape, rfl, ?_⟩
    split
    · next hmem =>
      rw [expand_recurring hfound hmem] at he
      cases he
      rfl
    · next hnew =>
      rw [expand_new hfound hnew] at he
      exact (outcome_expandShape_eq_ok_iff.mp he).1

private theorem children_recurring {e : Expansion} (he : (expand d chain name).outcome = .ok e)
    (hmem : name ∈ chain) : e.children = [] := by
  obtain ⟨shape, -, hlooks⟩ := looks_of_expand he
  rw [if_pos hmem] at hlooks
  rw [hlooks]
  rfl

private theorem children_new {e : Expansion} (he : (expand d chain name).outcome = .ok e)
    (hnew : name ∉ chain) :
    List.Forall₂ (fun next child => (expand d (chain ++ [name]) next).outcome = .ok child)
      (d.referencesOf name) e.children := by
  obtain ⟨shape, hfound, -⟩ := looks_of_expand he
  rw [expand_new hfound hnew] at he
  rw [Description.referencesOf_eq hfound]
  exact (outcome_expandShape_eq_ok_iff.mp he).2

/-- What is at a position inside an expansion is the expansion of the shape at the end of a walk,
below the shapes that the walk leaves: no shape twice, and none of the chain. -/
theorem at?_expand_iff {e sub : Expansion} {position : List Nat}
    (he : (expand d chain name).outcome = .ok e) :
    e.at? position = some sub ↔
      ∃ passed v, d.Walk name position passed v ∧ passed.Nodup ∧ (∀ x ∈ passed, x ∉ chain) ∧
        (expand d (chain ++ passed) v).outcome = .ok sub := by
  induction position generalizing chain name e with
  | nil =>
    constructor
    · intro h
      cases h
      exact ⟨[], name, .stay name, .nil, by simp, by simpa using he⟩
    · rintro ⟨passed, v, walk, -, -, hsub⟩
      obtain ⟨rfl, rfl⟩ := Walk.nil_iff.mp walk
      rw [List.append_nil, he] at hsub
      rw [Expansion.at?, Except.ok.inj hsub]
  | cons i position ih =>
    rw [Expansion.at?, Option.bind_eq_some_iff]
    constructor
    · rintro ⟨child, hchild, hsub⟩
      have hnew : name ∉ chain := by
        intro hmem
        rw [children_recurring he hmem] at hchild
        cases hchild
      obtain ⟨next, hnext, hexpand⟩ := exists_getElem?_of_forall₂ (children_new he hnew).flip hchild
      obtain ⟨passed, v, walk, hnodup, hpassed, hv⟩ := (ih hexpand).mp hsub
      obtain ⟨hnodup', hpassed'⟩ := clear_cons_iff.mpr ⟨hnew, hnodup, hpassed⟩
      exact ⟨name :: passed, v, .step hnext walk, hnodup', hpassed', by simpa using hv⟩
    · rintro ⟨passed, v, walk, hnodup, hpassed, hv⟩
      obtain ⟨next, rest, hnext, tail, rfl⟩ := Walk.cons_iff.mp walk
      obtain ⟨hnew, hrest, hbelow⟩ := clear_cons_iff.mp ⟨hnodup, hpassed⟩
      obtain ⟨child, hchild, hexpand⟩ := exists_getElem?_of_forall₂ (children_new he hnew) hnext
      exact ⟨child, hchild, (ih hexpand).mpr ⟨rest, v, tail, hrest, hbelow, by simpa using hv⟩⟩

private theorem exists_at? {e : Expansion} {position : List Nat} {passed : List String} {v : String}
    (he : (expand d chain name).outcome = .ok e) (walk : d.Walk name position passed v)
    (hnodup : passed.Nodup) (hpassed : ∀ x ∈ passed, x ∉ chain) :
    ∃ sub, e.at? position = some sub := by
  have hdeclared := exists_outcome_expand_eq_ok_iff.mp ⟨e, he⟩
  obtain ⟨sub, hsub⟩ : ∃ sub, (expand d (chain ++ passed) v).outcome = .ok sub := by
    rw [exists_outcome_expand_eq_ok_iff]
    intro w hw
    obtain ⟨rest, walk', hchain, hclear⟩ := mem_visits_iff.mp hw
    -- Seen from the top, `w` is at the end of both walks.
    have hvisit : (⟨position ++ w.position, w.chain, w.shape⟩ : Visit) ∈ visits d chain name := by
      rw [mem_visits_iff]
      exact ⟨passed ++ rest, walk.append walk', by simp [hchain],
        clear_append_iff.mpr ⟨⟨hnodup, hpassed⟩, hclear⟩⟩
    exact hdeclared ⟨position ++ w.position, w.chain, w.shape⟩ hvisit
  exact ⟨sub, (at?_expand_iff he).mpr ⟨passed, v, walk, hnodup, hpassed, hsub⟩⟩

/-! ### Cuts -/

/-- A position below a root where an expansion comes back to a shape that it is inside of: a walk
leads there that leaves no shape twice and ends in one that it left. -/
structure IsCut (d : Description) (root : String) (v : Visit) : Prop where
  walk : d.Walk root v.position v.chain v.shape
  simple : v.chain.Nodup
  back : v.shape ∈ v.chain

/-- The cuts are the recurring shapes among the visited positions. -/
theorem mem_filter_recurs_iff {root : String} {v : Visit} :
    v ∈ (visits d [] root).filter Visit.recurs ↔ IsCut d root v := by
  rw [List.mem_filter, mem_visits_iff]
  constructor
  · rintro ⟨⟨passed, walk, hchain, hnodup, -⟩, hrecurs⟩
    rw [List.nil_append] at hchain
    subst hchain
    exact ⟨walk, hnodup, List.contains_iff_mem.mp hrecurs⟩
  · rintro ⟨walk, hnodup, hback⟩
    exact ⟨⟨v.chain, walk, by simp, hnodup, by simp⟩, List.contains_iff_mem.mpr hback⟩

/-- The log entry for a cut. -/
def Visit.warning (v : Visit) : LogEntry :=
  ⟨.warning, "recursive shape reference, rendering kind tag instead",
    [("shape", v.shape), ("stack", " -> ".intercalate v.chain)]⟩

/-- An entry of an argument block shows a value under a name: in its heading, or in a fence at its
end if the value takes several lines. -/
structure ShowsValue (name value entry : String) : Prop where
  short : '\n' ∉ value.toList →
    ∃ back, entry = "## \x60" ++ name ++ " = " ++ value ++ "\x60" ++ back
  long : '\n' ∈ value.toList →
    ∃ front, entry = front ++ "\n\x60\x60\x60\n " ++ name ++ " = " ++ value ++ "\n\x60\x60\x60"

/-- The text of an argument shows its value. -/
private theorem showsValue_text (a : Argument) : ShowsValue a.name a.value a.text where
  short := by
    intro hvalue
    have hshort : ¬a.isLong = true := by simpa [Argument.isLong] using hvalue
    simp only [Argument.text, Argument.heading, if_neg hshort, String.append_assoc]
    exact ⟨_, rfl⟩
  long := by
    intro hvalue
    have hlong : a.isLong = true := by simpa [Argument.isLong] using hvalue
    simp only [Argument.text, if_pos hlong, ← String.append_assoc]
    exact ⟨_, rfl⟩

/-- The text of a rendering holds an expansion of its root: laid out at the indent; or without an
indent, in a block with an entry for each member of the root, which shows the part of the expansion
that the member is, laid out one level in. -/
structure HoldsExpansion (d : Description) (indent root : String) (e : Expansion)
    (text : String) : Prop where
  nested : indent ≠ "" → text = e.layout indent
  topLevel : indent = "" → ∃ (s : Structure) (entries : List String),
    d.shapes.find? root = some (.struct s) ∧ text = "\n\n".intercalate entries ∧
    entries.length = s.members.entries.length ∧
    ∀ i member, s.members.entries[i]? = some member → ∃ entry part,
      entries[i]? = some entry ∧ e.at? [i] = some part ∧
        ShowsValue (displayName d.metadata member.1 member.2) (part.layout indentUnit) entry

private theorem exists_member_of_map_eq {α β γ : Type} {f : α → γ} {g : β → γ} {l : List α}
    {m : List β} (h : l.map f = m.map g) {i : Nat} {b : β} (hb : m[i]? = some b) :
    ∃ a, l[i]? = some a ∧ f a = g b := by
  have hi : (l.map f)[i]? = some (g b) := by rw [h, List.getElem?_map, hb, Option.map_some]
  rw [List.getElem?_map, Option.map_eq_some_iff] at hi
  exact hi

/-- The block of arguments that the members of a structure are made into shows each of them. -/
theorem holdsExpansion_argumentsText {root : String} {s : Structure}
    {members : List (String × Bool × Expansion)} (hfound : d.shapes.find? root = some (.struct s))
    (hmembers : members.map (fun member => (member.1, member.2.1)) =
      s.members.entries.map fun member =>
        (displayName d.metadata member.1 member.2, s.isRequired member.1)) (docs : Formatter) :
    HoldsExpansion d "" root (.struct members) (argumentsText (argumentsFrom docs s members)) where
  nested := fun h => absurd rfl h
  topLevel := by
    intro _
    have hlength : members.length = s.members.entries.length := by
      simpa using congrArg List.length hmembers
    refine ⟨s, (argumentsFrom docs s members).map Argument.text, hfound, rfl, ?_, ?_⟩
    · simp [argumentsFrom, hlength]
    · intro i member hmember
      obtain ⟨shown, hshown, heq⟩ := exists_member_of_map_eq hmembers hmember
      obtain ⟨hname, -⟩ := Prod.mk.inj heq
      rw [← hname]
      refine ⟨_, shown.2.2, ?_, ?_, showsValue_text
        { name := shown.1
          value := shown.2.2.layout indentUnit
          required := shown.2.1
          documentation := docs.embedded? member.2.documentation }⟩
      · rw [List.getElem?_map, argumentsFrom, List.getElem?_zipWith, hmember, hshown]
        rfl
      · rw [Expansion.at?, Expansion.children, List.getElem?_map, hshown]
        rfl

/-- What is rendered with nothing on the chain is the text of an expansion, with the same events. -/
theorem expand_of_render {docs : Formatter} {indent root text : String}
    (h : (render d docs indent [] root).outcome = .ok text) :
    ∃ e, (expand d [] root).outcome = .ok e ∧ HoldsExpansion d indent root e text ∧
      (render d docs indent [] root).events = (expand d [] root).events := by
  have hnot : ∀ shape, ¬ Refused d indent [] root shape := by
    intro shape hrefused
    rw [render_refused hrefused] at h
    cases h
  rw [render_eq_map_shown hnot] at h ⊢
  obtain ⟨e, he, rfl⟩ := (Report.outcome_map_eq_ok_iff _ _ _).mp h
  refine ⟨e, he, ?_, rfl⟩
  by_cases hindent : indent = ""
  · subst hindent
    obtain ⟨shape, hfound, hlooks⟩ := looks_of_expand he
    rw [if_neg List.not_mem_nil] at hlooks
    cases hstruct : shape.structure? with
    | none => exact absurd ⟨rfl, hfound, List.not_mem_nil, hstruct⟩ (hnot shape)
    | some s =>
      cases shape with
      | struct s =>
        obtain ⟨members, rfl, hmembers⟩ := hlooks
        have hshown : (Expansion.struct members).shown d docs "" root =
            argumentsText (argumentsFrom docs s members) := by
          have hempty : ("" : String).isEmpty = true := rfl
          simp only [Expansion.shown, hfound, hempty]
        rw [hshown]
        exact holdsExpansion_argumentsText hfound hmembers docs
      | _ => cases hstruct
  · have hshown : e.shown d docs indent root = e.layout indent := by
      simp [Expansion.shown, hindent]
    exact ⟨fun _ => hshown, fun h => absurd h hindent⟩

/-- The text of an expansion, position by position: at each end of a walk that leaves no shape
twice there is the kind of the shape if the walk left it, which is then a structure or a list, and
else what looks like the shape; there are no other positions. -/
structure CutText (d : Description) (root : String) (e : Expansion) : Prop where
  looks : ∀ position sub, e.at? position = some sub → ∃ chain v shape,
    d.Walk root position chain v ∧ chain.Nodup ∧ d.shapes.find? v = some shape ∧
      if v ∈ chain then sub = .word shape.kind ∧ (shape.kind = "structure" ∨ shape.kind = "list")
      else sub.Shows d.metadata shape
  complete : ∀ position chain v, d.Walk root position chain v → chain.Nodup →
    ∃ sub, e.at? position = some sub

private theorem cutText_of_expand {root : String} {e : Expansion}
    (he : (expand d [] root).outcome = .ok e) : CutText d root e where
  looks := by
    intro position sub hsub
    obtain ⟨chain, v, walk, hnodup, -, hv⟩ := (at?_expand_iff he).mp hsub
    obtain ⟨shape, hfound, hlooks⟩ := looks_of_expand hv
    rw [List.nil_append] at hlooks
    refine ⟨chain, v, shape, walk, hnodup, hfound, ?_⟩
    split
    · next hmem =>
      rw [if_pos hmem] at hlooks
      obtain ⟨next, hnext⟩ := walk.exists_refers hmem
      exact ⟨hlooks, kind_of_refers hfound hnext⟩
    · next hmem => rwa [if_neg hmem] at hlooks
  complete := fun position chain v walk hnodup => exists_at? he walk hnodup (by simp)

/-- Rendering with an empty stack warns of every cut, once and in the order of the positions, and
of nothing else. The text holds an expansion in which the kind of the shape stands at the cuts and
nowhere else, and every position of it has a place of its own in the text around it. There is a
warning if and only if a cycle is in reach. -/
theorem render_cuts_exactly_at_cycles {d : Description} {docs : Formatter}
    {indent root text : String} (h : (render d docs indent [] root).outcome = .ok text) :
    ∃ (cuts : List Visit) (e : Expansion),
      (render d docs indent [] root).events.map Event.logEntry = cuts.map Visit.warning ∧
      cuts.Pairwise (fun v w => v.position < w.position) ∧
      (∀ v, v ∈ cuts ↔ IsCut d root v) ∧
      HoldsExpansion d indent root e text ∧
      CutText d root e ∧
      (∀ outer part position sub, e.at? outer = some part → part.at? position = some sub →
        ∀ indent, ∃ front inner back,
          part.layout indent = front ++ sub.layout inner ++ back ∧
          ∀ x, (part.put position x).layout indent = front ++ x.layout inner ++ back) ∧
      (∀ kind inner, (Expansion.word kind).layout inner = kind) ∧
      ((render d docs indent [] root).events ≠ [] ↔
        ∃ v, Relation.ReflTransGen d.Refers root v ∧ Relation.TransGen d.Refers v v) := by
  obtain ⟨e, he, htext, hevents⟩ := expand_of_render h
  have hcuts := hevents.trans (events_expand he)
  refine ⟨(visits d [] root).filter Visit.recurs, e, ?_,
    (pairwise_visits d [] root).sublist List.filter_sublist, fun v => mem_filter_recurs_iff, htext,
    cutText_of_expand he, ?_, fun _ _ => rfl, ?_⟩
  · rw [hcuts, List.map_map]
    rfl
  · intro outer part position sub _ hsub indent
    obtain ⟨front, inner, back, hplace⟩ := exists_place indent hsub
    refine ⟨front, inner, back, ?_, hplace⟩
    rw [← hplace sub, put_of_at? hsub]
  · rw [hcuts, Description.exists_cycle_iff, ne_eq, List.map_eq_nil_iff,
      List.eq_nil_iff_forall_not_mem]
    simp only [mem_filter_recurs_iff, not_forall, not_not]
    constructor
    · rintro ⟨v, hwalk, hsimple, hback⟩
      exact ⟨v.position, v.chain, v.shape, hwalk, hsimple, hback⟩
    · rintro ⟨position, chain, v, hwalk, hsimple, hback⟩
      exact ⟨⟨position, chain, v⟩, hwalk, hsimple, hback⟩

/-- Three shapes that refer to each other in a ring, one of them twice. -/
def ringDescription : Description :=
  (((Description.ofMetadata (.ofRequired .json "ring" "1")).putShape "A"
    (.struct ⟨NameTable.empty.put "ToB" (.ofShape "B"), [], none⟩)).putShape "B"
    (.struct ⟨(NameTable.empty.put "ToA" (.ofShape "A")).put "Items" (.ofShape "As"), ["Items"],
      none⟩)).putShape "As" (.list (.ofShape "A"))

/-- The ring with its first shape as a literal. -/
def ringLiteral : String :=
  "[\"ToB\" => [\n        \"ToA\" => structure,\n        \"Items\" => <required> [structure, ...]\n    ]]"

/-- The ring with its second shape as an argument block. -/
def ringBlock : String :=
  "## \x60ToA = [\"ToB\" => structure]\x60\n\n## \x60Items = [[\"ToB\" => structure], ...]\x60 -- *Required*"

/-- Both ways back in the ring are cut, in a literal as well as in an argument block. -/
theorem render_ring_cuts :
    (render ringDescription id indentUnit [] "A").outcome = .ok ringLiteral ∧
    (∃ (cuts : List Visit) (e : Expansion),
      (render ringDescription id indentUnit [] "A").events.map Event.logEntry =
        cuts.map Visit.warning ∧
      (∀ v, v ∈ cuts ↔ IsCut ringDescription "A" v) ∧
      HoldsExpansion ringDescription indentUnit "A" e ringLiteral ∧
      CutText ringDescription "A" e) ∧
    (render ringDescription id "" [] "B").outcome = .ok ringBlock ∧
    ∃ (cuts : List Visit) (e : Expansion),
      (render ringDescription id "" [] "B").events.map Event.logEntry =
        cuts.map Visit.warning ∧
      (∀ v, v ∈ cuts ↔ IsCut ringDescription "B" v) ∧
      HoldsExpansion ringDescription "" "B" e ringBlock ∧ CutText ringDescription "B" e := by
  have hliteral : (render ringDescription id indentUnit [] "A").outcome = .ok ringLiteral := by
    with_unfolding_all rfl
  have hblock : (render ringDescription id "" [] "B").outcome = .ok ringBlock := by
    with_unfolding_all rfl
  obtain ⟨cuts, e, hwarnings, -, hcuts, hholds, hcut, -⟩ := render_cuts_exactly_at_cycles hliteral
  obtain ⟨cuts', e', hwarnings', -, hcuts', hholds', hcut', -⟩ :=
    render_cuts_exactly_at_cycles hblock
  exact ⟨hliteral, ⟨cuts, e, hwarnings, hcuts, hholds, hcut⟩, hblock,
    cuts', e', hwarnings', hcuts', hholds', hcut'⟩

end ApiBindings.Bindings
