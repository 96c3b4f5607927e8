import ApiBindings.Proofs.Alike
import ApiBindings.Proofs.Recursion
import Mathlib.Logic.Function.Iterate

/-!
# What the chain does to a rendering

A rendering asks of its chain only which of the shapes that it can come to are on it. Two chains
that agree on these lead to the same outcome and cut the same shapes in the same order, although
they differ all the way down and each cut shows its own chain.

Where no such shape is on the chain and none leads back to itself, there is nothing to cut. The
recursion without a chain and without a guard ends then, and gives what the guarded one gives.
-/

namespace ApiBindings.Bindings

open Service
open Relation (ReflTransGen TransGen)

variable {d : Description} {docs : Formatter} {indent name : String} {chain chain' : List String}

/-! ### Reports without their chains -/

/-- An event without the chain it happened on. -/
def Event.withoutChain : Event → Event
  | recursion shape _ => recursion shape []
  | e => e

namespace Report

variable {α β γ : Type}

/-- A report without the chains of its events. -/
def withoutChains (r : Report α) : Report α := ⟨r.events.map Event.withoutChain, r.outcome⟩

private theorem withoutChains_map (f : α → β) (r : Report α) :
    (r.map f).withoutChains = r.withoutChains.map f := rfl

private theorem withoutChains_bind (r : Report α) (f : α → Report β) :
    (r.bind f).withoutChains = r.withoutChains.bind fun a => (f a).withoutChains := by
  cases h : r.outcome <;> simp [bind, withoutChains, h]

private theorem withoutChains_each (f : γ → Report α) (l : List γ) :
    (each f l).withoutChains = each (fun c => (f c).withoutChains) l := by
  induction l with
  | nil => rfl
  | cons c l ih =>
    rw [each_cons, each_cons, withoutChains_bind, ← ih]
    rfl

end Report

/-- The chains of a shape's expansion are those of its references. -/
theorem withoutChains_expandShape (m : Metadata) (recur : String → Report Expansion)
    (shape : Shape) :
    (expandShape m recur shape).withoutChains =
      expandShape m (fun next => (recur next).withoutChains) shape := by
  cases shape with
  | struct s =>
    rw [expandShape, expandShape, Report.withoutChains_map, Report.withoutChains_each]
    rfl
  | _ => rfl

/-! ### Chains that agree -/

/-- Two chains hold the same of the shapes that references lead to from a name, the name
included. -/
def ChainsAgree (d : Description) (name : String) (chain chain' : List String) : Prop :=
  ∀ x, ReflTransGen d.Refers name x → d.Declares x → (x ∈ chain ↔ x ∈ chain')

/-- References start at the name itself. -/
theorem ChainsAgree.self {shape : Shape} (h : ChainsAgree d name chain chain')
    (hfound : d.shapes.find? name = some shape) : name ∈ chain ↔ name ∈ chain' :=
  h name .refl (Description.declares_iff.mpr ⟨shape, hfound⟩)

/-- Chains that agree still do after a step that puts the name on both. -/
theorem ChainsAgree.next {next : String} (h : ChainsAgree d name chain chain')
    (hstep : d.Refers name next) : ChainsAgree d next (chain ++ [name]) (chain' ++ [name]) := by
  intro x hx hdeclared
  rw [List.mem_append, List.mem_append, h x (.head hstep hx) hdeclared]

private theorem ChainsAgree.expand_eq (h : ChainsAgree d name chain chain') :
    (expand d chain name).withoutChains = (expand d chain' name).withoutChains := by
  induction chain, name using descent_induction (d := d) generalizing chain' with
  | undeclared chain name hfound => rw [expand_undeclared hfound, expand_undeclared hfound]
  | recurring chain name shape hfound hmem =>
    rw [expand_recurring hfound hmem, expand_recurring hfound ((h.self hfound).mp hmem)]
    rfl
  | new chain name shape hfound hnew ih =>
    have hnew' : name ∉ chain' := mt (h.self hfound).mpr hnew
    rw [expand_new hfound hnew, expand_new hfound hnew', withoutChains_expandShape,
      withoutChains_expandShape]
    have hreferences : ∀ next ∈ shape.references,
        (expand d (chain ++ [name]) next).withoutChains =
          (expand d (chain' ++ [name]) next).withoutChains :=
      fun next hnext => ih next hnext (h.next (Description.refers_of_mem hfound hnext))
    exact (ShapesAlike.refl id shape).expandShape_eq hreferences

private theorem ChainsAgree.refused_iff (h : ChainsAgree d name chain chain') {shape : Shape} :
    Refused d indent chain name shape ↔ Refused d indent chain' name shape := by
  constructor
  · rintro ⟨hindent, hfound, hnew, hflat⟩
    exact ⟨hindent, hfound, mt (h.self hfound).mpr hnew, hflat⟩
  · rintro ⟨hindent, hfound, hnew, hflat⟩
    exact ⟨hindent, hfound, mt (h.self hfound).mp hnew, hflat⟩

/-- Renderings below chains that agree differ in the chains of their events only. -/
theorem ChainsAgree.render_eq (h : ChainsAgree d name chain chain') (docs : Formatter)
    (indent : String) :
    (render d docs indent chain name).withoutChains =
      (render d docs indent chain' name).withoutChains := by
  by_cases hrefused : ∃ shape, Refused d indent chain name shape
  · obtain ⟨shape, hshape⟩ := hrefused
    rw [render_refused hshape, render_refused (h.refused_iff.mp hshape)]
  · have hshown : ∀ shape, ¬ Refused d indent chain name shape := fun shape hshape =>
      hrefused ⟨shape, hshape⟩
    have hshown' : ∀ shape, ¬ Refused d indent chain' name shape := fun shape hshape =>
      hshown shape (h.refused_iff.mpr hshape)
    rw [render_eq_map_shown hshown, render_eq_map_shown hshown', Report.withoutChains_map,
      Report.withoutChains_map, h.expand_eq]

/-! ### The recursion without a chain -/

/-- What gives the text of a shape at an indent without a chain, if it ends. -/
abbrev FreeRenderer : Type := String → String → ExceptT Failure Option String

namespace FreeRenderer

/-- The argument block of a structure. -/
def arguments (d : Description) (docs : Formatter) (recur : FreeRenderer) (s : Structure) :
    ExceptT Failure Option String := do
  let arguments ← s.members.entries.mapM fun member => do
    let value ← recur indentUnit member.2.shape
    pure { name := displayName d.metadata member.1 member.2
           value := value
           required := s.isRequired member.1
           documentation := docs.embedded? member.2.documentation : Argument }
  pure (argumentsText arguments)

/-- The literal expression of a structure. -/
def members (d : Description) (recur : FreeRenderer) (indent : String) (s : Structure) :
    ExceptT Failure Option String := do
  let texts ← s.members.entries.mapM fun member => do
    let value ← recur (indent ++ indentUnit) member.2.shape
    pure (Expansion.memberText (displayName d.metadata member.1 member.2) (s.isRequired member.1)
      value)
  pure (bracketed indent texts)

/-- The text of a shape that may be shown. -/
def shape (d : Description) (docs : Formatter) (recur : FreeRenderer) (indent : String) :
    Shape → ExceptT Failure Option String
  | .struct s => if indent.isEmpty then recur.arguments d docs s else recur.members d indent s
  | .list element => do
    let text ← recur indent element.shape
    pure ("[" ++ text ++ ", ...]")
  | .map => pure "::Dict\x7bString,String\x7d"
  | .string values => pure (if values.isEmpty then "::String"
      else Text.joinOr (values.map fun v => "\"" ++ v ++ "\""))
  | .integer | .long => pure "::Int"
  | .boolean => pure "::Bool"
  | .other kind => pure kind

/-- One call without a chain and without a guard, given what nested calls do. -/
def once (d : Description) (docs : Formatter) (recur : FreeRenderer) : FreeRenderer :=
  fun indent name =>
    match d.shapes.find? name with
    | none => throw (.unknownShape name)
    | some shape =>
      if indent.isEmpty && shape.structure?.isNone then throw (.notStructure name shape.kind)
      else recur.shape d docs indent shape

/-- Whether a renderer without a chain does at every call what the recursion asks for. -/
def Solves (d : Description) (docs : Formatter) (run : FreeRenderer) : Prop :=
  ∀ indent name, run indent name = once d docs run indent name

/-- Unfolding the recursion does not change what follows it. -/
theorem Solves.iterate_eq {run : FreeRenderer} (h : run.Solves d docs) (depth : Nat) :
    (once d docs)^[depth] run = run :=
  Function.iterate_fixed (funext fun indent => funext fun name => (h indent name).symm) depth

end FreeRenderer

/-- A report as the outcome of a recursion that has ended. -/
def Report.ended {α : Type} (r : Report α) : ExceptT Failure Option α :=
  ExceptT.mk (some r.outcome)

namespace Report

variable {α β γ δ : Type}

private theorem ended_bind (r : Report α) (f : α → Report β) :
    (r.ended >>= fun a => (f a).ended) = (r.bind f).ended := by
  cases h : r.outcome <;>
    simp [ended, Report.bind, h, Bind.bind, ExceptT.bind, ExceptT.bindCont, ExceptT.mk]

private theorem ended_map (f : α → β) (r : Report α) :
    (r.ended >>= fun a => pure (f a)) = (r.map f).ended := by
  cases h : r.outcome <;>
    simp [ended, Report.map, h, Bind.bind, ExceptT.bind, ExceptT.bindCont, ExceptT.mk] <;> rfl

private theorem mapM_eq_ended {f : γ → ExceptT Failure Option α} {r : γ → Report α} {l : List γ}
    (h : ∀ c ∈ l, f c = (r c).ended) : l.mapM f = (each r l).ended := by
  induction l with
  | nil => rfl
  | cons c l ih =>
    rw [List.mapM_cons, h c (by simp), ih fun c hc => h c (by simp [hc]), each_cons, ← ended_bind]
    congr 1
    funext a
    exact ended_map _ _

private theorem mapM_map_eq_ended {f : γ → ExceptT Failure Option α} {r : γ → Report α} {l : List γ}
    (h : ∀ c ∈ l, f c = (r c).ended) (g : γ → α → β) (k : List β → δ) :
    (l.mapM (fun c => f c >>= fun a => pure (g c a)) >>= fun bs => pure (k bs)) =
      ((each (fun c => (r c).map (g c)) l).map k).ended := by
  rw [← ended_map]
  congr 1
  apply mapM_eq_ended
  intro c hc
  rw [h c hc, ended_map]

end Report

/-- Nothing is on a chain that references lead to from a name, and nothing of it leads back to
itself. -/
structure IsUncut (d : Description) (chain : List String) (name : String) : Prop where
  new : ∀ x, ReflTransGen d.Refers name x → d.Declares x → x ∉ chain
  acyclic : ¬ ∃ v, ReflTransGen d.Refers name v ∧ TransGen d.Refers v v

/-- What is not cut is not cut one step further down, with the name on the chain. -/
theorem IsUncut.next {next : String} (h : IsUncut d chain name) (hstep : d.Refers name next) :
    IsUncut d (chain ++ [name]) next where
  new := by
    intro x hx hdeclared hmem
    rcases List.mem_append.mp hmem with hmem | hmem
    · exact h.new x (.head hstep hx) hdeclared hmem
    · rw [List.mem_singleton.mp hmem] at hx
      exact h.acyclic ⟨name, .refl, .head' hstep hx⟩
  acyclic := fun ⟨v, hv, hcycle⟩ => h.acyclic ⟨v, .head hstep hv, hcycle⟩

private theorem render_eq_shape {shape : Shape} (hfound : d.shapes.find? name = some shape)
    (hnew : name ∉ chain) (hshown : (indent.isEmpty && shape.structure?.isNone) = false) :
    render d docs indent chain name =
      ((Renderer.ofRender d docs).shape d docs indent shape (chain ++ [name])).1 := by
  have hcontains : chain.contains name = false := by simpa using hnew
  have hstep := congrArg Prod.fst (Renderer.solves_ofRender d docs indent name chain)
  rw [Renderer.once, hfound] at hstep
  simp only [hcontains, hshown, Bool.false_eq_true, if_false] at hstep
  exact hstep

namespace FreeRenderer

variable {recur : FreeRenderer} {s : Structure}

private theorem arguments_eq_ended (h : ∀ member ∈ s.members.entries,
      recur indentUnit member.2.shape = (render d docs indentUnit chain member.2.shape).ended) :
    recur.arguments d docs s = ((Renderer.ofRender d docs).arguments d docs s chain).1.ended := by
  have hrestores : ∀ member ∈ s.members.entries,
      Renderer.ofRender d docs indentUnit member.2.shape chain =
        (render d docs indentUnit chain member.2.shape, chain) := fun _ _ => rfl
  unfold arguments Renderer.arguments
  rw [Stacked.each_map_eq_of_restores hrestores]
  exact Report.mapM_map_eq_ended h _ _

private theorem members_eq_ended (h : ∀ member ∈ s.members.entries,
      recur (indent ++ indentUnit) member.2.shape =
        (render d docs (indent ++ indentUnit) chain member.2.shape).ended) :
    recur.members d indent s = ((Renderer.ofRender d docs).members d indent s chain).1.ended := by
  have hrestores : ∀ member ∈ s.members.entries,
      Renderer.ofRender d docs (indent ++ indentUnit) member.2.shape chain =
        (render d docs (indent ++ indentUnit) chain member.2.shape, chain) := fun _ _ => rfl
  unfold members Renderer.members
  rw [Stacked.each_map_eq_of_restores hrestores]
  exact Report.mapM_map_eq_ended h _ _

private theorem shape_eq_ended {shape : Shape} (h : ∀ next ∈ shape.references, ∀ indent,
      recur indent next = (render d docs indent chain next).ended) :
    recur.shape d docs indent shape =
      ((Renderer.ofRender d docs).shape d docs indent shape chain).1.ended := by
  cases shape with
  | struct s =>
    have hmember : ∀ indent, ∀ member ∈ s.members.entries,
        recur indent member.2.shape = (render d docs indent chain member.2.shape).ended :=
      fun indent member hmember => h _ (List.mem_map_of_mem hmember) indent
    cases hindent : indent.isEmpty with
    | true =>
      simp only [FreeRenderer.shape, Renderer.shape, hindent, if_true]
      exact arguments_eq_ended (hmember _)
    | false =>
      simp only [FreeRenderer.shape, Renderer.shape, hindent, Bool.false_eq_true, if_false]
      exact members_eq_ended (hmember _)
  | list element =>
    simp only [FreeRenderer.shape, h element.shape (by simp [Shape.references])]
    exact Report.ended_map _ _
  | _ => rfl

end FreeRenderer

/-- A rendering in which nothing can be cut is that of the recursion without a chain, unfolded
deeper than there are declared shapes off the chain. What is put for the calls further down does not
matter, since there are none. -/
theorem IsUncut.iterate_eq (h : IsUncut d chain name) {depth : Nat}
    (hdepth : freeShapes d chain < depth) (recur : FreeRenderer) :
    (FreeRenderer.once d docs)^[depth] recur indent name =
      (render d docs indent chain name).ended := by
  induction chain, name using descent_induction (d := d) generalizing indent depth with
  | recurring chain name shape hfound hmem =>
    exact absurd hmem (h.new name .refl (Description.declares_iff.mpr ⟨shape, hfound⟩))
  | undeclared chain name hfound =>
    obtain ⟨rest, rfl⟩ := Nat.exists_eq_succ_of_ne_zero (Nat.ne_zero_of_lt hdepth)
    have hstep := congrArg Prod.fst (Renderer.solves_ofRender d docs indent name chain)
    rw [Renderer.once, hfound] at hstep
    rw [Function.iterate_succ_apply', FreeRenderer.once, hfound]
    exact congrArg Report.ended hstep.symm
  | new chain name shape hfound hnew ih =>
    obtain ⟨rest, rfl⟩ := Nat.exists_eq_succ_of_ne_zero (Nat.ne_zero_of_lt hdepth)
    have hless : freeShapes d (chain ++ [name]) < rest :=
      Nat.lt_of_lt_of_le (freeShapes_append_lt hfound (by simpa using hnew))
        (Nat.le_of_lt_succ hdepth)
    have hnext : ∀ next ∈ shape.references, ∀ indent,
        (FreeRenderer.once d docs)^[rest] recur indent next =
          (render d docs indent (chain ++ [name]) next).ended := fun next hnext indent =>
      ih next hnext (h.next (Description.refers_of_mem hfound hnext)) hless
    rw [Function.iterate_succ_apply', FreeRenderer.once, hfound]
    cases hshown : indent.isEmpty && shape.structure?.isNone with
    | true =>
      obtain ⟨hempty, hflat⟩ := Bool.and_eq_true_iff.mp hshown
      have hrefused : Refused d indent chain name shape :=
        ⟨String.isEmpty_iff.mp hempty, hfound, hnew, Option.isNone_iff_eq_none.mp hflat⟩
      rw [render_refused hrefused]
      simp only [hshown, if_true]
      rfl
    | false =>
      rw [render_eq_shape hfound hnew hshown]
      simp only [hshown, Bool.false_eq_true, if_false]
      exact FreeRenderer.shape_eq_ended hnext

private theorem IsUncut.events_render_eq (h : IsUncut d chain name) :
    (render d docs indent chain name).events = [] := by
  have hexpand : (expand d chain name).events = [] := by
    rw [List.eq_nil_iff_forall_not_mem]
    intro e he
    obtain ⟨v, hv, hdeclared, hrecurs, -⟩ := exists_visit_of_mem_events he
    obtain ⟨passed, walk, hchain, hnodup, -⟩ := mem_visits_iff.mp hv
    rw [hchain, List.mem_append] at hrecurs
    rcases hrecurs with hmem | hmem
    · exact h.new v.shape walk.reflTransGen hdeclared hmem
    · exact h.acyclic (Description.exists_cycle_iff.mpr ⟨_, _, _, walk, hnodup, hmem⟩)
  by_cases hrefused : ∃ shape, Refused d indent chain name shape
  · obtain ⟨shape, hshape⟩ := hrefused
    rw [render_refused hshape]
    rfl
  · rw [render_eq_map_shown (not_exists.mp hrefused)]
    exact hexpand

/-! ### The chain as a set -/

/-- The chain of a rendering matters only as the set of shapes on it that references lead to from
the root: two chains that hold the same of these, in whatever order and how often, and whatever
else is on them, give the same outcome and cut the same shapes in the same order. If none of these
shapes is on the chain and none leads back to itself, nothing is cut, and the outcome is that of
the recursion without a chain and without a guard: of every renderer that follows it, and of the
recursion itself, which ends after as many steps down as there are declared shapes, whatever would
be done further down. Both hold with an indent and without. -/
theorem render_chain_as_set {root : String}
    (h : ∀ x, ReflTransGen d.Refers root x → d.Declares x → (x ∈ chain ↔ x ∈ chain')) :
    (render d docs indent chain root).outcome = (render d docs indent chain' root).outcome ∧
    (render d docs indent chain root).events.map Event.withoutChain =
      (render d docs indent chain' root).events.map Event.withoutChain ∧
    ((∀ x, ReflTransGen d.Refers root x → d.Declares x → x ∉ chain) →
      (¬ ∃ v, ReflTransGen d.Refers root v ∧ TransGen d.Refers v v) →
      (render d docs indent chain root).events = [] ∧
      (∀ recur : FreeRenderer,
        ((FreeRenderer.once d docs)^[d.shapes.size + 1] recur indent root).run =
          some (render d docs indent chain root).outcome) ∧
      (∀ run : FreeRenderer, run.Solves d docs →
        (run indent root).run = some (render d docs indent chain root).outcome)) := by
  obtain ⟨hevents, houtcome⟩ := Report.mk.inj (ChainsAgree.render_eq h docs indent)
  refine ⟨houtcome, hevents, ?_⟩
  intro hnew hacyclic
  have huncut : IsUncut d chain root := ⟨hnew, hacyclic⟩
  have hends : ∀ recur, (FreeRenderer.once d docs)^[d.shapes.size + 1] recur indent root =
      (render d docs indent chain root).ended :=
    huncut.iterate_eq (Nat.lt_succ_of_le (freeShapes_le d chain))
  refine ⟨huncut.events_render_eq, hends, ?_⟩
  intro run hrun
  have hsame := hends run
  rw [hrun.iterate_eq] at hsame
  exact hsame

/-- Parcels with boxes in boxes, and addresses. -/
def parcelDescription : Description :=
  ((((Description.ofMetadata (.ofRequired .json "parcel" "1")).putShape "Boxes"
    (.list (.ofShape "Box"))).putShape "Box"
    (.struct ⟨(NameTable.empty.put "Inner" (.ofShape "Boxes")).put "Return" (.ofShape "Address"),
      ["Return"], none⟩)).putShape "Address"
    (.struct ⟨(NameTable.empty.put "Street" (.ofShape "Text")).put "City" (.ofShape "Text"),
      ["City"], none⟩)).putShape "Text" (.string [])

/-- Two chains with the list of boxes on them cut a box alike. Below a parcel an address is what it
is without a chain, as an argument block and as a literal expression. -/
theorem render_parcel :
    (render parcelDescription id "" ["Boxes", "Parcel"] "Box").outcome =
      (render parcelDescription id "" ["Crate", "Boxes", "Boxes"] "Box").outcome ∧
    (render parcelDescription id "" ["Boxes", "Parcel"] "Box").events =
      [.recursion "Boxes" ["Boxes", "Parcel", "Box"]] ∧
    (render parcelDescription id "" ["Crate", "Boxes", "Boxes"] "Box").events =
      [.recursion "Boxes" ["Crate", "Boxes", "Boxes", "Box"]] ∧
    (∀ recur, ((FreeRenderer.once parcelDescription id)^[5] recur "" "Address").run =
      some (.ok "## \x60Street = ::String\x60\n\n## \x60City = ::String\x60 -- *Required*")) ∧
    (∀ recur, ((FreeRenderer.once parcelDescription id)^[5] recur indentUnit "Address").run =
      some (.ok "[\n    \"Street\" => ::String,\n    \"City\" => <required> ::String\n]")) := by
  have hbox : ∀ x ∈ ["Box", "Boxes", "Address", "Text"],
      ∀ y ∈ parcelDescription.referencesOf x, y ∈ ["Box", "Boxes", "Address", "Text"] := by
    decide +kernel
  have haddress : ∀ x ∈ ["Address", "Text"],
      ∀ y ∈ parcelDescription.referencesOf x, y = "Text" := by
    decide +kernel
  have htext : parcelDescription.referencesOf "Text" = [] := by decide +kernel
  have hreach : ∀ x, ReflTransGen parcelDescription.Refers "Address" x →
      x ∈ ["Address", "Text"] := by
    intro x hx
    apply Description.mem_of_reflTransGen ?_ (by simp) hx
    intro x hx y hy
    simp [haddress x hx y hy]
  have hacyclic : ¬ ∃ v, ReflTransGen parcelDescription.Refers "Address" v ∧
      TransGen parcelDescription.Refers v v := by
    rintro ⟨v, hv, hcycle⟩
    obtain ⟨u, hu, hlast⟩ := Relation.TransGen.tail'_iff.mp hcycle
    obtain rfl := haddress u (hreach u (hv.trans hu)) v hlast
    obtain ⟨w, hfirst, -⟩ := Relation.TransGen.head'_iff.mp hcycle
    rw [Description.Refers, htext] at hfirst
    cases hfirst
  have hshared : ∀ x ∈ ["Box", "Boxes", "Address", "Text"],
      (x ∈ ["Boxes", "Parcel"] ↔ x ∈ ["Crate", "Boxes", "Boxes"]) := by decide
  have happart : ∀ x ∈ ["Address", "Text"], x ∉ ["Parcel"] := by decide
  have hfree : ∀ indent recur,
      ((FreeRenderer.once parcelDescription id)^[5] recur indent "Address").run =
        some (render parcelDescription id indent ["Parcel"] "Address").outcome := fun indent =>
    ((render_chain_as_set fun _ _ _ => Iff.rfl).2.2
      (fun x hx _ => happart x (hreach x hx)) hacyclic).2.1
  refine ⟨(render_chain_as_set ?_).1, by with_unfolding_all rfl, by with_unfolding_all rfl,
    fun recur => (hfree "" recur).trans ?_, fun recur => (hfree indentUnit recur).trans ?_⟩
  · intro x hx _
    exact hshared x (Description.mem_of_reflTransGen hbox (by simp) hx)
  · with_unfolding_all rfl
  · with_unfolding_all rfl

end ApiBindings.Bindings
