import ApiBindings.Proofs.Rendering
import Mathlib.Order.WellFounded

/-!
# The recursion of rendering

Rendering as one recursion over calls that share a stack: a call puts its shape on the stack, makes
its nested calls one after the other, and takes the shape off again, whether they succeed or not.
A nested call has fewer declared shapes left that are not on the stack, so the recursion has exactly
one solution and needs no bound; the solution is `render`, and it leaves every stack as it was.
-/

namespace ApiBindings.Bindings

open Service

variable {α β γ δ : Type} {d : Description} {docs : Formatter}

/-! ### Generation on a stack -/

/-- A generation that works on a stack of shapes: its report and the stack that it leaves. -/
def Stacked (α : Type) : Type := List String → Report α × List String

namespace Stacked

/-- A report that does not touch the stack. -/
def report (r : Report α) : Stacked α := fun stack => (r, stack)

/-- Changes the result. -/
def map (f : α → β) (x : Stacked α) : Stacked β := fun stack => ((x stack).1.map f, (x stack).2)

/-- Goes on with the result, if there is one, and with the stack that was left. -/
def bind (x : Stacked α) (f : α → Stacked β) : Stacked β := fun stack =>
  match (x stack).1.outcome with
  | .ok a =>
    let next := f a (x stack).2
    (⟨(x stack).1.events ++ next.1.events, next.1.outcome⟩, next.2)
  | .error e => (⟨(x stack).1.events, .error e⟩, (x stack).2)

/-- Treats the elements of a list one after the other, up to the first failure. -/
def each (f : γ → Stacked α) : List γ → Stacked (List α)
  | [] => report (.done [])
  | c :: rest => (f c).bind fun a => (each f rest).map fun as => a :: as

/-- Works with a name on top of the stack, which is taken off at the end. -/
def under (name : String) (x : Stacked α) : Stacked α := fun stack =>
  ((x (stack ++ [name])).1, (x (stack ++ [name])).2.dropLast)

private theorem each_eq_of_restores {f : γ → Stacked α} {r : γ → Report α} {l : List γ}
    {stack : List String} (h : ∀ c ∈ l, f c stack = (r c, stack)) :
    each f l stack = (Report.each r l, stack) := by
  induction l with
  | nil => rfl
  | cons c l ih =>
    have hrest := ih fun x hx => h x (by simp [hx])
    rw [each, bind, h c (by simp), Report.each_cons]
    cases hc : (r c).outcome with
    | error e => simp [Report.bind, hc]
    | ok a => simp [Report.bind, hc, map, hrest]

/-- Results may be changed one by one and all at the end where the elements restore the stack. -/
theorem each_map_eq_of_restores {f : γ → Stacked α} {r : γ → Report α} {l : List γ}
    {stack : List String} (h : ∀ c ∈ l, f c stack = (r c, stack)) (g : γ → α → β)
    (k : List β → δ) :
    ((each (fun c => (f c).map (g c)) l).map k) stack =
      ((Report.each (fun c => (r c).map (g c)) l).map k, stack) := by
  rw [map, each_eq_of_restores]
  intro c hc
  rw [map, h c hc]

private theorem under_eq_of_restores {x : Stacked α} {r : Report α} {name : String}
    {stack : List String} (h : x (stack ++ [name]) = (r, stack ++ [name])) :
    x.under name stack = (r, stack) := by
  rw [under, h, List.dropLast_concat]

end Stacked

/-! ### One call -/

/-- What gives the text of a shape at an indent, on a stack. -/
abbrev Renderer : Type := String → String → Stacked String

namespace Renderer

/-- The argument block of a structure. -/
def arguments (d : Description) (docs : Formatter) (recur : Renderer) (s : Structure) :
    Stacked String :=
  (Stacked.each (fun member : String × Member =>
    (recur indentUnit member.2.shape).map fun value =>
      { name := displayName d.metadata member.1 member.2
        value := value
        required := s.isRequired member.1
        documentation := docs.embedded? member.2.documentation : Argument })
    s.members.entries).map argumentsText

/-- The literal expression of a structure. -/
def members (d : Description) (recur : Renderer) (indent : String) (s : Structure) :
    Stacked String :=
  (Stacked.each (fun member : String × Member =>
    (recur (indent ++ indentUnit) member.2.shape).map fun value =>
      Expansion.memberText (displayName d.metadata member.1 member.2) (s.isRequired member.1)
        value)
    s.members.entries).map (bracketed indent)

/-- The text of a shape that may be shown. -/
def shape (d : Description) (docs : Formatter) (recur : Renderer) (indent : String) :
    Shape → Stacked String
  | .struct s => if indent.isEmpty then recur.arguments d docs s else recur.members d indent s
  | .list element => (recur indent element.shape).map fun text => "[" ++ text ++ ", ...]"
  | .map => .report (.done "::Dict\x7bString,String\x7d")
  | .string values => .report (.done (if values.isEmpty then "::String"
      else Text.joinOr (values.map fun v => "\"" ++ v ++ "\"")))
  | .integer | .long => .report (.done "::Int")
  | .boolean => .report (.done "::Bool")
  | .other kind => .report (.done kind)

/-- One call, given what nested calls do. -/
def once (d : Description) (docs : Formatter) (recur : Renderer) : Renderer :=
  fun indent name stack =>
    match d.shapes.find? name with
    | none => (.fail (.unknownShape name), stack)
    | some shape =>
      if stack.contains name then
        ((Report.note (.recursion name stack)).map fun _ => shape.kind, stack)
      else if indent.isEmpty && shape.structure?.isNone then
        (.fail (.notStructure name shape.kind), stack)
      else (recur.shape d docs indent shape).under name stack

/-- Whether a renderer does at every call what the recursion asks for. -/
def Solves (d : Description) (docs : Formatter) (run : Renderer) : Prop :=
  ∀ indent name stack, run indent name stack = once d docs run indent name stack

/-- Rendering with the stack as it was. -/
def ofRender (d : Description) (docs : Formatter) : Renderer :=
  fun indent name stack => (render d docs indent stack name, stack)

end Renderer

/-! ### Nested calls -/

/-- A call for the text of a shape. -/
structure Call where
  indent : String
  name : String
  stack : List String

namespace Call

/-- What a renderer does at a call. -/
def run (c : Call) (f : Renderer) : Report String × List String := f c.indent c.name c.stack

/-- The indent of the calls that the text of a shape makes. -/
def nestedIndent (indent : String) : Shape → String
  | .struct _ => indent ++ indentUnit
  | _ => indent

/-- The calls that a call makes, in order, if none of them fails. -/
def nested (d : Description) (c : Call) : List Call :=
  match d.shapes.find? c.name with
  | none => []
  | some shape =>
    if c.stack.contains c.name || (c.indent.isEmpty && shape.structure?.isNone) then []
    else shape.references.map fun next =>
      ⟨nestedIndent c.indent shape, next, c.stack ++ [c.name]⟩

private theorem mem_nested {c c' : Call} (h : c' ∈ c.nested d) :
    ∃ shape, d.shapes.find? c.name = some shape ∧ c.name ∉ c.stack ∧
      c'.stack = c.stack ++ [c.name] := by
  unfold nested at h
  split at h
  · cases h
  · next shape hfound =>
    split at h
    · cases h
    · next hguard =>
      obtain ⟨next, -, rfl⟩ := List.mem_map.mp h
      refine ⟨shape, hfound, ?_, rfl⟩
      intro hmem
      simp [hmem] at hguard

/-- The nested calls of a call that gets as far as its shape. -/
theorem nested_eq {c : Call} {shape : Shape} (hfound : d.shapes.find? c.name = some shape)
    (hnew : c.stack.contains c.name = false)
    (hshown : (c.indent.isEmpty && shape.structure?.isNone) = false) :
    c.nested d = shape.references.map fun next =>
      ⟨nestedIndent c.indent shape, next, c.stack ++ [c.name]⟩ := by
  unfold nested
  rw [hfound]
  simp only [hnew, hshown, Bool.or_self, Bool.false_eq_true, if_false]

/-- A nested call has fewer declared shapes off its stack. -/
theorem free_nested_lt {c c' : Call} (h : c' ∈ c.nested d) :
    freeShapes d c'.stack < freeShapes d c.stack := by
  obtain ⟨shape, hfound, hnew, hstack⟩ := mem_nested h
  rw [hstack]
  exact freeShapes_append_lt hfound (by simpa using hnew)

/-- Calls cannot nest for ever. -/
theorem wellFounded_nested (d : Description) :
    WellFounded fun c' c : Call => c' ∈ c.nested d :=
  Subrelation.wf free_nested_lt (InvImage.wf (fun c : Call => freeShapes d c.stack) wellFounded_lt)

private theorem length_le_free {c : Call} {calls : List Call}
    (h : (c :: calls).IsChain fun c c' => c' ∈ c.nested d) :
    calls.length ≤ freeShapes d c.stack := by
  induction calls generalizing c with
  | nil => exact Nat.zero_le _
  | cons c' calls ih =>
    obtain ⟨hnested, hrest⟩ := List.isChain_cons_cons.mp h
    have hlt := free_nested_lt hnested
    have hle := ih hrest
    rw [List.length_cons]
    omega

end Call

/-- No more shapes are free than are declared. -/
theorem freeShapes_le (d : Description) (chain : List String) :
    freeShapes d chain ≤ d.shapes.size := by
  apply (List.length_filter_le _ _).trans
  simp [NameTable.names, NameTable.size]

/-! ### The solution -/

namespace Renderer

private theorem nestedIndent_of_isEmpty {indent : String} (h : indent.isEmpty = true)
    (s : Structure) : Call.nestedIndent indent (.struct s) = indentUnit := by
  rw [String.isEmpty_iff.mp h, Call.nestedIndent, String.empty_append]

private theorem isEmpty_append_indentUnit (indent : String) :
    (indent ++ indentUnit).isEmpty = false := by
  rw [Bool.eq_false_iff]
  intro h
  have hlength := congrArg String.length (String.isEmpty_iff.mp h)
  rw [String.length_append] at hlength
  have hunit : indentUnit.length = 4 := rfl
  have hnone : ("" : String).length = 0 := rfl
  omega

private theorem shape_congr {f g : Renderer} {indent : String} {sh : Shape} {stack : List String}
    (h : ∀ next ∈ sh.references,
      f (Call.nestedIndent indent sh) next stack = g (Call.nestedIndent indent sh) next stack ∧
        (g (Call.nestedIndent indent sh) next stack).2 = stack) :
    f.shape d docs indent sh stack = g.shape d docs indent sh stack := by
  cases sh with
  | struct s =>
    have hg : ∀ member ∈ s.members.entries,
        g (Call.nestedIndent indent (.struct s)) member.2.shape stack =
          ((g (Call.nestedIndent indent (.struct s)) member.2.shape stack).1, stack) :=
      fun member hmember => Prod.ext rfl (h _ (List.mem_map_of_mem hmember)).2
    have hf : ∀ member ∈ s.members.entries,
        f (Call.nestedIndent indent (.struct s)) member.2.shape stack =
          ((g (Call.nestedIndent indent (.struct s)) member.2.shape stack).1, stack) :=
      fun member hmember => (h _ (List.mem_map_of_mem hmember)).1.trans (hg member hmember)
    cases hindent : indent.isEmpty with
    | true =>
      rw [nestedIndent_of_isEmpty hindent] at hf hg
      simp only [shape, hindent, if_true]
      unfold arguments
      rw [Stacked.each_map_eq_of_restores hf, Stacked.each_map_eq_of_restores hg]
    | false =>
      simp only [shape, hindent, Bool.false_eq_true, if_false]
      unfold members
      rw [Call.nestedIndent] at hf hg
      rw [Stacked.each_map_eq_of_restores hf, Stacked.each_map_eq_of_restores hg]
  | list element =>
    have helement := (h element.shape (by simp [Shape.references])).1
    change f indent element.shape stack = g indent element.shape stack at helement
    simp only [shape, Stacked.map, helement]
  | _ => rfl

private theorem once_congr {f g : Renderer} {c : Call}
    (h : ∀ c' ∈ c.nested d, c'.run f = c'.run g ∧ (c'.run g).2 = c'.stack) :
    c.run (once d docs f) = c.run (once d docs g) := by
  obtain ⟨indent, name, stack⟩ := c
  rw [Call.run, Call.run, once, once]
  cases hfound : d.shapes.find? name with
  | none => rfl
  | some sh =>
    dsimp only
    cases hnew : stack.contains name with
    | true => rfl
    | false =>
      cases hshown : indent.isEmpty && sh.structure?.isNone with
      | true => rfl
      | false =>
        rw [Call.nested_eq hfound hnew hshown] at h
        simp only [Bool.false_eq_true, if_false]
        rw [Stacked.under, Stacked.under, shape_congr (f := f) (g := g)]
        intro next hnext
        exact h _ (List.mem_map_of_mem hnext)

/-- Away from the top, rendering shows an expansion as a literal expression. -/
theorem render_of_indent {indent : String} (hindent : indent.isEmpty = false)
    (chain : List String) (name : String) :
    render d docs indent chain name = (expand d chain name).map (Expansion.layout indent) := by
  simp [render, hindent]

private theorem members_ofRender (indent : String) (s : Structure) (stack : List String) :
    (ofRender d docs).members d indent s stack =
      ((expandShape d.metadata (expand d stack) (.struct s)).map (Expansion.layout indent),
        stack) := by
  have hrestores : ∀ member ∈ s.members.entries,
      ofRender d docs (indent ++ indentUnit) member.2.shape stack =
        (render d docs (indent ++ indentUnit) stack member.2.shape, stack) := fun _ _ => rfl
  unfold members
  rw [Stacked.each_map_eq_of_restores hrestores]
  simp only [render_of_indent (isEmpty_append_indentUnit indent), expandShape, Report.map_map,
    Expansion.layout, Expansion.memberTexts_eq_map]
  rw [← Report.map_map (List.map _) (bracketed indent), ← Report.each_map]
  simp only [Report.map_map]

private theorem arguments_ofRender {name : String} {s : Structure} {stack : List String}
    (hfound : d.shapes.find? name = some (.struct s)) (hnew : stack.contains name = false) :
    (ofRender d docs).arguments d docs s (stack ++ [name]) =
      (render d docs "" stack name, stack ++ [name]) := by
  have hrestores : ∀ member ∈ s.members.entries,
      ofRender d docs indentUnit member.2.shape (stack ++ [name]) =
        (render d docs indentUnit (stack ++ [name]) member.2.shape, stack ++ [name]) :=
    fun _ _ => rfl
  unfold arguments
  rw [Stacked.each_map_eq_of_restores hrestores]
  have hunit : indentUnit.isEmpty = false := rfl
  rw [render, if_pos (by rfl), argumentBlock, hfound]
  simp only [hnew, Bool.false_eq_true, if_false, argumentsOf, render_of_indent hunit,
    Report.map_map]

private theorem shape_ofRender {indent name : String} {sh : Shape} {stack : List String}
    (hfound : d.shapes.find? name = some sh) (hnew : stack.contains name = false)
    (hshown : (indent.isEmpty && sh.structure?.isNone) = false) :
    (ofRender d docs).shape d docs indent sh (stack ++ [name]) =
      (render d docs indent stack name, stack ++ [name]) := by
  have hmem : name ∉ stack := by simpa using hnew
  cases hindent : indent.isEmpty with
  | true =>
    cases sh with
    | struct s =>
      rw [String.isEmpty_iff.mp hindent]
      exact arguments_ofRender hfound hnew
    | _ => simp [hindent, Shape.structure?] at hshown
  | false =>
    rw [render_of_indent hindent, expand_new hfound hmem]
    cases sh with
    | struct s =>
      simp only [shape, hindent, Bool.false_eq_true, if_false]
      exact members_ofRender indent s (stack ++ [name])
    | list element =>
      simp only [shape, Stacked.map, ofRender, render_of_indent hindent, expandShape,
        Report.map_map, Expansion.layout]
    | string values =>
      cases h : values.isEmpty <;>
        simp [shape, Stacked.report, expandShape, h, Expansion.layout]
    | _ => simp [shape, Stacked.report, expandShape, Expansion.layout]

/-- Rendering does at every call what the recursion asks for. -/
theorem solves_ofRender (d : Description) (docs : Formatter) : (ofRender d docs).Solves d docs := by
  intro indent name stack
  rw [once]
  cases hfound : d.shapes.find? name with
  | none =>
    have hnot : ∀ sh, ¬ Refused d indent stack name sh := by
      intro sh h
      rw [h.found] at hfound
      cases hfound
    rw [ofRender, render_eq_map_shown hnot, expand_undeclared hfound]
    rfl
  | some sh =>
    dsimp only
    cases hnew : stack.contains name with
    | true =>
      have hmem : name ∈ stack := by simpa using hnew
      have hnot : ∀ sh, ¬ Refused d indent stack name sh := fun sh h => h.new hmem
      rw [if_pos rfl, ofRender, render_eq_map_shown hnot, expand_recurring hfound hmem,
        Report.map_map]
      simp only [Expansion.shown_word]
    | false =>
      have hmem : name ∉ stack := by simpa using hnew
      cases hshown : indent.isEmpty && sh.structure?.isNone with
      | true =>
        obtain ⟨hempty, hflat⟩ := Bool.and_eq_true_iff.mp hshown
        have hrefused : Refused d indent stack name sh :=
          ⟨String.isEmpty_iff.mp hempty, hfound, hmem, Option.isNone_iff_eq_none.mp hflat⟩
        simp only [ofRender, render_refused hrefused, Bool.false_eq_true, if_false, if_true]
      | false =>
        simp only [Bool.false_eq_true, if_false]
        exact (Stacked.under_eq_of_restores (shape_ofRender hfound hnew hshown)).symm

/-- A renderer that does what the recursion asks for is `render`, and restores every stack. -/
theorem Solves.eq_ofRender {run : Renderer} (h : run.Solves d docs) : run = ofRender d docs := by
  suffices hcall : ∀ c : Call, c.run run = c.run (ofRender d docs) by
    funext indent name stack
    exact hcall ⟨indent, name, stack⟩
  intro c
  induction c using (Call.wellFounded_nested d).induction with
  | _ c ih =>
    have hself : c.run run = c.run (once d docs run) := h c.indent c.name c.stack
    have hrender : c.run (ofRender d docs) = c.run (once d docs (ofRender d docs)) :=
      solves_ofRender d docs c.indent c.name c.stack
    rw [hself, hrender]
    exact once_congr fun c' hc' => ⟨ih c' hc', rfl⟩

end Renderer

/-- The recursion of rendering ends on every description, from every call: each nested call has
strictly fewer declared shapes that are not on its stack, so calls nest at most one deeper than
there are declared shapes. What a call does is settled by its nested calls, and there is one
renderer that follows the recursion: `render`, with the stack as it was. -/
theorem render_recursion_ends (d : Description) (docs : Formatter) :
    (∀ c c' : Call, c' ∈ c.nested d → freeShapes d c'.stack < freeShapes d c.stack) ∧
    WellFounded (fun c' c : Call => c' ∈ c.nested d) ∧
    (∀ calls : List Call, calls.IsChain (fun c c' => c' ∈ c.nested d) →
      calls.length ≤ d.shapes.size + 1) ∧
    (∀ (c : Call) (f g : Renderer),
      (∀ c' ∈ c.nested d, c'.run f = c'.run g ∧ (c'.run g).2 = c'.stack) →
        c.run (Renderer.once d docs f) = c.run (Renderer.once d docs g)) ∧
    (∀ run : Renderer, run.Solves d docs ↔
      run = fun indent name stack => (render d docs indent stack name, stack)) := by
  refine ⟨fun c c' => Call.free_nested_lt, Call.wellFounded_nested d, ?_,
    fun c f g => Renderer.once_congr, ?_⟩
  · intro calls hchain
    cases calls with
    | nil => exact Nat.zero_le _
    | cons c calls =>
      have hdepth := Call.length_le_free hchain
      have hfree := freeShapes_le d c.stack
      rw [List.length_cons]
      omega
  · intro run
    constructor
    · exact Renderer.Solves.eq_ofRender
    · rintro rfl
      exact Renderer.solves_ofRender d docs

end ApiBindings.Bindings
