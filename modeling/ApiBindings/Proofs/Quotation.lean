import ApiBindings.Proofs.Docstring
import ApiBindings.Proofs.Transport

/-!
# Literals in generated code

The call of a dispatcher and its keywords hold texts of the description between quotes, just as
they are. A reader of such a literal gets the text back, and stops at the quote that was meant to
close it, exactly if the text has no quote, no backslash and no dollar. So it depends on a few texts
of a request whether all of its literals stand for what they were made from.
-/

namespace ApiBindings.Text

/-! ### Reading a literal between quotes -/

/-- How a language reads the source behind a backslash: the characters that an escape stands for,
and the source behind it. No escape stands for more characters than it is written with. -/
structure Escapes where
  read : List Char → Option (List Char × List Char)
  progress : ∀ {source value rest}, read source = some (value, rest) → rest.length < source.length
  bounded : ∀ {source value rest}, read source = some (value, rest) →
    value.length + rest.length ≤ source.length

namespace Escapes

/-- Escapes of one character each, by a table of what they stand for. -/
def ofTable (table : List (Char × Char)) : Escapes where
  read
    | [] => none
    | c :: rest => (table.lookup c).map fun x => ([x], rest)
  progress {source value rest} h := by
    cases source with
    | nil => cases h
    | cons c source =>
      obtain ⟨x, -, heq⟩ := Option.map_eq_some_iff.mp h
      cases heq
      simp
  bounded {source value rest} h := by
    cases source with
    | nil => cases h
    | cons c source =>
      obtain ⟨x, -, heq⟩ := Option.map_eq_some_iff.mp h
      cases heq
      simp [Nat.add_comm]

/-- The escapes that most languages have, and that of the dollar. -/
def common : Escapes :=
  ofTable [('"', '"'), ('\\', '\\'), ('$', '$'), ('n', '\n'), ('r', '\r'), ('t', '\t')]

/-- Reads source behind the opening quote of a literal: the characters that it stands for, and the
source behind the first quote that is not escaped. -/
def literalChars (e : Escapes) : List Char → Except LiteralFault (List Char × List Char)
  | [] => .error .unclosed
  | '"' :: rest => .ok ([], rest)
  | '$' :: _ => .error .interpolation
  | '\\' :: source =>
    match _h : e.read source with
    | none => .error ((source.head?.map .strayEscape).getD .unclosed)
    | some (value, rest) => (literalChars e rest).map fun read => (value ++ read.1, read.2)
  | c :: source => (literalChars e source).map fun read => (c :: read.1, read.2)
termination_by source => source.length
decreasing_by
  · have := e.progress _h
    grind
  · grind

/-- Reads source behind the opening quote of a literal: the text that it stands for, and the source
behind its closing quote. -/
def readLiteral (e : Escapes) (source : String) : Except LiteralFault (String × String) :=
  (e.literalChars source.toList).map fun read => (String.ofList read.1, String.ofList read.2)

end Escapes

/-- Whether a character always stands for itself in a literal. -/
def isPlainChar (c : Char) : Bool := c != '"' && c != '\\' && c != '$'

/-- Text that stands for itself between quotes. -/
def IsPlain (text : String) : Prop := ∀ c ∈ text.toList, isPlainChar c = true

instance (text : String) : Decidable (IsPlain text) :=
  decidable_of_iff (text.toList.all isPlainChar = true) List.all_eq_true

namespace Escapes

variable {e : Escapes}

private theorem literalChars_cons {c : Char} (h : isPlainChar c = true) (source : List Char) :
    e.literalChars (c :: source) =
      (e.literalChars source).map fun read => (c :: read.1, read.2) := by
  simp only [isPlainChar, Bool.and_eq_true, bne_iff_ne] at h
  rw [literalChars] <;> grind

/-- Plain text stands for itself, whatever is behind it. -/
theorem literalChars_append {s : List Char} (h : ∀ c ∈ s, isPlainChar c = true)
    (rest : List Char) :
    e.literalChars (s ++ rest) =
      (e.literalChars rest).map fun read => (s ++ read.1, read.2) := by
  induction s with
  | nil => cases hrest : e.literalChars rest <;> simp [hrest, Except.map]
  | cons c s ih =>
    rw [List.cons_append, literalChars_cons (h c (by simp)), ih fun x hx => h x (by simp [hx])]
    cases e.literalChars rest <;> rfl

private theorem exists_of_map_eq_ok {ε α β : Type} {x : Except ε α} {f : α → β} {b : β}
    (h : x.map f = .ok b) : ∃ a, x = .ok a ∧ f a = b := by
  cases x with
  | error fault => cases h
  | ok a => exact ⟨a, rfl, Except.ok.inj h⟩

/-- What is read is plain text up to its closing quote, or else it is shorter than its source. -/
theorem eq_or_length_lt_of_literalChars {source value rest : List Char}
    (h : e.literalChars source = .ok (value, rest)) :
    (source = value ++ '"' :: rest ∧ ∀ c ∈ value, isPlainChar c = true) ∨
      value.length + rest.length + 1 < source.length := by
  fun_induction literalChars e source generalizing value rest with
  | case1 | case3 | case4 => cases h
  | case2 rest =>
    cases h
    exact .inl ⟨rfl, by simp⟩
  | case5 source escaped behind hescape ih =>
    obtain ⟨read, hread, heq⟩ := exists_of_map_eq_ok h
    cases heq
    have hbounded := e.bounded hescape
    have hbehind : read.1.length + read.2.length + 1 ≤ behind.length := by
      rcases ih hread with ⟨hsource, -⟩ | hlt
      · rw [hsource]
        simp [Nat.add_assoc]
      · exact Nat.le_of_lt hlt
    -- The backslash itself is written and stands for nothing.
    simp only [List.length_cons, List.length_append] at hbounded ⊢
    omega
  | case6 c source hquote hdollar hbackslash ih =>
    obtain ⟨read, hread, heq⟩ := exists_of_map_eq_ok h
    cases heq
    rcases ih hread with ⟨hsource, hplain⟩ | hlt
    · have hc : isPlainChar c = true := by
        simp only [isPlainChar, Bool.and_eq_true, bne_iff_ne]
        exact ⟨⟨hquote, hbackslash⟩, hdollar⟩
      exact .inl ⟨congrArg (c :: ·) hsource, List.forall_mem_cons.mpr ⟨hc, hplain⟩⟩
    · simp only [List.length_cons]
      omega

/-- Text between quotes is read as itself, up to the quote that was meant to close it, exactly if it
is plain. -/
theorem readLiteral_eq_ok_iff {text after : String} :
    e.readLiteral (text ++ "\"" ++ after) = .ok (text, after) ↔ IsPlain text := by
  have hsource : (text ++ "\"" ++ after).toList = text.toList ++ '"' :: after.toList := by simp
  rw [readLiteral, hsource]
  constructor
  · intro h
    obtain ⟨read, hread, heq⟩ := exists_of_map_eq_ok h
    cases heq
    rcases eq_or_length_lt_of_literalChars hread with ⟨-, hplain⟩ | hlt
    · simpa [IsPlain] using hplain
    · simp only [String.toList_ofList, List.length_append, List.length_cons] at hlt
      omega
  · intro h
    rw [literalChars_append h, literalChars]
    simp [Except.map]

private theorem readLiteral_dollar {text : String} (h : IsPlain text) (after : String) :
    e.readLiteral (text ++ "$" ++ after) = .error .interpolation := by
  have hsource : (text ++ "$" ++ after).toList = text.toList ++ '$' :: after.toList := by simp
  rw [readLiteral, hsource, literalChars_append h, literalChars]
  rfl

end Escapes

end ApiBindings.Text

namespace ApiBindings.Bindings

open Service

/-! ### Generated source with its literals -/

/-- A fragment of generated source: code as it stands, or a text between quotes. -/
inductive Fragment where
  | code (source : String)
  | literal (text : String)
  deriving DecidableEq, Repr

namespace Fragment

/-- The source of a fragment. -/
def source : Fragment → String
  | code source => source
  | literal text => "\"" ++ text ++ "\""

/-- The source of fragments in a row. -/
def sourceOf : List Fragment → String
  | [] => ""
  | fragment :: fragments => fragment.source ++ sourceOf fragments

/-- Code outside of literals has no quotes. -/
def QuoteFree : Fragment → Prop
  | code source => '"' ∉ source.toList
  | literal _ => True

@[simp] theorem quoteFree_code {source : String} :
    (code source).QuoteFree ↔ '"' ∉ source.toList := Iff.rfl

@[simp] theorem quoteFree_literal (text : String) : (literal text).QuoteFree := trivial

/-- Every literal is read as its text, up to its own closing quote. -/
def Denote (e : Text.Escapes) (fragments : List Fragment) : Prop :=
  ∀ front text back, fragments = front ++ literal text :: back →
    e.readLiteral (text ++ "\"" ++ sourceOf back) = .ok (text, sourceOf back)

private theorem sourceOf_append (xs ys : List Fragment) :
    sourceOf (xs ++ ys) = sourceOf xs ++ sourceOf ys := by
  induction xs with
  | nil => simp [sourceOf]
  | cons x xs ih => rw [List.cons_append, sourceOf, sourceOf, ih, String.append_assoc]

private theorem sourceOf_intercalate (separator : String) (groups : List (List Fragment)) :
    sourceOf ([code separator].intercalate groups) =
      separator.intercalate (groups.map sourceOf) := by
  induction groups with
  | nil => rfl
  | cons group groups ih =>
    cases groups with
    | nil => simp
    | cons next groups =>
      rw [List.intercalate_cons_cons, sourceOf_append, sourceOf_append, ih]
      simp only [List.map_cons, String.intercalate_cons_cons]
      simp [sourceOf, source]

private theorem mem_intercalate_iff {separator x : Fragment} {groups : List (List Fragment)}
    (h : x ≠ separator) :
    x ∈ [separator].intercalate groups ↔ ∃ group ∈ groups, x ∈ group := by
  induction groups with
  | nil => simp
  | cons group groups ih =>
    cases groups with
    | nil => simp
    | cons next groups =>
      rw [List.intercalate_cons_cons, List.mem_append, List.mem_append, ih, List.mem_singleton,
        List.exists_mem_cons_iff (p := fun group => x ∈ group)]
      simp [h]

private theorem quoteFree_of_mem_intercalate {separator x : Fragment}
    {groups : List (List Fragment)}
    (hseparator : separator.QuoteFree) (hgroups : ∀ group ∈ groups, ∀ y ∈ group, y.QuoteFree)
    (hx : x ∈ [separator].intercalate groups) : x.QuoteFree := by
  by_cases h : x = separator
  · rwa [h]
  · obtain ⟨group, hgroup, hmem⟩ := (mem_intercalate_iff h).mp hx
    exact hgroups group hgroup x hmem

/-- The literals of some fragments denote their texts exactly if these are plain. -/
theorem denote_iff {e : Text.Escapes} {fragments : List Fragment} :
    Denote e fragments ↔ ∀ text, literal text ∈ fragments → Text.IsPlain text := by
  constructor
  · intro h text hmem
    obtain ⟨front, back, heq⟩ := List.mem_iff_append.mp hmem
    exact Text.Escapes.readLiteral_eq_ok_iff.mp (h front text back heq)
  · rintro h front text back rfl
    exact Text.Escapes.readLiteral_eq_ok_iff.mpr (h text (by simp))

end Fragment

open Fragment

/-- The fragments of an item. -/
def Item.fragments (i : Item) : List Fragment :=
  (if i.code = "" then [] else [Fragment.code i.code]) ++
    (i.literal?.map Fragment.literal).toList

/-- The arguments of a call: the values that are passed on are literals. -/
def argumentFragments (d : Description) (key : String) (op : Operation) : List Fragment :=
  [code ", "].intercalate ((argumentItems d.metadata key op).map Item.fragments)

/-- The keyword arguments of a dispatcher: the values that are baked in are literals. -/
def keywordFragments (m : Metadata) : List Fragment :=
  [code (",\n" ++ indentUnit ++ indentUnit)].intercalate ((keywordItems m).map Item.fragments)

/-- The functions of an operation around the arguments of the call. -/
def callFragments (d : Description) (key : String) (op : Operation) : List Fragment :=
  let f := Text.snakeCase key
  [code ("@inline " ++ f ++ "(aws::AWSConfig=default_aws_config(); args...) = " ++ f ++
    "(aws, args)\n\n" ++ "@inline " ++ f ++ "(aws::AWSConfig, args) =\n    AWSCore.Services." ++
    dispatcherName d.metadata ++ "(")] ++
  argumentFragments d key op ++
  [code ")\n\n", code ("@inline " ++ f ++ "(args) = " ++ f ++ "(default_aws_config(), args)\n")]

/-- The dispatcher of a service around its keyword arguments. -/
def dispatcherFragments (m : Metadata) : List Fragment :=
  [code ("function " ++ dispatcherName m ++ "(" ++
    ", ".intercalate (Dispatcher.ofMetadata m).formals ++ ")\n\n" ++ indentUnit ++ "AWSCore." ++
    (DispatchPlan.ofMetadata m).transport ++ "(\n" ++ indentUnit ++ indentUnit ++ "aws;\n" ++
    indentUnit ++ indentUnit)] ++
  keywordFragments m ++
  [code ")\nend\n"]

private theorem sourceOf_fragments (i : Item) : sourceOf i.fragments = i.source := by
  obtain ⟨itemCode, literal?⟩ := i
  by_cases hcode : itemCode = "" <;> cases literal? <;>
    simp [Item.fragments, Item.source, sourceOf, Fragment.source, hcode, String.append_assoc]

private theorem map_sourceOf_fragments (items : List Item) :
    (items.map Item.fragments).map sourceOf = items.map Item.source := by
  rw [List.map_map]
  exact List.map_congr_left fun i _ => sourceOf_fragments i

/-- The source of the functions of an operation. -/
theorem sourceOf_callFragments (d : Description) (key : String) (op : Operation) :
    sourceOf (callFragments d key op) = (CallThrough.ofOperation d key op).text := by
  have harguments : sourceOf (argumentFragments d key op) =
      ", ".intercalate (CallThrough.ofOperation d key op).arguments := by
    rw [argumentFragments, sourceOf_intercalate, map_sourceOf_fragments, map_source_argumentItems]
  rw [callFragments, sourceOf_append, sourceOf_append, harguments]
  dsimp only [CallThrough.text, CallThrough.ofOperation, sourceOf, Fragment.source]
  simp only [String.append_assoc, String.append_empty]

/-- The source of a dispatcher. -/
theorem sourceOf_dispatcherFragments (m : Metadata) :
    sourceOf (dispatcherFragments m) = (Dispatcher.ofMetadata m).text := by
  have hkeywords : sourceOf (keywordFragments m) =
      (",\n" ++ indentUnit ++ indentUnit).intercalate (Dispatcher.ofMetadata m).keywords := by
    rw [keywordFragments, sourceOf_intercalate, map_sourceOf_fragments, map_source_keywordItems]
  rw [dispatcherFragments, sourceOf_append, sourceOf_append, hkeywords]
  dsimp only [Dispatcher.text, Dispatcher.ofMetadata, sourceOf, Fragment.source]
  simp only [String.append_assoc, String.append_empty]

/-! ### The literals of a request -/

variable {d : Description} {docs : Formatter} {moduleName key : String} {op : Operation}

private theorem literal_mem_fragments {i : Item} {text : String} :
    literal text ∈ i.fragments ↔ i.literal? = some text := by
  simp only [Item.fragments, List.mem_append, Option.mem_toList, Option.map_eq_some_iff]
  split <;> simp

/-- The literals of a call are the values that are passed on. -/
theorem literal_mem_callFragments {text : String} :
    literal text ∈ callFragments d key op ↔ text ∈ passedValues d.metadata key op := by
  have harguments : literal text ∈ argumentFragments d key op ↔
      text ∈ passedValues d.metadata key op := by
    rw [argumentFragments, mem_intercalate_iff (by simp)]
    simp [argumentItems, literal_mem_fragments]
  simp [callFragments, harguments]

/-- The literals of a dispatcher are the values that are baked in. -/
theorem literal_mem_dispatcherFragments {m : Metadata} {text : String} :
    literal text ∈ dispatcherFragments m ↔
      ∃ name, Parameter.literal name text ∈ (DispatchPlan.ofMetadata m).parameters := by
  have hparameter : ∀ p : Parameter,
      p.item.literal? = some text ↔ ∃ name, p = Parameter.literal name text := by
    intro p
    cases p <;> simp [Parameter.item]
  have hkeywords : literal text ∈ keywordFragments m ↔
      ∃ name, Parameter.literal name text ∈ (DispatchPlan.ofMetadata m).parameters := by
    rw [keywordFragments, mem_intercalate_iff (by simp)]
    simp [keywordItems, literal_mem_fragments, hparameter]
  simp [dispatcherFragments, hkeywords]

/-- The literals of a call and of its dispatcher are the values of the plan's parameters. -/
theorem literal_mem_iff {text : String} :
    literal text ∈ callFragments d key op ∨ literal text ∈ dispatcherFragments d.metadata ↔
      ∃ p ∈ (DispatchPlan.ofMetadata d.metadata).parameters,
        parameterValue? key op p = some text := by
  rw [literal_mem_callFragments, literal_mem_dispatcherFragments]
  constructor
  · rintro (hpassed | ⟨name, hname⟩)
    · obtain ⟨name, hname, hvalue⟩ := List.mem_filterMap.mp hpassed
      obtain ⟨p, hp, hpassed⟩ := List.mem_filterMap.mp hname
      cases p with
      | passed name =>
        cases hpassed
        exact ⟨_, hp, hvalue⟩
      | literal => cases hpassed
    · exact ⟨_, hname, rfl⟩
  · rintro ⟨p, hp, htext⟩
    cases p with
    | passed name =>
      exact .inl (List.mem_filterMap.mpr ⟨name, List.mem_filterMap.mpr ⟨_, hp, rfl⟩, htext⟩)
    | literal name value =>
      cases htext
      exact .inr ⟨name, hp⟩

private theorem quoteFree_of_mem_fragments {i : Item} (h : '"' ∉ i.code.toList) :
    ∀ x ∈ i.fragments, x.QuoteFree := by
  intro x hx
  rcases List.mem_append.mp hx with hcode | hliteral
  · split at hcode
    · cases hcode
    · obtain rfl := List.mem_singleton.mp hcode
      exact h
  · obtain ⟨text, -, rfl⟩ := Option.map_eq_some_iff.mp (Option.mem_toList.mp hliteral)
    trivial

private theorem quote_notMem_argumentItems {m : Metadata} :
    ∀ i ∈ argumentItems m key op, '"' ∉ i.code.toList := by
  simp [argumentItems, or_imp, forall_and]

private theorem quote_notMem_keywordItems {m : Metadata} :
    ∀ i ∈ keywordItems m, '"' ∉ i.code.toList := by
  have hknown : ∀ name ∈ parameterNames, '"' ∉ name.toList := by decide
  intro i hi
  rcases List.mem_append.mp hi with hparameter | hargs
  · obtain ⟨p, hp, rfl⟩ := List.mem_map.mp hparameter
    have hname : '"' ∉ p.name.toList :=
      hknown p.name ((names_sublist m).subset (List.mem_map_of_mem hp))
    cases p with
    | passed name =>
      simp only [Parameter.name] at hname
      simp [Parameter.item, hname]
    | literal name value =>
      simp only [Parameter.name] at hname
      simp [Parameter.item, hname]
  · obtain rfl := List.mem_singleton.mp hargs
    decide

private theorem quoteFree_argumentFragments :
    ∀ x ∈ argumentFragments d key op, x.QuoteFree := by
  intro x hx
  refine quoteFree_of_mem_intercalate (by simp) ?_ hx
  rw [List.forall_mem_map]
  exact fun i hi => quoteFree_of_mem_fragments (quote_notMem_argumentItems i hi)

private theorem quoteFree_keywordFragments {m : Metadata} :
    ∀ x ∈ keywordFragments m, x.QuoteFree := by
  intro x hx
  refine quoteFree_of_mem_intercalate (by simp [indentUnit]) ?_ hx
  rw [List.forall_mem_map]
  exact fun i hi => quoteFree_of_mem_fragments (quote_notMem_keywordItems i hi)

/-- The texts that come into the literals of a request as they are described. -/
def requestTexts (m : Metadata) (key : String) (op : Operation) : List String :=
  [m.signingName, m.apiVersion, m.endpointPrefix, op.http.requestUri] ++
    (if m.protocol = .json then [jsonVersion m.declaredJsonVersion, m.targetPrefix.getD ""]
    else []) ++
    (if m.protocol.isRest then [] else [key])

/-- An expression that is no literal, or a literal of plain text. -/
def Expression.IsPlain : Expression → Prop
  | literal text => Text.IsPlain text
  | .variable _ => True

/-- What a request carries is plain exactly if the texts of its description are: methods are always
plain. -/
theorem plain_requestKeywords_iff (m : Metadata) (key : String) (op : Operation) :
    (∀ keyword ∈ requestKeywords m key op, keyword.2.IsPlain) ↔
      ∀ text ∈ requestTexts m key op, Text.IsPlain text := by
  have hmethod : Text.IsPlain op.http.method.name := by
    cases op.http.method <;> decide
  have hliteral : ∀ value, (Expression.literal value).IsPlain ↔ Text.IsPlain value := fun _ => .rfl
  have hvariable : ∀ name, (Expression.variable name).IsPlain := fun _ => trivial
  rw [requestKeywords, requestTexts]
  by_cases hsame : m.endpointPrefix = m.signingName <;> cases hprotocol : m.protocol <;>
    simp [hsame, Protocol.isRest, hliteral, hvariable, hmethod] <;> tauto

/-- The literals of a request's call and dispatcher are what the request has to carry. -/
theorem literal_mem_iff_carried (key : String) (h : contradiction? d.metadata op.http = none)
    (value : String) :
    literal value ∈ callFragments d key op ∨ literal value ∈ dispatcherFragments d.metadata ↔
      ∃ name, (name, Expression.literal value) ∈ requestKeywords d.metadata key op := by
  have hcarried : ∀ name, (name, Expression.literal value) ∈ requestKeywords d.metadata key op ↔
      ∃ p ∈ (DispatchPlan.ofMetadata d.metadata).parameters,
        carried? key op p = some (name, .literal value) := by
    intro name
    rw [← List.mem_map_of_injective (fun _ _ => Option.some.inj),
      ← plan_carries_requestKeywords key h]
    simp
  rw [literal_mem_iff]
  simp only [hcarried, carried?, Option.map_eq_some_iff, Prod.mk.injEq, Expression.literal.injEq]
  grind

/-- The code that is generated for a request holds its texts between quotes and no other quotes
among the arguments of the call and the keywords of the dispatcher. All of these literals stand for
what they were made from, and end where they were meant to, exactly if the texts that come from the
description are plain. -/
theorem literals_denote_iff (e : Text.Escapes) {text : String}
    (h : (operationBinding d docs moduleName key op).outcome = .ok text) :
    (∃ documentation, text = docstring documentation ++ sourceOf (callFragments d key op)) ∧
      (Dispatcher.ofMetadata d.metadata).text = sourceOf (dispatcherFragments d.metadata) ∧
      (∀ x ∈ argumentFragments d key op ++ keywordFragments d.metadata, x.QuoteFree) ∧
      (∀ value, literal value ∈ callFragments d key op ∨
          literal value ∈ dispatcherFragments d.metadata ↔
        ∃ name, (name, Expression.literal value) ∈ requestKeywords d.metadata key op) ∧
      (Denote e (callFragments d key op) ∧ Denote e (dispatcherFragments d.metadata) ↔
        ∀ value ∈ requestTexts d.metadata key op, Text.IsPlain value) := by
  obtain ⟨hrequest, s, documentation, -, -, htext⟩ := outcome_operationBinding_eq_ok_iff.mp h
  have hcarried := literal_mem_iff_carried key hrequest
  refine ⟨⟨documentation, ?_⟩, ?_, ?_, hcarried, ?_⟩
  · rw [sourceOf_callFragments, htext]
  · rw [sourceOf_dispatcherFragments]
  · exact List.forall_mem_append.mpr
      ⟨quoteFree_argumentFragments, quoteFree_keywordFragments⟩
  · rw [denote_iff, denote_iff, ← plain_requestKeywords_iff]
    constructor
    · rintro ⟨hcall, hdispatcher⟩ ⟨name, expression⟩ hmem
      cases expression with
      | literal value =>
        exact ((hcarried value).mpr ⟨name, hmem⟩).elim (hcall value) (hdispatcher value)
      | «variable» name => trivial
    · intro hplain
      constructor
      · intro value hvalue
        obtain ⟨name, hmem⟩ := (hcarried value).mp (.inl hvalue)
        exact hplain _ hmem
      · intro value hvalue
        obtain ⟨name, hmem⟩ := (hcarried value).mp (.inr hvalue)
        exact hplain _ hmem

/-- A service whose calls pass on all that can be passed on, and whose requests are signed with a
name of its own. -/
def jobsDescription : Description :=
  Description.ofMetadata
    ⟨.json, some "jobs", "importexport", "2010-06-01", some "1", some "Jobs", none, none, none⟩

/-- An operation with a path of its own. -/
def listJobs : Operation := .ofRequest "ListJobs" ⟨.get, "/jobs"⟩

/-- The literals of an operation with plain texts denote them. -/
theorem listJobs_literals_denote :
    ∃ text, (operationBinding jobsDescription id "Jobs" "ListJobs" listJobs).outcome = .ok text ∧
      Denote .common (callFragments jobsDescription "ListJobs" listJobs) ∧
      Denote .common (dispatcherFragments jobsDescription.metadata) := by
  obtain ⟨text, h⟩ : ∃ text,
      (operationBinding jobsDescription id "Jobs" "ListJobs" listJobs).outcome = .ok text :=
    ⟨_, rfl⟩
  obtain ⟨-, -, -, -, hdenote⟩ := literals_denote_iff .common h
  exact ⟨text, h, hdenote.mpr (by decide)⟩

/-! ### Literals that stand for something else -/

private theorem exists_interpolated {fragments : List Fragment} {before after : String}
    (hmem : literal (before ++ "$" ++ after) ∈ fragments) (hbefore : Text.IsPlain before) :
    ∃ front back,
      sourceOf fragments = front ++ "\"" ++ (before ++ "$" ++ after) ++ "\"" ++ back ∧
        ∀ e : Text.Escapes,
          e.readLiteral (before ++ "$" ++ after ++ "\"" ++ back) = .error .interpolation := by
  obtain ⟨front, back, rfl⟩ := List.mem_iff_append.mp hmem
  refine ⟨sourceOf front, sourceOf back, ?_, fun e => ?_⟩
  · simp only [sourceOf_append, sourceOf, source, String.append_assoc]
  · simp only [String.append_assoc]
    rw [← String.append_assoc]
    exact Text.Escapes.readLiteral_dollar hbefore _

/-- A service that selects operations by a name with a dollar. -/
def dollarDescription : Description :=
  Description.ofMetadata
    ⟨.json, none, "notes", "2020-01-01", none, some "Notes$Service", none, none, none⟩

/-- An operation is accepted although its dispatcher has a literal that does not stand for the
target of the service: behind `Notes` it depends on a variable. -/
theorem dollar_target_interpolates :
    ∃ text, (operationBinding dollarDescription id "Notes" "ListNotes"
        (.ofRequest "ListNotes" .postRoot)).outcome = .ok text ∧
      ("target", Expression.literal "Notes$Service") ∈ requestKeywords dollarDescription.metadata
        "ListNotes" (.ofRequest "ListNotes" .postRoot) ∧
      (∃ front back, (Dispatcher.ofMetadata dollarDescription.metadata).text =
          front ++ "\"" ++ "Notes$Service" ++ "\"" ++ back ∧
        ∀ e : Text.Escapes,
          e.readLiteral ("Notes$Service" ++ "\"" ++ back) = .error .interpolation) ∧
      ∀ e : Text.Escapes, ¬Denote e (dispatcherFragments dollarDescription.metadata) := by
  have hmem : literal ("Notes" ++ "$" ++ "Service") ∈
      dispatcherFragments dollarDescription.metadata :=
    literal_mem_dispatcherFragments.mpr ⟨"target", by decide⟩
  refine ⟨_, rfl, by decide, ?_, fun e h => ?_⟩
  · obtain ⟨front, back, hsource, hread⟩ := exists_interpolated hmem (by decide)
    exact ⟨front, back, (sourceOf_dispatcherFragments _).symm.trans hsource, hread⟩
  · have hplain := denote_iff.mp h _ hmem
    revert hplain
    decide

end ApiBindings.Bindings
