import ApiBindings.Proofs.Alike
import ApiBindings.Proofs.Binding
import ApiBindings.Proofs.Recursion
import ApiBindings.Proofs.Requirement

/-!
# Arguments in documentation and signatures

The members of an input are listed twice. Its documentation has an entry for each of them, with a
mark if it is required; its signatures list the required ones as keywords and have a marker for the
others. Both lists are made separately, and they agree: the keywords are the names in the marked
entries.
-/

namespace ApiBindings.Bindings

open Service

variable {d : Description} {docs : Formatter} {op : Operation}

/-! ### Entries -/

/-- The mark behind the heading of a required argument. -/
def requiredNote : String := " -- *Required*"

/-- An entry of an argument block: the name in its heading, what the heading shows of the value, and
all that follows the heading. -/
structure Entry where
  name : String
  shown : String
  rest : String

namespace Entry

/-- The text of an entry. -/
def text (e : Entry) : String := "## \x60" ++ e.name ++ " = " ++ e.shown ++ "\x60" ++ e.rest

/-- Whether the mark of a required argument follows the heading. -/
def IsMarked (e : Entry) : Prop := requiredNote.toList <+: e.rest.toList

instance : DecidablePred IsMarked := fun e =>
  inferInstanceAs (Decidable (requiredNote.toList <+: e.rest.toList))

end Entry

/-- An entry documents a member of an input structure. The heading has the name that the member is
shown under and the text of its value one level in, or a brief of that text if it has several lines;
behind the heading there may be the mark, then the documentation, then a text of several lines in
full. The mark is there for the required members. -/
structure Documents (d : Description) (docs : Formatter) (input : String) (s : Structure)
    (member : String × Member) (e : Entry) : Prop where
  name : e.name = displayName d.metadata member.1 member.2
  parts : ∃ fragment mark documentation fence : String,
    (render d docs indentUnit [input] member.2.shape).outcome = .ok fragment ∧
    e.shown = (if '\n' ∈ fragment.toList then Text.brief fragment else fragment) ∧
    e.rest = mark ++ documentation ++ fence ∧
    (mark = "" ∨ mark = requiredNote) ∧
    documentation = ((docs.embedded? member.2.documentation).map ("\n" ++ ·)).getD "" ∧
    fence = (if '\n' ∈ fragment.toList then
      "\n\x60\x60\x60\n " ++ e.name ++ " = " ++ fragment ++ "\n\x60\x60\x60" else "")
  marked : e.IsMarked ↔ member.1 ∈ s.required

/-- The entry that an argument is. -/
def Argument.entry (a : Argument) : Entry where
  name := a.name
  shown := if a.isLong then Text.brief a.value else a.value
  rest := (if a.required then requiredNote else "") ++
    ((a.documentation.map ("\n" ++ ·)).getD "") ++
    if a.isLong then "\n\x60\x60\x60\n " ++ a.name ++ " = " ++ a.value ++ "\n\x60\x60\x60" else ""

private theorem Argument.text_entry (a : Argument) : a.entry.text = a.text := by
  cases hdocumentation : a.documentation <;>
    simp [Entry.text, Argument.text, Argument.heading, Argument.entry, hdocumentation,
      requiredNote, String.append_assoc]

private theorem Argument.isMarked_entry (a : Argument) : a.entry.IsMarked ↔ a.required = true := by
  rw [Entry.IsMarked, Argument.entry]
  cases a.required with
  | true => simp
  | false => cases a.documentation <;> cases a.isLong <;> simp [requiredNote]

/-- An argument is what a member of a structure is made into, below a chain of shapes under
expansion: it has the name that the member is shown under, and the text of its value one level
in. -/
structure States (d : Description) (docs : Formatter) (chain : List String) (s : Structure)
    (member : String × Member) (a : Argument) : Prop where
  name : a.name = displayName d.metadata member.1 member.2
  value : (render d docs indentUnit chain member.2.shape).outcome = .ok a.value
  required : a.required = s.isRequired member.1
  documentation : a.documentation = docs.embedded? member.2.documentation

/-- The argument block of a structure that is not under expansion consists of an argument for each
member, in order. -/
theorem exists_arguments_of_argumentBlock {chain : List String} {input block : String}
    {s : Structure} (hfound : d.shapes.find? input = some (.struct s)) (hnew : input ∉ chain)
    (h : (argumentBlock d docs chain input).outcome = .ok block) :
    ∃ arguments, block = argumentsText arguments ∧
      List.Forall₂ (States d docs (chain ++ [input]) s) s.members.entries arguments := by
  have hblock : argumentBlock d docs chain input =
      (argumentsOf d docs (chain ++ [input]) s).map argumentsText := by
    rw [argumentBlock, hfound]
    simp [hnew]
  rw [hblock] at h
  obtain ⟨arguments, harguments, rfl⟩ := (Report.outcome_map_eq_ok_iff _ _ _).mp h
  refine ⟨arguments, rfl, ((Report.outcome_each_eq_ok_iff _ _ _).mp harguments).imp ?_⟩
  intro member a hmember
  obtain ⟨value, hvalue, rfl⟩ := (Report.outcome_map_eq_ok_iff _ _ _).mp hmember
  have hrender : (render d docs indentUnit (chain ++ [input]) member.2.shape).outcome =
      .ok (value.layout indentUnit) := by
    rw [Renderer.render_of_indent rfl, Report.outcome_map, hvalue]
    rfl
  exact ⟨rfl, hrender, rfl, rfl⟩

private theorem documents_entry {input : String} {s : Structure} {member : String × Member}
    {a : Argument} (h : States d docs [input] s member a) :
    Documents d docs input s member a.entry := by
  refine ⟨h.name, ⟨_, _, _, _, h.value, ?_, rfl, ?_, by rw [h.documentation], ?_⟩, ?_⟩
  · simp [Argument.entry, Argument.isLong]
  · cases a.required <;> simp
  · simp [Argument.entry, Argument.isLong]
  · rw [Argument.isMarked_entry, h.required]
    exact List.contains_iff_mem

/-- The argument block of an input structure consists of an entry for each member, in order. -/
theorem exists_entries_of_argumentBlock {input block : String} {s : Structure}
    (hfound : d.shapes.find? input = some (.struct s))
    (h : (argumentBlock d docs [] input).outcome = .ok block) :
    ∃ entries, block = "\n\n".intercalate (entries.map Entry.text) ∧
      List.Forall₂ (Documents d docs input s) s.members.entries entries := by
  obtain ⟨arguments, rfl, harguments⟩ :=
    exists_arguments_of_argumentBlock hfound List.not_mem_nil h
  refine ⟨arguments.map Argument.entry, ?_, ?_⟩
  · rw [argumentsText, List.map_map]
    congr 2
    funext a
    exact a.text_entry.symm
  · rw [List.forall₂_map_right_iff]
    exact harguments.imp fun _ _ => documents_entry

private theorem shownNames_eq_of_documents {input : String} {s : Structure} {entries : List Entry}
    (h : List.Forall₂ (Documents d docs input s) s.members.entries entries) :
    shownNames d.metadata s = entries.map fun e => (e.name, decide e.IsMarked) := by
  have hnames : List.Forall₂ (· = ·) (shownNames d.metadata s)
      (entries.map fun e => (e.name, decide e.IsMarked)) := by
    rw [shownNames, List.forall₂_map_left_iff, List.forall₂_map_right_iff]
    apply h.imp
    intro member e hmember
    rw [hmember.name, Prod.mk.injEq]
    refine ⟨rfl, ?_⟩
    rw [Bool.eq_iff_iff, decide_eq_true_iff, hmember.marked]
    exact List.contains_iff_mem
  rwa [List.forall₂_eq_eq_eq] at hnames

/-! ### Keywords -/

/-- The keyword arguments that entries stand for: the names of those with a mark, and a marker if
there are others. -/
def keywordsOf (entries : List Entry) : List String :=
  (entries.filter (·.IsMarked)).map (·.name ++ "=") ++
    if ∀ e ∈ entries, e.IsMarked then [] else [optionalArguments]

private theorem keywordArguments_eq_of_documents {input : String} {s : Structure}
    {entries : List Entry} (h : List.Forall₂ (Documents d docs input s) s.members.entries entries) :
    keywordArguments d.metadata s = keywordsOf entries := by
  rw [keywordArguments_eq, shownNames_eq_of_documents h, List.filter_map, List.filter_map,
    List.map_map, List.isEmpty_map, keywordsOf]
  congr 1
  simp [List.filter_eq_nil_iff]

private theorem keywordsOf_eq_nil_iff {entries : List Entry} :
    keywordsOf entries = [] ↔ entries = [] := by
  rw [keywordsOf, List.append_eq_nil_iff, List.map_eq_nil_iff, List.filter_eq_nil_iff]
  constructor
  · rintro ⟨hnone, hmarker⟩
    cases entries with
    | nil => rfl
    | cons e entries =>
      have hall : ∀ e' ∈ e :: entries, e'.IsMarked := by
        by_contra hsome
        rw [if_neg hsome] at hmarker
        cases hmarker
      exact absurd (by simpa using hall e (by simp)) (hnone e (by simp))
  · rintro rfl
    simp

private theorem intercalate_eq_empty_iff {separator : String} {words : List String}
    (h : ∀ w ∈ words, w ≠ "") : separator.intercalate words = "" ↔ words = [] := by
  cases words with
  | nil => simp
  | cons w words =>
    have hw : w ≠ "" := h w (by simp)
    cases words with
    | nil => simpa using hw
    | cons => simp [String.intercalate_cons_cons, hw]

private theorem join_keywordsOf_eq_empty_iff {entries : List Entry} :
    ", ".intercalate (keywordsOf entries) = "" ↔ entries = [] := by
  rw [intercalate_eq_empty_iff, keywordsOf_eq_nil_iff]
  intro w hw
  rcases List.mem_append.mp hw with hw | hw
  · obtain ⟨e, -, rfl⟩ := List.mem_map.mp hw
    simp
  · split at hw
    · cases hw
    · obtain rfl := List.mem_singleton.mp hw
      decide

/-! ### Both lists -/

/-- The input of an operation, if it has one, is a declared structure that renders. -/
def InputRenders (d : Description) (docs : Formatter) (op : Operation) : Prop :=
  ∀ input, op.input = some input → (∃ s, d.shapes.find? input = some (.struct s)) ∧
    ∃ block, (argumentBlock d docs [] input).outcome = .ok block

/-- An operation has no input, or its input structure has no members. -/
def TakesNothing (d : Description) (op : Operation) : Prop :=
  op.input = none ∨ ∃ input s, op.input = some input ∧ d.shapes.find? input = some (.struct s) ∧
    s.members.entries = []

/-- The entries for the input of an operation: none without an input; else the argument block is
those entries with a blank line between them, one for each member in order. -/
inductive InputEntries (d : Description) (docs : Formatter) (op : Operation) : List Entry → Prop
  | nothing (hinput : op.input = none) : InputEntries d docs op []
  | members {input : String} {s : Structure} {entries : List Entry}
      (hinput : op.input = some input) (hfound : d.shapes.find? input = some (.struct s))
      (hblock : (argumentBlock d docs [] input).outcome =
        .ok ("\n\n".intercalate (entries.map Entry.text)))
      (hentries : List.Forall₂ (Documents d docs input s) s.members.entries entries) :
      InputEntries d docs op entries

private theorem InputRenders.exists_entries (h : InputRenders d docs op) :
    ∃ entries, InputEntries d docs op entries := by
  cases hinput : op.input with
  | none => exact ⟨[], .nothing hinput⟩
  | some input =>
    obtain ⟨⟨s, hfound⟩, block, hblock⟩ := h input hinput
    obtain ⟨entries, rfl, hentries⟩ := exists_entries_of_argumentBlock hfound hblock
    exact ⟨entries, .members hinput hfound hblock hentries⟩

namespace InputEntries

variable {entries : List Entry}

private theorem argumentList_eq (h : InputEntries d docs op entries) :
    argumentList d op = .ok (", ".intercalate (keywordsOf entries)) := by
  rw [argumentList]
  cases h with
  | nothing hinput =>
    simp only [hinput]
    rfl
  | members hinput hfound hblock hentries =>
    simp only [hinput, hfound]
    rw [keywordArguments_eq_of_documents hentries]

private theorem eq_nil_iff (h : InputEntries d docs op entries) :
    entries = [] ↔ TakesNothing d op := by
  cases h with
  | nothing hinput => exact iff_of_true rfl (.inl hinput)
  | @members input s _ hinput hfound hblock hentries =>
    have hlength := hentries.length_eq
    constructor
    · rintro rfl
      exact .inr ⟨input, s, hinput, hfound, List.eq_nil_of_length_eq_zero hlength⟩
    · rintro (hnone | ⟨input', s', hinput', hfound', hmembers⟩)
      · rw [hinput] at hnone
        cases hnone
      · obtain rfl : input = input' := Option.some.inj (hinput.symm.trans hinput')
        rw [hfound] at hfound'
        cases hfound'
        rw [hmembers] at hlength
        exact List.eq_nil_of_length_eq_zero hlength.symm

end InputEntries

/-- The keyword signatures end behind the configuration and what the dispatcher is passed if and
only if the argument list is empty; else it follows there. -/
theorem signatures_of_argumentList {arguments : String} (h : argumentList d op = .ok arguments)
    (key : String) :
    ∃ s, signatures d key op = .ok s ∧
      (s.keyword = Text.snakeCase key ++ "([::AWSConfig])" ↔ arguments = "") ∧
      (s.qualifiedKeyword = dispatcherName d.metadata ++ "([::AWSConfig], " ++
        ", ".intercalate (passedLiterals d key op) ++ ")" ↔ arguments = "") ∧
      (arguments ≠ "" →
        s.keyword = Text.snakeCase key ++ "([::AWSConfig]; " ++ arguments ++ ")" ∧
        s.qualifiedKeyword = dispatcherName d.metadata ++ "([::AWSConfig], " ++
          ", ".intercalate (passedLiterals d key op) ++ ", " ++ arguments ++ ")") := by
  refine ⟨_, by rw [signatures, h]; rfl, ?_⟩
  by_cases hempty : arguments = ""
  · subst hempty
    simp [String.append_assoc]
  · have hfalse : arguments.isEmpty = false := by simpa using hempty
    have hopening : "([::AWSConfig]; " = "([::AWSConfig]" ++ "; " := by decide
    simp [hfalse, hempty, hopening, String.append_assoc, ← String.toList_inj]

/-- Signatures and documentation list the same arguments. The argument block of an input that
renders is one entry for each member in order, and the argument list consists of the names in the
marked entries, in the same order, and of a marker if there are entries without the mark. The list
is empty if and only if the operation takes nothing, and exactly then both keyword signatures end
behind the configuration and what the dispatcher is passed; else the list follows there. -/
theorem signatures_list_documented_arguments (h : InputRenders d docs op) (key : String) :
    ∃ (entries : List Entry) (arguments : String) (s : Signatures),
      InputEntries d docs op entries ∧
      argumentList d op = .ok arguments ∧
      arguments = ", ".intercalate ((entries.filter (·.IsMarked)).map (·.name ++ "=") ++
        if ∀ e ∈ entries, e.IsMarked then [] else ["<keyword arguments>"]) ∧
      (arguments = "" ↔ TakesNothing d op) ∧
      signatures d key op = .ok s ∧
      (s.keyword = Text.snakeCase key ++ "([::AWSConfig])" ↔ TakesNothing d op) ∧
      (s.qualifiedKeyword = dispatcherName d.metadata ++ "([::AWSConfig], " ++
        ", ".intercalate (passedLiterals d key op) ++ ")" ↔ TakesNothing d op) ∧
      (¬ TakesNothing d op →
        s.keyword = Text.snakeCase key ++ "([::AWSConfig]; " ++ arguments ++ ")" ∧
        s.qualifiedKeyword = dispatcherName d.metadata ++ "([::AWSConfig], " ++
          ", ".intercalate (passedLiterals d key op) ++ ", " ++ arguments ++ ")") := by
  obtain ⟨entries, hentries⟩ := h.exists_entries
  have hempty : ", ".intercalate (keywordsOf entries) = "" ↔ TakesNothing d op :=
    join_keywordsOf_eq_empty_iff.trans hentries.eq_nil_iff
  obtain ⟨s, hs, hkeyword, hqualified, hmore⟩ :=
    signatures_of_argumentList hentries.argumentList_eq key
  exact ⟨entries, _, s, hentries, hentries.argumentList_eq, rfl, hempty, hs, hkeyword.trans hempty,
    hqualified.trans hempty, fun htakes => hmore (mt hempty.mp htakes)⟩

/-- The operation that takes an order. -/
def putOrder : Operation := ⟨"PutOrder", .postRoot, some "Order", none, [], none⟩

/-- The argument block of an order: the items take several lines. -/
def orderBlock : String :=
  "## \x60Note = ::String\x60\n\n" ++
  "## \x60Items = [[ ... ], ...]\x60 -- *Required*\n" ++
  "\x60\x60\x60\n Items = [[\n    \"Key\" => <required> ::String,\n" ++
  "    \"Count\" => ::String\n], ...]\n" ++
  "\x60\x60\x60\n\n" ++
  "## \x60By = ::String\x60 -- *Required*"

set_option maxRecDepth 4000 in
/-- Of an order, the items and who placed it are required. -/
theorem putOrder_arguments_listed :
    InputRenders (orderDescription ["By", "Items"] ["Key"]) id putOrder ∧
      (argumentBlock (orderDescription ["By", "Items"] ["Key"]) id [] "Order").outcome =
        .ok orderBlock ∧
      ∃ s, signatures (orderDescription ["By", "Items"] ["Key"]) "PutOrder" putOrder = .ok s ∧
        s.keyword = "put_order([::AWSConfig]; Items=, By=, <keyword arguments>)" := by
  have hblock : (argumentBlock (orderDescription ["By", "Items"] ["Key"]) id [] "Order").outcome =
      .ok orderBlock := by
    with_unfolding_all rfl
  have hrenders : InputRenders (orderDescription ["By", "Items"] ["Key"]) id putOrder := by
    intro input hinput
    cases hinput
    exact ⟨⟨_, rfl⟩, _, hblock⟩
  obtain ⟨entries, arguments, s, -, harguments, -, -, hs, -, -, hmore⟩ :=
    signatures_list_documented_arguments hrenders "PutOrder"
  have hlist : argumentList (orderDescription ["By", "Items"] ["Key"]) putOrder =
      .ok "Items=, By=, <keyword arguments>" := by
    with_unfolding_all rfl
  obtain rfl := Except.ok.inj (harguments.symm.trans hlist)
  have htakes : ¬ TakesNothing (orderDescription ["By", "Items"] ["Key"]) putOrder := by
    rintro (hnone | ⟨input, s, hinput, hfound, hmembers⟩)
    · cases hnone
    · cases hinput
      cases hfound
      cases hmembers
  refine ⟨hrenders, hblock, s, hs, ?_⟩
  rw [(hmore htakes).1]
  decide

end ApiBindings.Bindings
