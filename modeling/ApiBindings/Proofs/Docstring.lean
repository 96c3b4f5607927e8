import ApiBindings.Proofs.Bundle

/-!
# Reading docstrings back

A docstring is a literal between triple quotes. A reader of such literals gets out of it the text
that was put in, whatever quotes, backslashes and dollars that text holds, and stops at the quotes
that were meant to close it. So a docstring in front of other source can be split off in one way
only.
-/

namespace ApiBindings.Text

/-! ### Escaping as replacement -/

/-- Replaces a pattern wherever it comes up next from the left, once the given number of characters
is passed over: these belong to the occurrence before. -/
def replaceFrom (pattern replacement : List Char) : Nat → List Char → List Char
  | _, [] => []
  | passed + 1, _ :: rest => replaceFrom pattern replacement passed rest
  | 0, c :: rest =>
    if pattern.isPrefixOf (c :: rest) then
      replacement ++ replaceFrom pattern replacement (pattern.length - 1) rest
    else c :: replaceFrom pattern replacement 0 rest

/-- A text with every occurrence of a pattern replaced. -/
def replaceAll (pattern replacement text : String) : String :=
  String.ofList (replaceFrom pattern.toList replacement.toList 0 text.toList)

/-- A character as it stands once backslashes and dollars are escaped. -/
def guardedChar (c : Char) : List Char :=
  if c = '\\' ∨ c = '$' then ['\\', c] else [c]

private theorem replaceFrom_singleton (x : Char) (replacement s : List Char) :
    replaceFrom [x] replacement 0 s = s.flatMap fun c => if c = x then replacement else [c] := by
  induction s with
  | nil => rfl
  | cons c s ih =>
    by_cases hc : c = x
    · subst hc
      simp [replaceFrom, ih]
    · simp [replaceFrom, ih, hc, Ne.symm hc]

private theorem replaceFrom_dollar_backslash (s : List Char) :
    replaceFrom ['$'] ['\\', '$'] 0 (replaceFrom ['\\'] ['\\', '\\'] 0 s) =
      s.flatMap guardedChar := by
  rw [replaceFrom_singleton, replaceFrom_singleton, List.flatMap_assoc]
  congr 1
  funext c
  by_cases hbackslash : c = '\\'
  · subst hbackslash
    rfl
  · by_cases hdollar : c = '$' <;> simp [guardedChar, hbackslash, hdollar]

private theorem flatMap_guardedChar_eq_cons_quote {s u : List Char}
    (h : s.flatMap guardedChar = '"' :: u) : ∃ s', s = '"' :: s' ∧ u = s'.flatMap guardedChar := by
  cases s with
  | nil => cases h
  | cons c s =>
    rw [List.flatMap_cons, guardedChar] at h
    by_cases hc : c = '\\' ∨ c = '$'
    · rw [if_pos hc] at h
      cases h
    · rw [if_neg hc] at h
      cases h
      exact ⟨s, rfl, rfl⟩

private theorem docstringChars_cons {c : Char} {s : List Char} (hbackslash : c ≠ '\\')
    (hdollar : c ≠ '$') (hquotes : ∀ rest, c = '"' → s ≠ '"' :: '"' :: rest) :
    docstringChars (c :: s) = c :: docstringChars s := by
  rw [docstringChars]
  · exact hbackslash
  · exact hdollar
  · exact hquotes

private theorem docstringChars_eq_replaceFrom (s : List Char) :
    docstringChars s = replaceFrom ['"', '"', '"'] ['\\', '"', '\\', '"', '\\', '"'] 0
      (s.flatMap guardedChar) := by
  induction s using docstringChars.induct with
  | case1 => rfl
  | case2 s ih => simp [docstringChars, guardedChar, replaceFrom, ih]
  | case3 s ih => simp [docstringChars, guardedChar, replaceFrom, ih]
  | case4 s ih => simp [docstringChars, guardedChar, replaceFrom, ih]
  | case5 c s hbackslash hdollar hquotes ih =>
    have hplain : guardedChar c = [c] := by
      rw [guardedChar, if_neg]
      rintro (rfl | rfl)
      · exact hbackslash rfl
      · exact hdollar rfl
    have hnone : ['"', '"', '"'].isPrefixOf (c :: s.flatMap guardedChar) = false := by
      rw [Bool.eq_false_iff, ne_eq, List.isPrefixOf_iff_prefix]
      rintro ⟨u, hu⟩
      obtain ⟨rfl, hfirst⟩ := List.cons.inj hu
      obtain ⟨s', rfl, hsecond⟩ := flatMap_guardedChar_eq_cons_quote hfirst.symm
      obtain ⟨s'', rfl, -⟩ := flatMap_guardedChar_eq_cons_quote hsecond.symm
      exact hquotes s'' rfl rfl
    rw [docstringChars_cons hbackslash hdollar hquotes, List.flatMap_cons, hplain,
      List.singleton_append, replaceFrom, hnone, ih]
    rfl

/-- The escaped text is the text with backslashes, then dollars, then three quotes in a row
replaced. -/
theorem escapeDocstring_eq_replaceAll (text : String) :
    escapeDocstring text = replaceAll "\"\"\"" "\\\"\\\"\\\""
      (replaceAll "$" "\\$" (replaceAll "\\" "\\\\" text)) := by
  have hchars := docstringChars_eq_replaceFrom text.toList
  rw [← replaceFrom_dollar_backslash] at hchars
  simp only [replaceAll, escapeDocstring, String.toList_ofList]
  rw [hchars]
  rfl

/-! ### Reading a literal -/

/-- Why source is not a literal that stands for a text. -/
inductive LiteralFault where
  /-- A dollar that is not escaped: the literal depends on the value of an expression. -/
  | interpolation
  /-- A backslash in front of a character that needs none. -/
  | strayEscape (c : Char)
  | unclosed
  deriving DecidableEq, Repr

/-- Reads source behind the opening quotes of a literal between triple quotes: the characters that
it stands for, and the source behind the first three quotes in a row that are not escaped. -/
def tripleQuotedChars : List Char → Except LiteralFault (List Char × List Char)
  | '"' :: '"' :: '"' :: rest => .ok ([], rest)
  | '\\' :: c :: rest =>
    if c = '\\' ∨ c = '$' ∨ c = '"' then
      (tripleQuotedChars rest).map fun read => (c :: read.1, read.2)
    else .error (.strayEscape c)
  | '$' :: _ => .error .interpolation
  | c :: rest => (tripleQuotedChars rest).map fun read => (c :: read.1, read.2)
  | [] => .error .unclosed

private theorem docstringChars_append_eq_cons_quote {s t u : List Char}
    (h : docstringChars s ++ '\n' :: t = '"' :: u) :
    ∃ s', s = '"' :: s' ∧ u = docstringChars s' ++ '\n' :: t := by
  cases s using docstringChars.fun_cases with
  | case1 => cases h
  | case2 => cases h
  | case3 => cases h
  | case4 => cases h
  | case5 c s hbackslash hdollar hquotes =>
    rw [docstringChars_cons hbackslash hdollar hquotes] at h
    cases h
    exact ⟨s, rfl, rfl⟩

private theorem tripleQuotedChars_docstringChars (s rest : List Char) :
    tripleQuotedChars (docstringChars s ++ '\n' :: '"' :: '"' :: '"' :: rest) =
      .ok (s ++ ['\n'], rest) := by
  induction s using docstringChars.induct with
  | case1 => simp [docstringChars, tripleQuotedChars, Except.map]
  | case2 s ih => simp [docstringChars, tripleQuotedChars, ih, Except.map]
  | case3 s ih => simp [docstringChars, tripleQuotedChars, ih, Except.map]
  | case4 s ih => simp [docstringChars, tripleQuotedChars, ih, Except.map]
  | case5 c s hbackslash hdollar hquotes ih =>
    rw [docstringChars_cons hbackslash hdollar hquotes, List.cons_append, tripleQuotedChars, ih]
    · rfl
    · rintro u rfl hu
      -- Two more bare quotes behind a bare one would be bare in the text too.
      obtain ⟨s', rfl, hsecond⟩ := docstringChars_append_eq_cons_quote hu
      obtain ⟨s'', rfl, -⟩ := docstringChars_append_eq_cons_quote hsecond.symm
      exact hquotes s'' rfl rfl
    · exact fun x _ hx => (hbackslash hx).elim
    · exact hdollar

/-- Reads source behind the opening quotes of a literal between triple quotes: the text that it
stands for, and the source behind its closing quotes. -/
def readTripleQuoted (source : String) : Except LiteralFault (String × String) :=
  (tripleQuotedChars source.toList).map fun read => (String.ofList read.1, String.ofList read.2)

/-- Splits source into the text of the docstring that it starts with and the source behind. The
text stands on lines of its own between the quotes, and so does the source behind. -/
def splitDocstring? (source : String) : Option (String × String) :=
  match source.toList with
  | '"' :: '"' :: '"' :: '\n' :: body =>
    match tripleQuotedChars body with
    | .ok (text, '\n' :: rest) =>
      if text.getLast? = some '\n' then some (String.ofList text.dropLast, String.ofList rest)
      else none
    | _ => none
  | _ => none

/-- Escaped text reads back, and the reader stops at the quotes on the line behind it. -/
theorem readTripleQuoted_escapeDocstring (text rest : String) :
    readTripleQuoted (escapeDocstring text ++ "\n\"\"\"" ++ rest) = .ok (text ++ "\n", rest) := by
  have hchars : (escapeDocstring text ++ "\n\"\"\"" ++ rest).toList =
      docstringChars text.toList ++ '\n' :: '"' :: '"' :: '"' :: rest.toList := by
    simp [escapeDocstring]
  rw [readTripleQuoted, hchars, tripleQuotedChars_docstringChars]
  simp [Except.map]

end ApiBindings.Text

namespace ApiBindings.Bindings

open Service

/-! ### Source behind a docstring -/

/-- A docstring is split off from whatever stands behind it. -/
theorem splitDocstring?_docstring_append (text rest : String) :
    Text.splitDocstring? (docstring text ++ rest) = some (text, rest) := by
  have hchars : (docstring text ++ rest).toList = '"' :: '"' :: '"' :: '\n' ::
      (Text.docstringChars text.toList ++ '\n' :: '"' :: '"' :: '"' :: '\n' :: rest.toList) := by
    simp [docstring, Text.escapeDocstring]
  simp [Text.splitDocstring?, hchars, Text.tripleQuotedChars_docstringChars]

/-- A docstring and the source behind it can be told from the whole. -/
theorem docstring_append_inj {text text' rest rest' : String} :
    docstring text ++ rest = docstring text' ++ rest' ↔ text = text' ∧ rest = rest' := by
  constructor
  · intro h
    have hsplit := splitDocstring?_docstring_append text rest
    rw [h, splitDocstring?_docstring_append] at hsplit
    cases hsplit
    exact ⟨rfl, rfl⟩
  · rintro ⟨rfl, rfl⟩
    rfl

private theorem splitDocstring?_module (documentation : Option String) (code : String) :
    Text.splitDocstring? ((documentation.map docstring).getD "" ++ ("module " ++ code)) =
      documentation.map fun text => (text, "module " ++ code) := by
  cases documentation with
  | none => simp [Text.splitDocstring?]
  | some text => exact splitDocstring?_docstring_append text ("module " ++ code)

private theorem exists_bindings_eq {d : Description} {docs : Formatter} {chosen : Option String}
    {bundle : Bundle} (h : (generate d docs chosen).outcome = .ok bundle) :
    ∃ code, bundle.bindings = fileHeader d.metadata ++ "\n" ++
      (((docs.embedded? d.documentation).map docstring).getD "" ++ ("module " ++ code)) := by
  obtain ⟨moduleName, bindings, -, -, rfl⟩ := outcome_generate_eq_ok_iff.mp h
  cases hdocumentation : docs.embedded? d.documentation <;>
    simp only [moduleText, moduleOpening, hdocumentation, Option.map_none, Option.map_some,
      Option.getD_none, Option.getD_some, String.append_assoc, String.empty_append] <;>
    exact ⟨_, rfl⟩

/-- Docstrings lose nothing and cannot be broken out of. Escaping is the replacement of backslashes,
of dollars and of three quotes in a row, and a reader gets any text back out of it, up to the quotes
on the line behind. So every binding splits in one way into its documentation and the functions of
its operation, and the source behind the header of a bindings file into the documentation of the
service, if there is any, and the module. -/
theorem docstrings_read_back :
    (∀ text : String, Text.escapeDocstring text =
      Text.replaceAll "\"\"\"" "\\\"\\\"\\\""
        (Text.replaceAll "$" "\\$" (Text.replaceAll "\\" "\\\\" text))) ∧
    (∀ text rest : String,
      Text.readTripleQuoted (Text.escapeDocstring text ++ "\n\"\"\"" ++ rest) =
        .ok (text ++ "\n", rest)) ∧
    (∀ (d : Description) (docs : Formatter) (moduleName key : String) (op : Operation)
      (text : String), (operationBinding d docs moduleName key op).outcome = .ok text →
        ∃ s documentation, signatures d key op = .ok s ∧
          (operationDocumentation d docs moduleName key op s).outcome = .ok documentation ∧
          Text.splitDocstring? text =
            some (documentation, (CallThrough.ofOperation d key op).text) ∧
          ∀ text' rest, text = docstring text' ++ rest ↔
            text' = documentation ∧ rest = (CallThrough.ofOperation d key op).text) ∧
    (∀ (d : Description) (docs : Formatter) (chosen : Option String) (bundle : Bundle),
      (generate d docs chosen).outcome = .ok bundle →
        ∃ source code, bundle.bindings = fileHeader d.metadata ++ "\n" ++ source ∧
          Text.splitDocstring? source =
            (docs.embedded? d.documentation).map (fun text => (text, "module " ++ code)) ∧
          ∀ text rest, source = docstring text ++ rest ↔
            docs.embedded? d.documentation = some text ∧ rest = "module " ++ code) := by
  refine ⟨Text.escapeDocstring_eq_replaceAll, Text.readTripleQuoted_escapeDocstring, ?_, ?_⟩
  · intro d docs moduleName key op text h
    obtain ⟨-, s, documentation, hs, hdocumentation, rfl⟩ :=
      outcome_operationBinding_eq_ok_iff.mp h
    refine ⟨s, documentation, hs, hdocumentation, splitDocstring?_docstring_append _ _, ?_⟩
    intro text' rest
    rw [docstring_append_inj, eq_comm, eq_comm (a := rest)]
  · intro d docs chosen bundle h
    obtain ⟨code, hbindings⟩ := exists_bindings_eq h
    have hsplit := splitDocstring?_module (docs.embedded? d.documentation) code
    refine ⟨_, code, hbindings, hsplit, fun text rest => ?_⟩
    constructor
    · intro hsource
      rw [hsource, splitDocstring?_docstring_append, eq_comm, Option.map_eq_some_iff] at hsplit
      obtain ⟨_, hdocumentation, heq⟩ := hsplit
      cases heq
      exact ⟨hdocumentation, rfl⟩
    · rintro ⟨hdocumentation, rfl⟩
      rw [hdocumentation]
      rfl

/-- An operation with documentation that would end its docstring early if it were not escaped. -/
def addNote : Operation :=
  { Operation.ofRequest "AddNote" .postRoot with
    documentation := some "Quote it as \"\"\"\"$note\\\"\"\"." }

/-- A service with documentation of the same sort. -/
def notesDescription : Description :=
  { Description.ofMetadata (.ofRequired .json "notes" "2024-01-01") with
    documentation := some "Notes on $x, \"\"\"\"\" and \\."
    operations := NameTable.empty.put "AddNote" addNote }

/-- The documentation of the service and of its operation can be split off. -/
theorem notes_read_back :
    (∃ text, (operationBinding notesDescription id "Notes" "AddNote" addNote).outcome = .ok text ∧
      ∃ documentation, Text.splitDocstring? text =
        some (documentation, (CallThrough.ofOperation notesDescription "AddNote" addNote).text)) ∧
    ∃ bundle, (generate notesDescription id none).outcome = .ok bundle ∧
      ∃ source code, bundle.bindings = fileHeader notesDescription.metadata ++ "\n" ++ source ∧
        Text.splitDocstring? source =
          some ("Notes on $x, \"\"\"\"\" and \\.", "module " ++ code) := by
  obtain ⟨-, -, hbinding, hbundle⟩ := docstrings_read_back
  obtain ⟨text, htext⟩ : ∃ text,
      (operationBinding notesDescription id "Notes" "AddNote" addNote).outcome = .ok text :=
    ⟨_, rfl⟩
  obtain ⟨bundle, hgenerate⟩ : ∃ bundle, (generate notesDescription id none).outcome = .ok bundle :=
    ⟨_, rfl⟩
  obtain ⟨s, documentation, -, -, hsplit, -⟩ := hbinding _ _ _ _ _ _ htext
  obtain ⟨source, code, hbindings, hsource, -⟩ := hbundle _ _ _ _ hgenerate
  exact ⟨⟨text, htext, documentation, hsplit⟩, bundle, hgenerate, source, code, hbindings, hsource⟩

end ApiBindings.Bindings
