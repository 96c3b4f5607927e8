import ApiBindings.Proofs.Quotation

/-!
# Calls as they are read

The arguments of a call, the formal parameters of its dispatcher and the keywords that this hands on
stand between parentheses in the text that is generated. A reader of the text finds the items of
these lists and nothing else as long as the texts in them are plain. A quote in a text ends its
literal early: then a call may be read with more arguments than its dispatcher has parameters for.
-/

namespace ApiBindings.Bindings

open Service

/-! ### Reading a list -/

/-- Puts code in front of the first of some items. -/
def prepend (code : String) : List Item → List Item
  | [] => []
  | i :: items => ⟨code ++ i.code, i.literal?⟩ :: items

/-- Whether a character only lays code out. -/
def isLayout (c : Char) : Bool := c == ' ' || c == '\n'

/-- Reads source behind the opening parenthesis of a list: its items, and the source behind its
closing parenthesis. Commas separate items, and layout may follow them. A literal ends its item. -/
def readItems (e : Text.Escapes) : List Char → Option (List Item × List Char)
  | [] => none
  | ')' :: rest => some ([⟨"", none⟩], rest)
  | ',' :: source =>
    (readItems e (source.dropWhile isLayout)).map fun read => (⟨"", none⟩ :: read.1, read.2)
  | '"' :: source =>
    match _h : e.literalChars source with
    | .ok (value, ')' :: rest) => some ([⟨"", some (String.ofList value)⟩], rest)
    | .ok (value, ',' :: behind) =>
      (readItems e (behind.dropWhile isLayout)).map fun read =>
        (⟨"", some (String.ofList value)⟩ :: read.1, read.2)
    | _ => none
  | c :: source =>
    (readItems e source).map fun read => (prepend (String.singleton c) read.1, read.2)
termination_by source => source.length
decreasing_by
  · exact Nat.lt_succ_of_le (List.dropWhile_suffix _).length_le
  · have hbehind := (List.dropWhile_suffix isLayout (l := behind)).length_le
    rcases Text.Escapes.eq_or_length_lt_of_literalChars _h with ⟨rfl, -⟩ | hlt
    · simp only [List.length_cons, List.length_append]
      omega
    · simp only [List.length_cons] at hlt ⊢
      omega
  · simp

/-- Reads a list in generated source: its items, and the source behind its closing parenthesis. -/
def readList (e : Text.Escapes) (source : String) : Option (List Item × String) :=
  (readItems e source.toList).map fun read => (read.1, String.ofList read.2)

/-- The source of a list from its first item on, with what stands behind its closing parenthesis. -/
def listSource (separator : String) (items : List Item) (behind : String) : String :=
  separator.intercalate (items.map Item.source) ++ ")" ++ behind

/-- A text that separates items: a comma with layout behind it. -/
def IsSeparator (text : String) : Prop :=
  ∃ layout, text.toList = ',' :: layout ∧ layout.all isLayout = true

/-- Whether a character of an item's code is no layout and has no meaning for lists. -/
def isItemChar (c : Char) : Bool := !(isLayout c || c == ')' || c == ',' || c == '"')

/-- An item that is read as it is written: it is not empty, its code is without layout and without
characters that have a meaning for lists, and its literal is plain. -/
structure Item.IsReadable (i : Item) : Prop where
  nonempty : i ≠ ⟨"", none⟩
  code : i.code.toList.all isItemChar = true
  literal : ∀ text, i.literal? = some text → Text.IsPlain text

variable {e : Text.Escapes} {i : Item} {items : List Item}

private theorem prepend_empty (items : List Item) : prepend "" items = items := by
  cases items <;> simp [prepend]

private theorem prepend_prepend (code behind : String) (items : List Item) :
    prepend code (prepend behind items) = prepend (code ++ behind) items := by
  cases items <;> simp [prepend, String.append_assoc]

private theorem readItems_append {code : List Char} (h : ∀ c ∈ code, isItemChar c = true)
    (source : List Char) :
    readItems e (code ++ source) =
      (readItems e source).map fun read => (prepend (String.ofList code) read.1, read.2) := by
  induction code with
  | nil =>
    have hempty : String.ofList [] = "" := rfl
    simp [hempty, prepend_empty]
  | cons c code ih =>
    obtain ⟨hc, hcode⟩ := List.forall_mem_cons.mp h
    have hnext : readItems e (c :: (code ++ source)) = (readItems e (code ++ source)).map
        fun read => (prepend (String.singleton c) read.1, read.2) := by
      simp only [isItemChar, Bool.not_eq_true', Bool.or_eq_false_iff, beq_eq_false_iff_ne] at hc
      rw [readItems] <;> grind
    have hcons : String.singleton c ++ String.ofList code = String.ofList (c :: code) := by simp
    rw [List.cons_append, hnext, ih hcode, Option.map_map]
    simp only [Function.comp_def, prepend_prepend, hcons]

private theorem readItems_literal_last {source value rest : List Char}
    (h : e.literalChars source = .ok (value, ')' :: rest)) :
    readItems e ('"' :: source) = some ([⟨"", some (String.ofList value)⟩], rest) := by
  rw [readItems]
  grind

private theorem readItems_literal_comma {source value behind : List Char}
    (h : e.literalChars source = .ok (value, ',' :: behind)) :
    readItems e ('"' :: source) = (readItems e (behind.dropWhile isLayout)).map fun read =>
      (⟨"", some (String.ofList value)⟩ :: read.1, read.2) := by
  rw [readItems]
  grind

private theorem literalChars_plain {text : String} (h : Text.IsPlain text) (rest : List Char) :
    e.literalChars (text.toList ++ '"' :: rest) = .ok (text.toList, rest) := by
  rw [Text.Escapes.literalChars_append h, Text.Escapes.literalChars]
  simp [Except.map]

private theorem toList_source (i : Item) (behind : List Char) :
    i.source.toList ++ behind = i.code.toList ++
      ((i.literal?.map fun text => '"' :: (text.toList ++ ['"'])).getD [] ++ behind) := by
  obtain ⟨code, literal?⟩ := i
  cases literal? <;> simp [Item.source]

private theorem readItems_last (h : i.IsReadable) (rest : List Char) :
    readItems e (i.source.toList ++ ')' :: rest) = some ([i], rest) := by
  obtain ⟨code, literal?⟩ := i
  rw [toList_source, readItems_append (List.all_eq_true.mp h.code)]
  cases literal? with
  | none =>
    simp [readItems, prepend]
  | some text =>
    have hread := literalChars_plain (e := e) (h.literal text rfl) (')' :: rest)
    have hsource : ((some text).map fun text => '"' :: (text.toList ++ ['"'])).getD [] ++
        ')' :: rest = '"' :: (text.toList ++ '"' :: ')' :: rest) := by
      simp
    rw [hsource, readItems_literal_last hread]
    simp [prepend]

private theorem readItems_comma (h : i.IsReadable) (source : List Char) :
    readItems e (i.source.toList ++ ',' :: source) =
      (readItems e (source.dropWhile isLayout)).map fun read => (i :: read.1, read.2) := by
  obtain ⟨code, literal?⟩ := i
  rw [toList_source, readItems_append (List.all_eq_true.mp h.code)]
  cases literal? with
  | none =>
    simp [readItems, prepend, Function.comp_def]
  | some text =>
    have hread := literalChars_plain (e := e) (h.literal text rfl) (',' :: source)
    have hsource : ((some text).map fun text => '"' :: (text.toList ++ ['"'])).getD [] ++
        ',' :: source = '"' :: (text.toList ++ '"' :: ',' :: source) := by
      simp
    rw [hsource, readItems_literal_comma hread]
    simp [prepend, Function.comp_def]

private theorem dropWhile_source (h : i.IsReadable) (behind : List Char) :
    (i.source.toList ++ behind).dropWhile isLayout = i.source.toList ++ behind := by
  obtain ⟨code, literal?⟩ := i
  rw [toList_source]
  cases hchars : code.toList with
  | cons c chars =>
    have hc : isItemChar c = true := List.all_eq_true.mp h.code c (by simp [hchars])
    have hlayout : isLayout c = false := by
      simp only [isItemChar, Bool.not_eq_true', Bool.or_eq_false_iff] at hc
      exact hc.1.1.1
    rw [List.cons_append, List.dropWhile_cons_of_neg (by simp [hlayout])]
  | nil =>
    cases literal? with
    | none => exact absurd (by rw [String.toList_eq_nil_iff.mp hchars]) h.nonempty
    | some text => exact List.dropWhile_cons_of_neg (by decide)

private theorem dropWhile_listSource {separator : String} (h : i.IsReadable)
    (items : List Item) (behind : String) :
    (listSource separator (i :: items) behind).toList.dropWhile isLayout =
      (listSource separator (i :: items) behind).toList := by
  have hsource : ∃ rest, (listSource separator (i :: items) behind).toList =
      i.source.toList ++ rest := by
    cases items with
    | nil => exact ⟨_, by rw [listSource, String.append_assoc]; exact String.toList_append ..⟩
    | cons next items =>
      rw [listSource, List.map_cons, List.map_cons, String.intercalate_cons_cons]
      simp only [String.append_assoc]
      exact ⟨_, String.toList_append ..⟩
  obtain ⟨rest, hrest⟩ := hsource
  rw [hrest, dropWhile_source h]

/-- A list of readable items is read as it was written. -/
theorem readList_listSource {separator : String} (hseparator : IsSeparator separator)
    (hne : items ≠ []) (h : ∀ i ∈ items, i.IsReadable) (behind : String) :
    readList e (listSource separator items behind) = some (items, behind) := by
  have hitems : readItems e (listSource separator items behind).toList =
      some (items, behind.toList) := by
    induction items with
    | nil => exact absurd rfl hne
    | cons i items ih =>
      obtain ⟨hi, hrest⟩ := List.forall_mem_cons.mp h
      cases items with
      | nil =>
        have hlast := readItems_last (e := e) hi behind.toList
        simpa [listSource] using hlast
      | cons next items =>
        obtain ⟨layout, hchars, hlayout⟩ := hseparator
        have hsource : (listSource separator (i :: next :: items) behind).toList =
            i.source.toList ++ ',' ::
              (layout ++ (listSource separator (next :: items) behind).toList) := by
          simp [listSource, String.intercalate_cons_cons, hchars]
        rw [hsource, readItems_comma hi,
          List.dropWhile_append_of_pos (List.all_eq_true.mp hlayout),
          dropWhile_listSource (hrest next (by simp)), ih (by simp) hrest]
        rfl
  rw [readList, hitems]
  simp

/-! ### The lists in generated text -/

/-- The functions of an operation up to the arguments that the dispatcher is called with. -/
def callOpening (m : Metadata) (key : String) : String :=
  let f := Text.snakeCase key
  "@inline " ++ f ++ "(aws::AWSConfig=default_aws_config(); args...) = " ++ f ++
    "(aws, args)\n\n" ++ "@inline " ++ f ++ "(aws::AWSConfig, args) =\n    AWSCore.Services." ++
    dispatcherName m ++ "("

/-- The functions of an operation from the end of that call on. -/
def callClosing (key : String) : String :=
  let f := Text.snakeCase key
  "\n\n" ++ "@inline " ++ f ++ "(args) = " ++ f ++ "(default_aws_config(), args)\n"

/-- A dispatcher up to its formal parameters. -/
def dispatcherOpening (m : Metadata) : String := "function " ++ dispatcherName m ++ "("

/-- A dispatcher from its formal parameters to the keywords that it hands to the transport layer. -/
def transportOpening (m : Metadata) : String :=
  let inner := indentUnit ++ indentUnit
  "\n\n" ++ indentUnit ++ "AWSCore." ++ (DispatchPlan.ofMetadata m).transport ++ "(\n" ++ inner ++
    "aws;\n" ++ inner

/-- A dispatcher from the end of the keywords on. -/
def dispatcherClosing : String := "\nend\n"

/-- What separates the keywords of a dispatcher. -/
def keywordSeparator : String := ",\n" ++ (indentUnit ++ indentUnit)

/-- A dispatcher from the end of its formal parameters on. -/
def dispatcherBody (m : Metadata) : String :=
  transportOpening m ++ listSource keywordSeparator (keywordItems m) dispatcherClosing

variable {d : Description} {docs : Formatter} {moduleName key : String} {op : Operation}
  {m : Metadata}

/-- The functions of an operation hold the arguments of the call as a list. -/
theorem text_ofOperation (d : Description) (key : String) (op : Operation) :
    (CallThrough.ofOperation d key op).text = callOpening d.metadata key ++
      listSource ", " (argumentItems d.metadata key op) (callClosing key) := by
  have hclosing : (")\n\n" : String) = ")" ++ "\n\n" := by decide
  rw [listSource, map_source_argumentItems]
  dsimp only [CallThrough.text, CallThrough.ofOperation, callOpening, callClosing]
  rw [hclosing]
  simp only [String.append_assoc]

/-- A dispatcher holds its formal parameters and its keywords as lists. -/
theorem text_ofMetadata (m : Metadata) :
    (Dispatcher.ofMetadata m).text =
      dispatcherOpening m ++ listSource ", " (formalItems m) (dispatcherBody m) := by
  have hclosing : (")\nend\n" : String) = ")" ++ dispatcherClosing := by decide
  have hbehind : (")\n\n" : String) = ")" ++ "\n\n" := by decide
  rw [dispatcherBody, listSource, listSource, map_source_formalItems, map_source_keywordItems]
  dsimp only [Dispatcher.text, Dispatcher.ofMetadata, dispatcherOpening, transportOpening,
    keywordSeparator]
  rw [hclosing, hbehind]
  simp only [String.append_assoc]

private theorem isReadable_code {code : String}
    (h : code ≠ "" ∧ code.toList.all isItemChar = true) :
    Item.IsReadable ⟨code, none⟩ where
  nonempty := by simpa using h.1
  code := h.2
  literal := by simp

private theorem isReadable_literal {code text : String}
    (hcode : code.toList.all isItemChar = true) (htext : Text.IsPlain text) :
    Item.IsReadable ⟨code, some text⟩ where
  nonempty := by simp
  code := hcode
  literal := by simpa using htext

/-- Formal parameters are readable. -/
theorem isReadable_of_mem_formalItems : ∀ i ∈ formalItems m, i.IsReadable := by
  have hknown : ∀ code ∈ ["aws::AWSConfig"] ++ passedNames ++ ["args=[]"],
      code ≠ "" ∧ code.toList.all isItemChar = true := by
    decide
  intro i hi
  obtain ⟨code, hcode, rfl⟩ := List.mem_map.mp hi
  have hsublist : (Dispatcher.ofMetadata m).formals.Sublist
      (["aws::AWSConfig"] ++ passedNames ++ ["args=[]"]) :=
    ((passed_sublist m).append_left _).append_right _
  exact isReadable_code (hknown code (hsublist.subset hcode))

private theorem isPlain_of_literal_mem (h : contradiction? d.metadata op.http = none)
    (hplain : ∀ value ∈ requestTexts d.metadata key op, Text.IsPlain value) {value : String}
    (hvalue : .literal value ∈ callFragments d key op ∨
      .literal value ∈ dispatcherFragments d.metadata) : Text.IsPlain value := by
  obtain ⟨name, hmem⟩ := (literal_mem_iff_carried key h value).mp hvalue
  exact (plain_requestKeywords_iff d.metadata key op).mpr hplain _ hmem

/-- Arguments that hold plain texts are readable. -/
theorem isReadable_of_mem_argumentItems (h : contradiction? d.metadata op.http = none)
    (hplain : ∀ value ∈ requestTexts d.metadata key op, Text.IsPlain value) :
    ∀ i ∈ argumentItems d.metadata key op, i.IsReadable := by
  have hknown : ∀ code ∈ ["aws", "args"], code ≠ "" ∧ code.toList.all isItemChar = true := by
    decide
  have hliteral : ∀ value ∈ passedValues d.metadata key op, Item.IsReadable ⟨"", some value⟩ :=
    fun value hvalue => isReadable_literal (by simp)
      (isPlain_of_literal_mem h hplain (.inl (literal_mem_callFragments.mpr hvalue)))
  intro i hi
  simp only [argumentItems, List.mem_append, List.mem_singleton, List.mem_map] at hi
  rcases hi with (rfl | ⟨value, hvalue, rfl⟩) | rfl
  · exact isReadable_code (hknown "aws" (by simp))
  · exact hliteral value hvalue
  · exact isReadable_code (hknown "args" (by simp))

/-- Keywords that hold plain texts are readable. -/
theorem isReadable_of_mem_keywordItems (h : contradiction? d.metadata op.http = none)
    (hplain : ∀ value ∈ requestTexts d.metadata key op, Text.IsPlain value) :
    ∀ i ∈ keywordItems d.metadata, i.IsReadable := by
  have hknown : ∀ name ∈ parameterNames, name ≠ "" ∧
      (name ++ "=" ++ name).toList.all isItemChar = true := by
    decide
  intro i hi
  rcases List.mem_append.mp hi with hparameter | hargs
  · obtain ⟨p, hp, rfl⟩ := List.mem_map.mp hparameter
    obtain ⟨hne, hchars⟩ :=
      hknown p.name ((names_sublist d.metadata).subset (List.mem_map_of_mem hp))
    cases p with
    | passed name =>
      simp only [Parameter.name] at hne hchars
      exact isReadable_code ⟨by simp [hne], hchars⟩
    | literal name value =>
      rw [Parameter.name, String.toList_append, List.all_append, Bool.and_eq_true] at hchars
      exact isReadable_literal hchars.1
        (isPlain_of_literal_mem h hplain (.inr (literal_mem_dispatcherFragments.mpr ⟨name, hp⟩)))
  · obtain rfl := List.mem_singleton.mp hargs
    exact isReadable_code (by decide)

/-! ### From the call to the transport layer -/

/-- A generated call and its service's dispatcher fit together. What is emitted for an operation
holds the arguments of its call as a list, and the dispatcher that is emitted for its service holds
the formal parameters and the keywords. The call has a literal for each parameter that it is to pass
on, so the arguments meet the formal parameters one by one; no keyword is given twice, and the
transport layer receives exactly what the request has to carry. The documentation shows the literals
of the call. Formal parameters are read as they were written, and so are the arguments and the
keywords if the texts that come from the description are plain. -/
theorem call_reaches_transport (e : Text.Escapes) {text : String}
    (h : (operationBinding d docs moduleName key op).outcome = .ok text) :
    ∃ (documentation rest listed : String) (s : Signatures) (values : List String),
      text = docstring documentation ++ callOpening d.metadata key ++
        listSource ", " (argumentItems d.metadata key op) (callClosing key) ∧
      (Dispatcher.ofMetadata d.metadata).text = dispatcherOpening d.metadata ++
        listSource ", " (formalItems d.metadata) (transportOpening d.metadata ++
          listSource keywordSeparator (keywordItems d.metadata) dispatcherClosing) ∧
      argumentItems d.metadata key op =
        [⟨"aws", none⟩] ++ values.map (⟨"", some ·⟩) ++ [⟨"args", none⟩] ∧
      List.Forall₂ (fun name value => passedValue? key op name = some value)
        (DispatchPlan.ofMetadata d.metadata).passed values ∧
      (argumentItems d.metadata key op).length = (formalItems d.metadata).length ∧
      ((keywordItems d.metadata).map Item.name).Nodup ∧
      receive? (formalItems d.metadata) (keywordItems d.metadata)
        (argumentItems d.metadata key op) = some (requestKeywords d.metadata key op) ∧
      documentation = usageSection d moduleName key s ++ "\n\n" ++ rest ∧
      argumentList d op = .ok listed ∧
      s.qualifiedDictionary = (Dispatcher.ofMetadata d.metadata).name ++ "([::AWSConfig], " ++
        ", ".intercalate (values.map fun value => "\"" ++ value ++ "\"") ++ ", arguments::Dict)" ∧
      s.qualifiedKeyword = (Dispatcher.ofMetadata d.metadata).name ++ "([::AWSConfig], " ++
        ", ".intercalate (values.map fun value => "\"" ++ value ++ "\"") ++
        (if listed.isEmpty then "" else ", " ++ listed) ++ ")" ∧
      (∀ behind, readList e (listSource ", " (formalItems d.metadata) behind) =
        some (formalItems d.metadata, behind)) ∧
      ((∀ value ∈ requestTexts d.metadata key op, Text.IsPlain value) → ∀ behind,
        readList e (listSource ", " (argumentItems d.metadata key op) behind) =
          some (argumentItems d.metadata key op, behind) ∧
        readList e (listSource keywordSeparator (keywordItems d.metadata) behind) =
          some (keywordItems d.metadata, behind)) := by
  obtain ⟨hrequest, s, documentation, hs, hdocumentation, htext⟩ :=
    outcome_operationBinding_eq_ok_iff.mp h
  obtain ⟨rest, hrest⟩ := exists_operationDocumentation_eq hdocumentation
  obtain ⟨listed, hlisted, hdictionary, hkeyword⟩ := exists_argumentList_of_signatures hs
  rw [passedLiterals_eq] at hdictionary hkeyword
  have hcomma : IsSeparator ", " := ⟨[' '], by decide⟩
  have hlines : IsSeparator keywordSeparator := ⟨'\n' :: List.replicate 8 ' ', by decide⟩
  refine ⟨documentation, rest, listed, s, passedValues d.metadata key op, ?_, text_ofMetadata _,
    rfl, forall₂_passedValues _ key op, length_argumentItems _ key op, nodup_names_keywordItems _,
    receive?_eq_requestKeywords key hrequest, hrest, hlisted, hdictionary, hkeyword, ?_, ?_⟩
  · rw [htext, text_ofOperation, String.append_assoc]
  · exact readList_listSource hcomma (by simp [formalItems, Dispatcher.formals])
      isReadable_of_mem_formalItems
  · intro hplain behind
    exact ⟨readList_listSource hcomma (by simp [argumentItems])
        (isReadable_of_mem_argumentItems hrequest hplain) behind,
      readList_listSource hlines (by simp [keywordItems])
        (isReadable_of_mem_keywordItems hrequest hplain) behind⟩

/-- The operation has a binding. Its call is read with three literals, and everything that its
request has to carry arrives. -/
theorem listJobs_reaches_transport :
    ∃ text front back,
      (operationBinding jobsDescription id "Jobs" "ListJobs" listJobs).outcome = .ok text ∧
      text = front ++ "AWSCore.Services.importexport(" ++
        ("aws, \"GET\", \"/jobs\", \"ListJobs\", args)" ++ callClosing "ListJobs") ∧
      readList .common
          ("aws, \"GET\", \"/jobs\", \"ListJobs\", args)" ++ callClosing "ListJobs") =
        some ([⟨"aws", none⟩, ⟨"", some "GET"⟩, ⟨"", some "/jobs"⟩, ⟨"", some "ListJobs"⟩,
          ⟨"args", none⟩], callClosing "ListJobs") ∧
      (Dispatcher.ofMetadata jobsDescription.metadata).text = "function importexport(" ++
        ("aws::AWSConfig, verb, resource, operation, args=[])" ++ back) ∧
      readList .common ("aws::AWSConfig, verb, resource, operation, args=[])" ++ back) =
        some ([⟨"aws::AWSConfig", none⟩, ⟨"verb", none⟩, ⟨"resource", none⟩, ⟨"operation", none⟩,
          ⟨"args=[]", none⟩], back) ∧
      receive? [⟨"aws::AWSConfig", none⟩, ⟨"verb", none⟩, ⟨"resource", none⟩,
          ⟨"operation", none⟩, ⟨"args=[]", none⟩] (keywordItems jobsDescription.metadata)
          [⟨"aws", none⟩, ⟨"", some "GET"⟩, ⟨"", some "/jobs"⟩, ⟨"", some "ListJobs"⟩,
            ⟨"args", none⟩] =
        some [("service", .literal "jobs"), ("version", .literal "2010-06-01"),
          ("endpoint", .literal "importexport"), ("verb", .literal "GET"),
          ("resource", .literal "/jobs"), ("json_version", .literal "1.0"),
          ("target", .literal "Jobs"), ("operation", .literal "ListJobs"),
          ("args", .variable "args")] := by
  obtain ⟨text, h⟩ : ∃ text,
      (operationBinding jobsDescription id "Jobs" "ListJobs" listJobs).outcome = .ok text :=
    ⟨_, rfl⟩
  obtain ⟨documentation, -, -, -, -, htext, hdispatcher, -, -, -, -, hreceived, -, -, -, -,
    hformals, hread⟩ := call_reaches_transport .common h
  obtain ⟨opening, hopening⟩ : ∃ opening, callOpening jobsDescription.metadata "ListJobs" =
      opening ++ "AWSCore.Services.importexport(" :=
    ⟨"@inline list_jobs(aws::AWSConfig=default_aws_config(); args...) = list_jobs(aws, args)\n\n" ++
      "@inline list_jobs(aws::AWSConfig, args) =\n    ", by decide +kernel⟩
  have harguments : ∀ behind,
      listSource ", " (argumentItems jobsDescription.metadata "ListJobs" listJobs) behind =
        "aws, \"GET\", \"/jobs\", \"ListJobs\", args)" ++ behind :=
    fun behind => congrArg (· ++ behind) (by decide +kernel)
  have hformalsText : ∀ behind, listSource ", " (formalItems jobsDescription.metadata) behind =
      "aws::AWSConfig, verb, resource, operation, args=[])" ++ behind :=
    fun behind => congrArg (· ++ behind) (by decide +kernel)
  have hplain : ∀ value ∈ requestTexts jobsDescription.metadata "ListJobs" listJobs,
      Text.IsPlain value := by
    decide
  have hcall := (hread hplain (callClosing "ListJobs")).1
  rw [harguments] at htext hcall
  rw [hformalsText] at hdispatcher
  refine ⟨text, docstring documentation ++ opening, _, h, ?_, hcall, hdispatcher, ?_, hreceived⟩
  · rw [htext, hopening]
    simp only [String.append_assoc]
  · rw [← hformalsText]
    exact hformals _

/-! ### A call with an argument too many -/

/-- A service that selects operations by their paths. -/
def pathDescription : Description := .ofMetadata (.ofRequired .restJson "paths" "1")

/-- An operation whose path holds quotes with a comma between them. -/
def getPath : Operation := .ofRequest "GetPath" ⟨.get, "/a\", \"b"⟩

/-- An operation is accepted although its call does not fit its dispatcher: the path is read as two
arguments, so there is one argument more than formal parameters. -/
theorem quoted_path_adds_argument :
    ∃ text front back,
      (operationBinding pathDescription id "Paths" "GetPath" getPath).outcome = .ok text ∧
      text = front ++ "AWSCore.Services.paths(" ++
        ("aws, \"GET\", \"/a\", \"b\", args)" ++ callClosing "GetPath") ∧
      (Dispatcher.ofMetadata pathDescription.metadata).text = "function paths(" ++
        ("aws::AWSConfig, verb, resource, args=[])" ++ back) ∧
      ∀ e : Text.Escapes,
        readList e ("aws, \"GET\", \"/a\", \"b\", args)" ++ callClosing "GetPath") =
          some ([⟨"aws", none⟩, ⟨"", some "GET"⟩, ⟨"", some "/a"⟩, ⟨"", some "b"⟩, ⟨"args", none⟩],
            callClosing "GetPath") ∧
        readList e ("aws::AWSConfig, verb, resource, args=[])" ++ back) =
          some ([⟨"aws::AWSConfig", none⟩, ⟨"verb", none⟩, ⟨"resource", none⟩, ⟨"args=[]", none⟩],
            back) ∧
        receive? [⟨"aws::AWSConfig", none⟩, ⟨"verb", none⟩, ⟨"resource", none⟩, ⟨"args=[]", none⟩]
          (keywordItems pathDescription.metadata)
          [⟨"aws", none⟩, ⟨"", some "GET"⟩, ⟨"", some "/a"⟩, ⟨"", some "b"⟩, ⟨"args", none⟩] =
            none := by
  obtain ⟨text, h⟩ : ∃ text,
      (operationBinding pathDescription id "Paths" "GetPath" getPath).outcome = .ok text :=
    ⟨_, rfl⟩
  obtain ⟨-, -, documentation, -, -, htext⟩ := outcome_operationBinding_eq_ok_iff.mp h
  obtain ⟨opening, hopening⟩ : ∃ opening, callOpening pathDescription.metadata "GetPath" =
      opening ++ "AWSCore.Services.paths(" :=
    ⟨"@inline get_path(aws::AWSConfig=default_aws_config(); args...) = get_path(aws, args)\n\n" ++
      "@inline get_path(aws::AWSConfig, args) =\n    ", by decide +kernel⟩
  have harguments : ∀ behind,
      listSource ", " (argumentItems pathDescription.metadata "GetPath" getPath) behind =
        "aws, \"GET\", \"/a\", \"b\", args)" ++ behind :=
    fun behind => congrArg (· ++ behind) (by decide +kernel)
  have hformals : ∀ behind, listSource ", " (formalItems pathDescription.metadata) behind =
      "aws::AWSConfig, verb, resource, args=[])" ++ behind :=
    fun behind => congrArg (· ++ behind) (by decide +kernel)
  -- The same source is that of a list in which the path is cut in two.
  have hcut : ∀ behind, listSource ", " [⟨"aws", none⟩, ⟨"", some "GET"⟩, ⟨"", some "/a"⟩,
      ⟨"", some "b"⟩, ⟨"args", none⟩] behind = "aws, \"GET\", \"/a\", \"b\", args)" ++ behind :=
    fun behind => congrArg (· ++ behind) (by decide +kernel)
  have hcomma : IsSeparator ", " := ⟨[' '], by decide⟩
  refine ⟨text, docstring documentation ++ opening, dispatcherBody pathDescription.metadata, h, ?_,
    ?_, fun e => ⟨?_, ?_, rfl⟩⟩
  · rw [htext, text_ofOperation, harguments, hopening]
    simp only [String.append_assoc]
  · rw [text_ofMetadata, hformals]
    rfl
  · rw [← hcut]
    refine readList_listSource hcomma (by simp) ?_ _
    simp only [List.forall_mem_cons, List.not_mem_nil, false_imp_iff, implies_true, and_true]
    exact ⟨isReadable_code (by decide), isReadable_literal (by simp) (by decide),
      isReadable_literal (by simp) (by decide), isReadable_literal (by simp) (by decide),
      isReadable_code (by decide)⟩
  · rw [← hformals]
    exact readList_listSource hcomma (by simp [formalItems, Dispatcher.formals])
      isReadable_of_mem_formalItems _

end ApiBindings.Bindings
