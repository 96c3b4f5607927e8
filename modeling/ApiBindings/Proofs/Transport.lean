import ApiBindings.Proofs.Binding
import Mathlib.Data.List.Nodup

/-!
# What reaches the transport layer

A generated binding calls the dispatcher with arguments by position, and the dispatcher hands
keywords to the transport layer. Binding the arguments to the formal parameters and evaluating the
keywords shows what a request carries: every parameter of the plan once, with the value of the
service or the operation.
-/

namespace ApiBindings.Bindings

open Service

/-! ### Items of lists in generated code -/

/-- What an expression in generated code stands for. -/
inductive Expression where
  | literal (text : String)
  | variable (name : String)
  deriving DecidableEq, Repr

/-- An item of a list in generated code: an argument, a formal parameter or a keyword argument. It
is some code, and behind it there may be a literal. -/
structure Item where
  code : String
  literal? : Option String
  deriving DecidableEq, Repr

namespace Item

/-- The source of an item. A literal is the text between its quotes. -/
def source (i : Item) : String :=
  match i.literal? with
  | none => i.code
  | some text => i.code ++ "\"" ++ text ++ "\""

/-- The name that an item starts with, in front of a type or a value. -/
def name (i : Item) : String :=
  String.ofList (i.code.toList.takeWhile fun c => c != ':' && c != '=')

/-- What stands behind the first equals sign of an item. -/
def value (i : Item) : Item :=
  ⟨String.ofList ((i.code.toList.dropWhile (· != '=')).drop 1), i.literal?⟩

/-- The expression that an item is: a variable, or a literal without code in front of it. -/
def expression? (i : Item) : Option Expression :=
  match i.literal? with
  | none => some (.variable i.code)
  | some text => if i.code = "" then some (.literal text) else none

end Item

/-- What a keyword argument hands over: its literal, or the argument that is bound to its
variable. -/
def handedOver? (bound : List (String × Item)) (keyword : Item) : Option (String × Expression) :=
  keyword.value.expression?.bind fun
    | .literal text => some (keyword.name, .literal text)
    | .variable name => ((bound.lookup name).bind Item.expression?).map (keyword.name, ·)

/-- What a function with the given formal parameters hands on under its keywords when it is called
with the given arguments. There must be as many as formal parameters, and every variable must be one
of these. -/
def receive? (formals keywords arguments : List Item) : Option (List (String × Expression)) :=
  if arguments.length = formals.length then
    keywords.mapM (handedOver? ((formals.map Item.name).zip arguments))
  else none

/-! ### The lists of a call and its dispatcher -/

/-- The formal parameters of a service's dispatcher. -/
def formalItems (m : Metadata) : List Item :=
  (Dispatcher.ofMetadata m).formals.map (⟨·, none⟩)

/-- A parameter as a keyword argument. -/
def Parameter.item : Parameter → Item
  | passed name => ⟨name ++ "=" ++ name, none⟩
  | literal name value => ⟨name ++ "=", some value⟩

/-- The keyword arguments of a service's dispatcher. -/
def keywordItems (m : Metadata) : List Item :=
  (DispatchPlan.ofMetadata m).parameters.map Parameter.item ++ [⟨"args=args", none⟩]

/-- The values that a call of an operation passes on. -/
def passedValues (m : Metadata) (key : String) (op : Operation) : List String :=
  (DispatchPlan.ofMetadata m).passed.filterMap (passedValue? key op)

/-- The arguments of an operation's call. -/
def argumentItems (m : Metadata) (key : String) (op : Operation) : List Item :=
  [⟨"aws", none⟩] ++ (passedValues m key op).map (⟨"", some ·⟩) ++ [⟨"args", none⟩]

variable {d : Description} {m : Metadata} {key : String} {op : Operation}

/-- The formal parameters are written as they are. -/
theorem map_source_formalItems :
    (formalItems m).map Item.source = (Dispatcher.ofMetadata m).formals := by
  simp [formalItems, Item.source, Function.comp_def]

/-- The keyword arguments are written as their items. -/
theorem map_source_keywordItems :
    (keywordItems m).map Item.source = (Dispatcher.ofMetadata m).keywords := by
  have hparameter : Item.source ∘ Parameter.item = Parameter.keyword := by
    funext p
    cases p with
    | passed name => rfl
    | literal name value =>
      have hquote : ("=\"" : String) = "=" ++ "\"" := by decide
      simp [Item.source, Parameter.item, Parameter.keyword, hquote, String.append_assoc]
  rw [keywordItems, List.map_append, List.map_map, hparameter]
  rfl

/-- The literals of a call are the values that it passes on, between quotes. -/
theorem passedLiterals_eq :
    passedLiterals d key op =
      (passedValues d.metadata key op).map fun value => "\"" ++ value ++ "\"" := by
  rw [passedLiterals, passedValues, List.map_filterMap]

/-- The arguments of a call are written as their items. -/
theorem map_source_argumentItems :
    (argumentItems d.metadata key op).map Item.source =
      (CallThrough.ofOperation d key op).arguments := by
  simp [argumentItems, CallThrough.arguments, CallThrough.ofOperation, passedLiterals_eq,
    Item.source, Function.comp_def]

/-! ### The parameters of a plan -/

/-- Every parameter that the transport layer knows, in order. -/
def parameterNames : List String :=
  ["service", "version", "endpoint", "verb", "resource", "json_version", "target", "operation"]

/-- A plan has some of the known parameters, in their order. -/
theorem names_sublist (m : Metadata) :
    (DispatchPlan.ofMetadata m).names.Sublist parameterNames := by
  simp only [DispatchPlan.names, DispatchPlan.ofMetadata]
  split <;> split <;> split <;> split <;> simp [parameterNames, Parameter.name]

/-- The parameters that calls may pass on, in order. -/
def passedNames : List String := ["verb", "resource", "operation"]

/-- A plan has calls pass on some of these, in their order. -/
theorem passed_sublist (m : Metadata) :
    (DispatchPlan.ofMetadata m).passed.Sublist passedNames := by
  simp only [DispatchPlan.passed, DispatchPlan.ofMetadata]
  split <;> split <;> split <;> split <;> simp [passedNames, List.filterMap, Parameter.passed?]

/-- Operations have a value for every parameter that calls may pass on. -/
theorem exists_passedValue? {name : String} (h : name ∈ passedNames) (key : String)
    (op : Operation) : ∃ value, passedValue? key op name = some value := by
  simp only [passedNames, List.mem_cons, List.not_mem_nil, or_false] at h
  rcases h with rfl | rfl | rfl <;> exact ⟨_, rfl⟩

private theorem forall₂_filterMap {α β : Type} {f : α → Option β} {l : List α}
    (h : ∀ a ∈ l, ∃ b, f a = some b) :
    List.Forall₂ (fun a b => f a = some b) l (l.filterMap f) := by
  induction l with
  | nil => exact .nil
  | cons a l ih =>
    obtain ⟨b, hb⟩ := h a (by simp)
    rw [List.filterMap_cons_some hb]
    exact .cons hb (ih fun x hx => h x (by simp [hx]))

/-- Calls leave out none of the parameters that they are to pass on. -/
theorem forall₂_passedValues (m : Metadata) (key : String) (op : Operation) :
    List.Forall₂ (fun name value => passedValue? key op name = some value)
      (DispatchPlan.ofMetadata m).passed (passedValues m key op) :=
  forall₂_filterMap fun _ hname => exists_passedValue? ((passed_sublist m).subset hname) key op

/-- The call has as many arguments as its dispatcher has formal parameters. -/
theorem length_argumentItems (m : Metadata) (key : String) (op : Operation) :
    (argumentItems m key op).length = (formalItems m).length := by
  have hlength := (forall₂_passedValues m key op).length_eq
  simp [argumentItems, formalItems, Dispatcher.formals, Dispatcher.ofMetadata, hlength]

/-! ### A call of the dispatcher -/

private theorem not_mem_of_mem_names {name : String}
    (h : name ∈ (DispatchPlan.ofMetadata m).names) {c : Char} (hc : c = ':' ∨ c = '=') :
    c ∉ name.toList := by
  have hall : ∀ known ∈ parameterNames, ':' ∉ known.toList ∧ '=' ∉ known.toList := by decide
  obtain ⟨hcolon, hequals⟩ := hall name ((names_sublist m).subset h)
  rcases hc with rfl | rfl
  · exact hcolon
  · exact hequals

private theorem name_of_plain {name : String} (h : ∀ c, c = ':' ∨ c = '=' → c ∉ name.toList)
    (rest : String) (literal? : Option String) :
    Item.name ⟨name ++ "=" ++ rest, literal?⟩ = name := by
  have hname : ∀ c ∈ name.toList, (c != ':' && c != '=') = true := by
    intro c hc
    rw [Bool.and_eq_true, bne_iff_ne, bne_iff_ne]
    exact ⟨fun heq => h c (.inl heq) hc, fun heq => h c (.inr heq) hc⟩
  have hchars : (name ++ "=" ++ rest).toList = name.toList ++ '=' :: rest.toList := by simp
  rw [Item.name, hchars, List.takeWhile_append_of_pos hname]
  simp

private theorem value_of_plain {name : String} (h : '=' ∉ name.toList) (rest : String)
    (literal? : Option String) :
    Item.value ⟨name ++ "=" ++ rest, literal?⟩ = ⟨rest, literal?⟩ := by
  have hname : ∀ c ∈ name.toList, (c != '=') = true := by
    intro c hc
    rw [bne_iff_ne]
    rintro rfl
    exact h hc
  have hchars : (name ++ "=" ++ rest).toList = name.toList ++ '=' :: rest.toList := by simp
  rw [Item.value, hchars, List.dropWhile_append_of_pos hname]
  simp

/-- What is bound in a call: the configuration, each passed parameter to its literal, and the
dictionary of arguments. -/
def boundBy (m : Metadata) (key : String) (op : Operation) : List (String × Item) :=
  [("aws", ⟨"aws", none⟩)] ++
    (DispatchPlan.ofMetadata m).passed.zip ((passedValues m key op).map (⟨"", some ·⟩)) ++
    [("args", ⟨"args", none⟩)]

private theorem names_formalItems (m : Metadata) :
    (formalItems m).map Item.name = ["aws"] ++ (DispatchPlan.ofMetadata m).passed ++ ["args"] := by
  have hname : ∀ name ∈ passedNames, Item.name ⟨name, none⟩ = name := by decide
  have hpassed : (DispatchPlan.ofMetadata m).passed.map (fun name => Item.name ⟨name, none⟩) =
      (DispatchPlan.ofMetadata m).passed :=
    (List.map_congr_left fun name h => hname name ((passed_sublist m).subset h)).trans
      (List.map_id _)
  have haws : Item.name ⟨"aws::AWSConfig", none⟩ = "aws" := by decide
  have hargs : Item.name ⟨"args=[]", none⟩ = "args" := by decide
  simp [formalItems, Dispatcher.formals, Dispatcher.ofMetadata, Function.comp_def, haws, hargs,
    hpassed]

private theorem zip_formalItems_argumentItems (m : Metadata) (key : String) (op : Operation) :
    ((formalItems m).map Item.name).zip (argumentItems m key op) = boundBy m key op := by
  have hlength : (DispatchPlan.ofMetadata m).passed.length =
      ((passedValues m key op).map fun value => (⟨"", some value⟩ : Item)).length := by
    rw [List.length_map, (forall₂_passedValues m key op).length_eq]
  rw [names_formalItems, argumentItems, List.zip_append (by simpa using hlength),
    List.zip_append (by rfl)]
  rfl

private theorem lookup_zip_of_forall₂ {f : String → Option String} {names values : List String}
    (h : List.Forall₂ (fun name value => f name = some value) names values)
    (behind : List (String × Item)) {name value : String} (hname : name ∈ names)
    (hvalue : f name = some value) :
    (names.zip (values.map fun value => (⟨"", some value⟩ : Item)) ++ behind).lookup name =
      some ⟨"", some value⟩ := by
  induction h with
  | nil => cases hname
  | @cons first firstValue names values hfirst _ ih =>
    rw [List.map_cons, List.zip_cons_cons, List.cons_append, List.lookup_cons]
    by_cases heq : name = first
    · subst heq
      obtain rfl : value = firstValue := Option.some.inj (hvalue.symm.trans hfirst)
      simp
    · rw [beq_eq_false_iff_ne.mpr heq]
      exact ih ((List.mem_cons.mp hname).resolve_left heq)

private theorem lookup_zip_of_notMem {names : List String} {items : List Item}
    (behind : List (String × Item)) {name : String} (hname : name ∉ names) :
    (names.zip items ++ behind).lookup name = behind.lookup name := by
  induction names generalizing items with
  | nil => rfl
  | cons first names ih =>
    obtain ⟨hfirst, hrest⟩ := not_or.mp (mt List.mem_cons.mpr hname)
    cases items with
    | nil => rfl
    | cons item items =>
      rw [List.zip_cons_cons, List.cons_append, List.lookup_cons, beq_eq_false_iff_ne.mpr hfirst]
      exact ih hrest

/-- A passed parameter is bound to its literal. -/
theorem lookup_boundBy {name value : String} (h : name ∈ (DispatchPlan.ofMetadata m).passed)
    (hvalue : passedValue? key op name = some value) :
    (boundBy m key op).lookup name = some ⟨"", some value⟩ := by
  have hne : ∀ name ∈ passedNames, (name == "aws") = false := by decide
  rw [boundBy, List.append_assoc, List.singleton_append, List.lookup_cons,
    hne name ((passed_sublist m).subset h)]
  exact lookup_zip_of_forall₂ (forall₂_passedValues m key op) _ h hvalue

private theorem lookup_args_boundBy : (boundBy m key op).lookup "args" = some ⟨"args", none⟩ := by
  have hnot : "args" ∉ (DispatchPlan.ofMetadata m).passed := by
    have hknown : "args" ∉ passedNames := by decide
    exact fun h => hknown ((passed_sublist m).subset h)
  rw [boundBy, List.append_assoc, List.singleton_append, List.lookup_cons,
    show ("args" == "aws") = false by decide]
  exact (lookup_zip_of_notMem _ hnot).trans rfl

/-! ### What a request carries -/

/-- The value that a call passes on for a parameter, or the one baked in. -/
def parameterValue? (key : String) (op : Operation) : Parameter → Option String
  | .passed name => passedValue? key op name
  | .literal _ value => some value

/-- A parameter as a request carries it. -/
def carried? (key : String) (op : Operation) (p : Parameter) : Option (String × Expression) :=
  (parameterValue? key op p).map fun value => (p.name, .literal value)

/-- Each parameter of the plan is handed over under its name, with the value that the call passes
on or that is baked in. -/
theorem handedOver?_item {p : Parameter} (h : p ∈ (DispatchPlan.ofMetadata m).parameters) :
    handedOver? (boundBy m key op) p.item = carried? key op p := by
  have hname : ∀ c, c = ':' ∨ c = '=' → c ∉ p.name.toList :=
    fun _ => not_mem_of_mem_names (List.mem_map_of_mem h)
  cases p with
  | literal name value =>
    change ∀ c, c = ':' ∨ c = '=' → c ∉ name.toList at hname
    have hitem : (Parameter.literal name value).item = ⟨name ++ "=" ++ "", some value⟩ := by
      rw [Parameter.item, String.append_empty]
    rw [hitem, handedOver?, value_of_plain (hname _ (.inr rfl)), name_of_plain hname]
    rfl
  | passed name =>
    change ∀ c, c = ':' ∨ c = '=' → c ∉ name.toList at hname
    have hpassed : name ∈ (DispatchPlan.ofMetadata m).passed :=
      List.mem_filterMap.mpr ⟨_, h, rfl⟩
    obtain ⟨value, hvalue⟩ := exists_passedValue? ((passed_sublist m).subset hpassed) key op
    rw [Parameter.item, handedOver?, value_of_plain (hname _ (.inr rfl)), name_of_plain hname]
    simp [Item.expression?, lookup_boundBy hpassed hvalue, carried?, parameterValue?, hvalue,
      Parameter.name]

private theorem handedOver?_args :
    handedOver? (boundBy m key op) ⟨"args=args", none⟩ = some ("args", .variable "args") := by
  have hvalue : Item.value ⟨"args=args", none⟩ = ⟨"args", none⟩ := by decide
  have hname : Item.name ⟨"args=args", none⟩ = "args" := by decide
  rw [handedOver?, hvalue, hname]
  simp [Item.expression?, lookup_args_boundBy]

/-- What a request of an operation has to carry, by the metadata of its service. -/
def requestKeywords (m : Metadata) (key : String) (op : Operation) :
    List (String × Expression) :=
  [("service", Expression.literal m.signingName), ("version", Expression.literal m.apiVersion)] ++
    (if m.endpointPrefix = m.signingName then []
    else [("endpoint", Expression.literal m.endpointPrefix)]) ++
    [("verb", Expression.literal op.http.method.name),
      ("resource", Expression.literal op.http.requestUri)] ++
    (if m.protocol = .json then
      [("json_version", Expression.literal (jsonVersion m.declaredJsonVersion)),
        ("target", Expression.literal (m.targetPrefix.getD ""))]
    else []) ++
    (if m.protocol.isRest then [] else [("operation", Expression.literal key)]) ++
    [("args", Expression.variable "args")]

private theorem passesOperation_ofMetadata (m : Metadata) :
    (Family.ofMetadata m).passesOperation = !m.protocol.isRest := by
  rw [Family.ofMetadata]
  cases m.protocol.isRest with
  | true => rfl
  | false =>
    by_cases hrpc : m.endpointPrefix = rpcEndpoint
    · rw [if_neg (by simp), if_pos hrpc]
      rfl
    · rw [if_neg (by simp), if_neg hrpc]
      rfl

/-- The plan carries what the request has to, unless the request contradicts the protocol. -/
theorem plan_carries_requestKeywords (key : String) (h : contradiction? m op.http = none) :
    (DispatchPlan.ofMetadata m).parameters.map (carried? key op) ++
      [some ("args", Expression.variable "args")] = (requestKeywords m key op).map some := by
  have hrequest : ((if (Family.ofMetadata m).passesRequest then
        [Parameter.passed "verb", .passed "resource"]
      else [.literal "verb" "POST", .literal "resource" "/"]).map (carried? key op)) =
      [some ("verb", .literal op.http.method.name),
        some ("resource", .literal op.http.requestUri)] := by
    cases hfamily : (Family.ofMetadata m).passesRequest with
    | true => rfl
    | false =>
      have hsimple : Family.ofMetadata m = .simplePost := by
        simpa [Family.passesRequest] using hfamily
      rw [postRoot_of_not_contradiction h hsimple]
      rfl
  have hoperation : ((if (Family.ofMetadata m).passesOperation then
        [Parameter.passed "operation"]
      else []).map (carried? key op)) =
      if m.protocol.isRest then [] else [some ("operation", .literal key)] := by
    rw [passesOperation_ofMetadata]
    cases m.protocol.isRest <;> rfl
  simp only [DispatchPlan.ofMetadata, requestKeywords, List.map_append, hrequest, hoperation,
    apply_ite (List.map _)]
  rfl

private theorem mapM_eq_some_of_map {α β : Type} {f : α → Option β} {l : List α} {m : List β}
    (h : l.map f = m.map some) : l.mapM f = some m := by
  induction l generalizing m with
  | nil =>
    obtain rfl := List.map_eq_nil_iff.mp h.symm
    rfl
  | cons a l ih =>
    obtain ⟨b, m, rfl, hb, hm⟩ := List.map_eq_cons_iff.mp h.symm
    rw [List.mapM_cons, ← hb, ih hm.symm]
    rfl

/-- What the transport layer receives is what the request has to carry. -/
theorem receive?_eq_requestKeywords (key : String) (h : contradiction? m op.http = none) :
    receive? (formalItems m) (keywordItems m) (argumentItems m key op) =
      some (requestKeywords m key op) := by
  rw [receive?, if_pos (length_argumentItems m key op), zip_formalItems_argumentItems]
  apply mapM_eq_some_of_map
  rw [← plan_carries_requestKeywords key h, keywordItems, List.map_append, List.map_map]
  refine congrArg₂ (· ++ ·) (List.map_congr_left fun p hp => handedOver?_item hp) ?_
  rw [List.map_singleton, handedOver?_args]

/-- No keyword is given twice. -/
theorem nodup_names_keywordItems (m : Metadata) : ((keywordItems m).map Item.name).Nodup := by
  have hname : ∀ p ∈ (DispatchPlan.ofMetadata m).parameters, p.item.name = p.name := by
    intro p hp
    have hplain : ∀ c, c = ':' ∨ c = '=' → c ∉ p.name.toList :=
      fun _ => not_mem_of_mem_names (List.mem_map_of_mem hp)
    cases p with
    | passed name => exact name_of_plain hplain name none
    | literal name value =>
      have hitem := name_of_plain hplain "" (some value)
      rwa [String.append_empty] at hitem
  have hnames : (keywordItems m).map Item.name = (DispatchPlan.ofMetadata m).names ++ ["args"] := by
    rw [keywordItems, List.map_append, List.map_map]
    exact congrArg₂ (· ++ ·) (List.map_congr_left hname) (by decide)
  have hnodup : (parameterNames ++ ["args"]).Nodup := by decide
  rw [hnames]
  exact hnodup.sublist ((names_sublist m).append_right _)

end ApiBindings.Bindings
