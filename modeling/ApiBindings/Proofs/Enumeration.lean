import ApiBindings.Bindings.Binding
import ApiBindings.Proofs.Descent

/-!
# Enumerations read back

Values of a string shape and errors of an operation are enumerated in prose, each between quotes. A
reader that goes from quote to quote gets them back: commas, blanks and `or` inside a word are part
of the word, since only behind a closing quote does it look for what joins two words. So the text of
an enumeration tells which words there are, how many, and in which order.
-/

namespace ApiBindings.Text

/-! ### Joined words -/

/-- What joins a word to the words behind it. -/
def joint : List String → String
  | [] => ""
  | [_] => " or "
  | _ => ", "

private theorem joinOr_cons (word : String) (rest : List String) :
    joinOr (word :: rest) = word ++ joint rest ++ joinOr rest := by
  match rest with
  | [] => simp [joinOr, joint]
  | [_] => rfl
  | _ :: _ :: _ => rfl

/-- A word between two quotes of a kind. -/
def enclosed (quote : Char) (word : String) : String :=
  String.singleton quote ++ word ++ String.singleton quote

variable {quote : Char}

private theorem toList_joinOr_cons (word : String) (rest : List String) :
    (joinOr ((word :: rest).map (enclosed quote))).toList =
      quote :: (word.toList ++ quote :: ((joint (rest.map (enclosed quote))).toList ++
        (joinOr (rest.map (enclosed quote))).toList)) := by
  rw [List.map_cons, joinOr_cons, enclosed]
  simp

/-! ### The reader -/

/-- Reads the words of an enumeration. Inside a word, the first argument holds what was read of it,
in reverse. Behind a closing quote it is `none`: there a comma or `or` leads to the opening quote of
the next word, and anything else ends the enumeration. -/
def alternativesFrom (quote : Char) : Option (List Char) → List Char → List (List Char)
  | some _, [] => []
  | some read, c :: rest =>
    if c = quote then read.reverse :: alternativesFrom quote none rest
    else alternativesFrom quote (some (c :: read)) rest
  | none, ',' :: ' ' :: _ :: rest => alternativesFrom quote (some []) rest
  | none, ' ' :: 'o' :: 'r' :: ' ' :: _ :: rest => alternativesFrom quote (some []) rest
  | none, _ => []

/-- The words of an enumeration of words between quotes; the first of them follows the first
quote. -/
def alternatives (quote : Char) (text : String) : List String :=
  (alternativesFrom quote (some []) (text.toList.drop 1)).map String.ofList

private theorem alternativesFrom_append {word : List Char} (h : quote ∉ word)
    (read rest : List Char) : alternativesFrom quote (some read) (word ++ quote :: rest) =
      (read.reverse ++ word) :: alternativesFrom quote none rest := by
  induction word generalizing read with
  | nil => simp [alternativesFrom]
  | cons c word ih =>
    simp only [List.mem_cons, not_or] at h
    rw [List.cons_append, alternativesFrom, if_neg (Ne.symm h.1), ih h.2]
    simp

private theorem alternativesFrom_joint (words : List String) :
    alternativesFrom quote none ((joint (words.map (enclosed quote))).toList ++
        (joinOr (words.map (enclosed quote))).toList) =
      alternativesFrom quote (some []) ((joinOr (words.map (enclosed quote))).toList.drop 1) := by
  cases words with
  | nil => rfl
  | cons word rest =>
    rw [toList_joinOr_cons]
    cases rest <;> simp [joint, alternativesFrom]

/-- Words without the quote that they stand between are read back. -/
theorem alternatives_joinOr {words : List String} (h : ∀ w ∈ words, quote ∉ w.toList) :
    alternatives quote (joinOr (words.map (enclosed quote))) = words := by
  induction words with
  | nil => rfl
  | cons word rest ih =>
    obtain ⟨hword, hrest⟩ := List.forall_mem_cons.mp h
    rw [alternatives, toList_joinOr_cons, List.drop_succ_cons, List.drop_zero,
      alternativesFrom_append hword, alternativesFrom_joint, List.map_cons, ← alternatives,
      ih hrest]
    simp

/-- Enumerations of words between quotes are equal only if the words are. -/
theorem joinOr_enclosed_inj {words words' : List String} (h : ∀ w ∈ words, quote ∉ w.toList)
    (h' : ∀ w ∈ words', quote ∉ w.toList) :
    joinOr (words.map (enclosed quote)) = joinOr (words'.map (enclosed quote)) ↔
      words = words' := by
  constructor
  · intro htext
    rw [← alternatives_joinOr h, htext, alternatives_joinOr h']
  · rintro rfl
    rfl

end ApiBindings.Text

namespace ApiBindings.Bindings

open Service

variable {d : Description} {docs : Formatter} {indent : String} {chain : List String}
  {name : String}

/-! ### Values and errors -/

private theorem render_string {values : List String} (hindent : indent ≠ "")
    (hfound : d.shapes.find? name = some (.string values)) (hnew : name ∉ chain) :
    (render d docs indent chain name).outcome = .ok (if values.isEmpty then "::String"
      else Text.joinOr (values.map (Text.enclosed '"'))) := by
  have hnonempty : ¬ indent.isEmpty = true := mt String.isEmpty_iff.mp hindent
  rw [render, if_neg hnonempty, expand_new hfound hnew, expandShape, Report.done_map]
  cases values <;> rfl

private theorem exists_alternatives_render {values : List String} (hindent : indent ≠ "")
    (hfound : d.shapes.find? name = some (.string values)) (hnew : name ∉ chain)
    (hvalues : ∀ v ∈ values, '"' ∉ v.toList) :
    ∃ text, (render d docs indent chain name).outcome = .ok text ∧
      Text.alternatives '"' text = values := by
  refine ⟨_, render_string hindent hfound hnew, ?_⟩
  cases values with
  | nil => decide
  | cons v rest => exact Text.alternatives_joinOr hvalues

/-- The errors of an operation can be told from the part that names them. -/
theorem errorSections_inj {op op' : Operation} (h : ∀ e ∈ op.errors, '\x60' ∉ e.toList)
    (h' : ∀ e ∈ op'.errors, '\x60' ∉ e.toList) :
    errorSections op = errorSections op' ↔ op.errors = op'.errors := by
  have hsection : ∀ op : Operation, errorSections op = if op.errors.isEmpty then []
      else ["# Exceptions\n\n" ++ Text.joinOr (op.errors.map (Text.enclosed '\x60')) ++ "."] :=
    fun _ => rfl
  constructor
  · intro htext
    rw [hsection, hsection] at htext
    split at htext <;> split at htext
    next hnone hnone' => rw [List.isEmpty_iff.mp hnone, List.isEmpty_iff.mp hnone']
    next => cases htext
    next => cases htext
    next =>
      have hjoined := List.singleton_inj.mp htext
      rw [String.append_left_inj, String.append_right_inj] at hjoined
      exact (Text.joinOr_enclosed_inj h h').mp hjoined
  · intro heq
    rw [hsection, hsection, heq]

/-- Enumerations lose nothing. Words between quotes, each free of the quote, are read back from the
text that joins them, whatever else they hold; so two such texts are equal if and only if the words
are, with their number and order. The values of a string shape are read back from its text in this
way, and the part of the documentation that names the errors of an operation tells them apart. -/
theorem enumerations_lose_nothing :
    (∀ (quote : Char) (words : List String), (∀ w ∈ words, quote ∉ w.toList) →
      Text.alternatives quote (Text.joinOr (words.map (Text.enclosed quote))) = words) ∧
    (∀ (quote : Char) (words words' : List String), (∀ w ∈ words, quote ∉ w.toList) →
      (∀ w ∈ words', quote ∉ w.toList) →
      (Text.joinOr (words.map (Text.enclosed quote)) =
        Text.joinOr (words'.map (Text.enclosed quote)) ↔ words = words')) ∧
    (∀ (d : Description) (docs : Formatter) (indent : String) (chain : List String)
      (name : String) (values : List String), indent ≠ "" →
      d.shapes.find? name = some (.string values) → name ∉ chain →
      (∀ v ∈ values, '"' ∉ v.toList) →
      ∃ text, (render d docs indent chain name).outcome = .ok text ∧
        Text.alternatives '"' text = values) ∧
    ∀ op op' : Operation, (∀ e ∈ op.errors, '\x60' ∉ e.toList) →
      (∀ e ∈ op'.errors, '\x60' ∉ e.toList) →
      (errorSections op = errorSections op' ↔ op.errors = op'.errors) :=
  ⟨fun _ _ => Text.alternatives_joinOr, fun _ _ _ => Text.joinOr_enclosed_inj,
    fun _ _ _ _ _ _ => exists_alternatives_render, fun _ _ => errorSections_inj⟩

/-- A paint of two colours, each of which is an enumeration itself. -/
def paintDescription : Description :=
  (Description.ofMetadata (.ofRequired .json "paint" "1")).putShape "Paint"
    (.string ["red, green", "blue or grey"])

/-- An operation with given errors. -/
def mixOperation (errors : List String) : Operation :=
  { Operation.ofRequest "Mix" .postRoot with errors }

/-- Words that only their quotes tell apart, and words between letters that also join them. -/
theorem paints_read_back :
    Text.joinOr ["red, green", "blue or grey"] = Text.joinOr ["red", "green or blue", "grey"] ∧
      Text.joinOr (["red, green", "blue or grey"].map (Text.enclosed '"')) ≠
        Text.joinOr (["red", "green or blue", "grey"].map (Text.enclosed '"')) ∧
      Text.joinOr (["red", "", ", "].map (Text.enclosed 'o')) = "oredo, oo or o, o" ∧
      Text.alternatives 'o' "oredo, oo or o, o" = ["red", "", ", "] ∧
      (∃ text, (render paintDescription id indentUnit [] "Paint").outcome = .ok text ∧
        Text.alternatives '"' text = ["red, green", "blue or grey"]) ∧
      errorSections (mixOperation ["red, green", "blue or grey"]) ≠
        errorSections (mixOperation ["red", "green or blue", "grey"]) := by
  obtain ⟨hread, htell, hvalues, herrors⟩ := enumerations_lose_nothing
  have hdiffer : ["red, green", "blue or grey"] ≠ ["red", "green or blue", "grey"] := by decide
  have hjoined : Text.joinOr (["red", "", ", "].map (Text.enclosed 'o')) = "oredo, oo or o, o" := by
    decide
  refine ⟨by decide, ?_, hjoined, ?_, ?_, ?_⟩
  · exact mt (htell '"' _ _ (by decide) (by decide)).mp hdiffer
  · rw [← hjoined]
    exact hread 'o' _ (by decide)
  · exact hvalues paintDescription id indentUnit [] "Paint" _ (by decide) rfl (by decide)
      (by decide)
  · exact mt (herrors (mixOperation _) (mixOperation _) (by decide) (by decide)).mp hdiffer

end ApiBindings.Bindings
