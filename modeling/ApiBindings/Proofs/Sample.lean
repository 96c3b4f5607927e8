import ApiBindings.Bindings.Sample
import ApiBindings.Proofs.Delimiter
import ApiBindings.Proofs.Numeral

/-!
# Example values read back

The text of an example value tells all about the value, except whether a block without entries is
an object or an array. Texts are read from the left: a value's text ends where the text behind it
starts with a comma or a line break, and what its first character is tells its sort. An entry with
a key starts like an element that is a string; what follows the string tells them apart.
-/

namespace ApiBindings.Json.Value

mutual

/-- A tree with an empty array in place of every empty object. -/
def withEmptyArrays : Value → Value
  | null => null
  | boolean b => boolean b
  | number n => number n
  | string s => string s
  | array items => array (itemsWithEmptyArrays items)
  | object [] => array []
  | object (e :: rest) => object (entriesWithEmptyArrays (e :: rest))

/-- The elements of an array with an empty array in place of every empty object in them. -/
def itemsWithEmptyArrays : List Value → List Value
  | [] => []
  | v :: rest => v.withEmptyArrays :: itemsWithEmptyArrays rest

/-- The entries of an object with an empty array in place of every empty object in them. -/
def entriesWithEmptyArrays : List (String × Value) → List (String × Value)
  | [] => []
  | (key, v) :: rest => (key, v.withEmptyArrays) :: entriesWithEmptyArrays rest

end

/-- What an array or an object holds: values, under a key if it is an object. -/
def parts : Value → List (Option String × Value)
  | array items => items.map fun v => (none, v)
  | object entries => entries.map fun (key, v) => (some key, v)
  | _ => []

/-- Whether a tree is an array or an object. -/
def IsBlock : Value → Prop
  | array _ | object _ => True
  | _ => False

private theorem sizeOf_lt_of_mem_parts {v : Value} {p : Option String × Value} (h : p ∈ v.parts) :
    sizeOf p.2 < sizeOf v := by
  cases v with
  | array items =>
    obtain ⟨item, hitem, rfl⟩ := List.mem_map.mp h
    have := List.sizeOf_lt_of_mem hitem
    simp only [array.sizeOf_spec]
    omega
  | object entries =>
    obtain ⟨⟨key, value⟩, hentry, rfl⟩ := List.mem_map.mp h
    have := List.sizeOf_lt_of_mem hentry
    simp only [object.sizeOf_spec, Prod.mk.sizeOf_spec] at this ⊢
    omega
  | null | boolean | number | string => cases h

/-- What holds of a tree if it holds of all that is in it holds of every tree. -/
theorem parts_induction {motive : Value → Prop}
    (step : ∀ v, (∀ p ∈ v.parts, motive p.2) → motive v) (v : Value) : motive v :=
  step v fun p _ => parts_induction step p.2
termination_by sizeOf v
decreasing_by exact sizeOf_lt_of_mem_parts ‹_›

private theorem itemsWithEmptyArrays_eq_map (items : List Value) :
    itemsWithEmptyArrays items = items.map withEmptyArrays := by
  induction items with
  | nil => rfl
  | cons v rest ih => rw [itemsWithEmptyArrays, ih, List.map_cons]

private theorem entriesWithEmptyArrays_eq_map (entries : List (String × Value)) :
    entriesWithEmptyArrays entries = entries.map fun e => (e.1, e.2.withEmptyArrays) := by
  induction entries with
  | nil => rfl
  | cons e rest ih =>
    obtain ⟨key, v⟩ := e
    rw [entriesWithEmptyArrays, ih, List.map_cons]

/-- An empty array stays what it is in place of an empty object. -/
theorem parts_withEmptyArrays (v : Value) :
    v.withEmptyArrays.parts = v.parts.map fun p => (p.1, p.2.withEmptyArrays) := by
  cases v with
  | array items => simp [withEmptyArrays, parts, itemsWithEmptyArrays_eq_map]
  | object entries =>
    cases entries <;> simp [withEmptyArrays, parts, entriesWithEmptyArrays_eq_map]
  | null | boolean | number | string => rfl

/-- The block that holds given parts: an object if they have keys. -/
def ofParts : List (Option String × Value) → Value
  | (some key, v) :: rest => object ((key, v) :: rest.map fun p => (p.1.getD "", p.2))
  | parts => array (parts.map Prod.snd)

private theorem ofParts_parts {v : Value} (h : v.IsBlock) :
    ofParts v.withEmptyArrays.parts = v.withEmptyArrays := by
  cases v with
  | array items =>
    cases items <;>
      simp [withEmptyArrays, itemsWithEmptyArrays_eq_map, parts, ofParts, Function.comp_def]
  | object entries =>
    cases entries <;>
      simp [withEmptyArrays, entriesWithEmptyArrays_eq_map, parts, ofParts, Function.comp_def]
  | null | boolean | number | string => cases h

/-- Blocks are alike up to their empty blocks if what they hold is. -/
theorem withEmptyArrays_eq_of_parts {v w : Value} (hv : v.IsBlock) (hw : w.IsBlock)
    (h : v.parts.map (fun p => (p.1, p.2.withEmptyArrays)) =
      w.parts.map fun p => (p.1, p.2.withEmptyArrays)) :
    v.withEmptyArrays = w.withEmptyArrays := by
  rw [← ofParts_parts hv, ← ofParts_parts hw, parts_withEmptyArrays, parts_withEmptyArrays, h]

end ApiBindings.Json.Value

namespace ApiBindings.Bindings

open Json (Number Value)
open Json.Value (IsBlock withEmptyArrays)

/-! ### String literals -/

/-- A character as a literal spells it. -/
def literalChar (c : Char) : List Char := if c = '"' ∨ c = '\\' then ['\\', c] else [c]

private theorem toList_literalText (s : String) :
    (literalText s).toList = '"' :: (s.toList.flatMap literalChar ++ ['"']) := by
  simp only [literalText, String.toList_append, String.toList_ofList]
  rfl

private theorem literalChar_append_inj {c d : Char} {r r' : List Char}
    (h : literalChar c ++ r = literalChar d ++ r') : c = d ∧ r = r' := by
  unfold literalChar at h
  split at h <;> split at h
  · simpa using h
  next hd =>
    obtain ⟨rfl, -⟩ := List.cons.inj h
    exact absurd (.inr rfl) hd
  next hc _ =>
    obtain ⟨rfl, -⟩ := List.cons.inj h
    exact absurd (.inr rfl) hc
  · simpa using h

private theorem literalChar_append_ne_quote (c : Char) (r r' : List Char) :
    literalChar c ++ r ≠ '"' :: r' := by
  intro h
  unfold literalChar at h
  split at h
  · cases h
  next hc =>
    obtain ⟨rfl, -⟩ := List.cons.inj h
    exact hc (.inl rfl)

private theorem literalChars_append_inj {s t r r' : List Char}
    (h : s.flatMap literalChar ++ '"' :: r = t.flatMap literalChar ++ '"' :: r') :
    s = t ∧ r = r' := by
  induction s generalizing t with
  | nil =>
    cases t with
    | nil => exact ⟨rfl, (List.cons.inj h).2⟩
    | cons d t =>
      rw [List.flatMap_cons, List.append_assoc] at h
      exact absurd h.symm (literalChar_append_ne_quote d _ _)
  | cons c s ih =>
    cases t with
    | nil =>
      rw [List.flatMap_cons, List.append_assoc] at h
      exact absurd h (literalChar_append_ne_quote c _ _)
    | cons d t =>
      rw [List.flatMap_cons, List.flatMap_cons, List.append_assoc, List.append_assoc] at h
      obtain ⟨rfl, htail⟩ := literalChar_append_inj h
      obtain ⟨rfl, hrest⟩ := ih htail
      exact ⟨rfl, hrest⟩

/-- A literal is cut off from what follows. -/
theorem literalText_append_inj {s t : String} {r r' : List Char}
    (h : (literalText s).toList ++ r = (literalText t).toList ++ r') : s = t ∧ r = r' := by
  rw [toList_literalText, toList_literalText] at h
  simp only [List.cons_append, List.append_assoc, List.nil_append, List.cons.injEq, true_and] at h
  obtain ⟨hchars, hrest⟩ := literalChars_append_inj h
  exact ⟨String.toList_inj.mp hchars, hrest⟩

/-! ### Blocks -/

section Blocks

variable {α β : Type} {f : α → String} {g : α → β}

/-- What follows an entry of a block: other entries, and the bracket at the given indent. -/
def blockTail (indent : String) : List String → List Char
  | [] => '\n' :: (indent.toList ++ [']'])
  | entry :: rest => ',' :: '\n' :: (entry.toList ++ blockTail indent rest)

private theorem toList_block_cons (indent entry : String) (rest : List String) :
    (block indent (entry :: rest)).toList =
      '[' :: '\n' :: (entry.toList ++ blockTail indent rest) := by
  have hentries : (",\n".intercalate (entry :: rest)).toList ++ '\n' :: (indent.toList ++ [']']) =
      entry.toList ++ blockTail indent rest := by
    induction rest generalizing entry with
    | nil => rw [String.intercalate_singleton, blockTail]
    | cons next rest ih =>
      have hseparator : ",\n".toList = [',', '\n'] := rfl
      rw [String.intercalate_cons_cons, String.toList_append, String.toList_append, hseparator,
        List.append_assoc, List.append_assoc, ih, blockTail]
      rfl
  rw [← hentries]
  simp [block]

/-- What stands behind an entry of a block starts with a line break, or with a comma and one. -/
inductive EndsEntry : List Char → Prop
  | last (r : List Char) : EndsEntry ('\n' :: r)
  | separated (r : List Char) : EndsEntry (',' :: '\n' :: r)

private theorem endsEntry_blockTail (indent : String) (rest : List String) (r : List Char) :
    EndsEntry (blockTail indent rest ++ r) := by
  cases rest with
  | nil => exact .last _
  | cons => exact .separated _

private theorem blockTail_append_inj {indent : String} {as bs : List α}
    (hline : ∀ a ∈ as, ∀ b ∈ bs, ∀ r r', EndsEntry r → EndsEntry r' →
      (f a).toList ++ r = (f b).toList ++ r' → g a = g b ∧ r = r') {r r' : List Char}
    (h : blockTail indent (as.map f) ++ r = blockTail indent (bs.map f) ++ r') :
    as.map g = bs.map g ∧ r = r' := by
  induction as generalizing bs with
  | nil =>
    cases bs with
    | nil => exact ⟨rfl, List.append_cancel_left h⟩
    | cons b bs => simp [blockTail] at h
  | cons a as ih =>
    cases bs with
    | nil => simp [blockTail] at h
    | cons b bs =>
      simp only [List.map_cons, blockTail, List.cons_append, List.append_assoc, List.cons.injEq,
        true_and] at h
      obtain ⟨hab, htail⟩ := hline a (by simp) b (by simp) _ _ (endsEntry_blockTail _ _ _)
        (endsEntry_blockTail _ _ _) h
      obtain ⟨hrest, hend⟩ := ih (fun a ha b hb => hline a (.tail _ ha) b (.tail _ hb)) htail
      exact ⟨by rw [List.map_cons, List.map_cons, hab, hrest], hend⟩

/-- A block is cut off from what follows it, if the lines of its entries are. -/
theorem block_append_inj {indent : String} {as bs : List α}
    (hline : ∀ a ∈ as, ∀ b ∈ bs, ∀ r r', EndsEntry r → EndsEntry r' →
      (f a).toList ++ r = (f b).toList ++ r' → g a = g b ∧ r = r') {r r' : List Char}
    (h : (block indent (as.map f)).toList ++ r = (block indent (bs.map f)).toList ++ r') :
    as.map g = bs.map g ∧ r = r' := by
  have hempty : (block indent []).toList = ['[', ']'] := by simp [block]
  cases as with
  | nil =>
    cases bs with
    | nil => exact ⟨rfl, List.append_cancel_left h⟩
    | cons b bs => simp [hempty, toList_block_cons] at h
  | cons a as =>
    cases bs with
    | nil => simp [hempty, toList_block_cons] at h
    | cons b bs =>
      simp only [List.map_cons, toList_block_cons, List.cons_append, List.append_assoc,
        List.cons.injEq, true_and] at h
      -- behind its bracket a block goes on as it does behind an entry, but for the comma
      have htail : blockTail indent ((a :: as).map f) ++ r =
          blockTail indent ((b :: bs).map f) ++ r' := by
        simp only [List.map_cons, blockTail, List.cons_append, List.append_assoc, h]
      exact blockTail_append_inj hline htail

end Blocks

/-! ### Where a value ends -/

/-- The text of a key in front of its value. -/
def keyText : Option String → String
  | none => ""
  | some key => literalText key ++ " => "

/-- The line of an element or an entry at the given indent. -/
def partText (indent : String) (p : Option String × Value) : String :=
  indent ++ keyText p.1 ++ valueText indent p.2

private theorem itemTexts_eq_map (indent : String) (items : List Value) :
    itemTexts indent items = items.map fun v => partText indent (none, v) := by
  induction items with
  | nil => rfl
  | cons v rest ih => simp [itemTexts, ih, partText, keyText]

private theorem entryTexts_eq_map (indent : String) (entries : List (String × Value)) :
    entryTexts indent entries = entries.map fun e => partText indent (some e.1, e.2) := by
  induction entries with
  | nil => rfl
  | cons e rest ih =>
    obtain ⟨key, v⟩ := e
    simp [entryTexts, ih, partText, keyText, String.append_assoc]

private theorem valueText_of_isBlock {v : Value} (h : v.IsBlock) (indent : String) :
    valueText indent v = block indent (v.parts.map (partText (indent ++ indentUnit))) := by
  cases v with
  | array items => simp [valueText, itemTexts_eq_map, Value.parts, Function.comp_def]
  | object entries => simp [valueText, entryTexts_eq_map, Value.parts, Function.comp_def]
  | null | boolean | number | string => cases h

/-- What may stand behind a value: nothing, or the rest of the block it is in. -/
def EndsValue (r : List Char) : Prop := ∀ c ∈ r.head?, c = ',' ∨ c = '\n'

private theorem EndsEntry.endsValue {r : List Char} (h : EndsEntry r) : EndsValue r := by
  cases h <;> simp [EndsValue]

/-- The characters that the text of a value of the given sort may start with. -/
def StartsWith (c : Char) : Value → Prop
  | .null => c = 'n'
  | .boolean b => c = if b then 't' else 'f'
  | .number _ => c.isDigit ∨ c = '-'
  | .string _ => c = '"'
  | .array _ | .object _ => c = '['

private theorem exists_valueText_cons (indent : String) (v : Value) :
    ∃ c rest, (valueText indent v).toList = c :: rest ∧ StartsWith c v := by
  have hblock : ∀ entries, ∃ rest, (block indent entries).toList = '[' :: rest := by
    rintro (_ | ⟨entry, rest⟩)
    · exact ⟨[']'], by simp [block]⟩
    · exact ⟨_, toList_block_cons indent entry rest⟩
  cases v with
  | null => exact ⟨'n', ['u', 'l', 'l'], by simp [valueText], rfl⟩
  | boolean b =>
    cases b with
    | false => exact ⟨'f', ['a', 'l', 's', 'e'], by simp [valueText], rfl⟩
    | true => exact ⟨'t', ['r', 'u', 'e'], by simp [valueText], rfl⟩
  | number n => exact n.exists_text_cons
  | string s => exact ⟨'"', _, toList_literalText s, rfl⟩
  | array | object =>
    obtain ⟨rest, h⟩ := hblock _
    exact ⟨'[', rest, h, rfl⟩

/-- Values of one sort: words are equal, and arrays and objects are both blocks. -/
inductive SameSort : Value → Value → Prop
  | null : SameSort .null .null
  | boolean (b : Bool) : SameSort (.boolean b) (.boolean b)
  | number (n m : Number) : SameSort (.number n) (.number m)
  | string (s t : String) : SameSort (.string s) (.string t)
  | block {v w : Value} (hv : v.IsBlock) (hw : w.IsBlock) : SameSort v w

private theorem sameSort_of_startsWith {c : Char} {v w : Value} (hv : StartsWith c v)
    (hw : StartsWith c w) : SameSort v w := by
  have hdigit : ∀ d ∈ ['n', 't', 'f', '"', '['], ¬(d.isDigit ∨ d = '-') := by simp
  cases v <;> cases w
  all_goals first
    | exact .null
    | exact .number _ _
    | exact .string _ _
    | exact .block trivial trivial
    | skip
  all_goals simp only [StartsWith] at hv hw
  all_goals grind [SameSort]

/-- Whether the text of a value is cut off from what follows it. -/
def CutsOff (v : Value) : Prop :=
  ∀ indent w {r r'}, EndsValue r → EndsValue r' →
    (valueText indent v).toList ++ r = (valueText indent w).toList ++ r' →
      v.withEmptyArrays = w.withEmptyArrays ∧ r = r'

private theorem valueText_append_ne_literalText_arrow (indent key : String) (v : Value)
    {r : List Char} (hr : EndsValue r) (r' : List Char) :
    (valueText indent v).toList ++ r ≠ (literalText key).toList ++ (" => ".toList ++ r') := by
  intro h
  obtain ⟨c, rest, hv, hc⟩ := exists_valueText_cons indent v
  have hquote : c = '"' := by
    rw [hv, toList_literalText] at h
    exact (List.cons.inj h).1
  cases sameSort_of_startsWith hc (w := .string key) hquote with
  | string s _ =>
    obtain ⟨-, rfl⟩ := literalText_append_inj h
    simpa using hr ' ' (by simp)
  | block _ hw => exact hw

/-- The line of a part is cut off from what follows it, if the value's text is. -/
theorem partText_append_inj {indent : String} {p q : Option String × Value} (hp : CutsOff p.2)
    {r r' : List Char} (hr : EndsValue r) (hr' : EndsValue r')
    (h : (partText indent p).toList ++ r = (partText indent q).toList ++ r') :
    (p.1, p.2.withEmptyArrays) = (q.1, q.2.withEmptyArrays) ∧ r = r' := by
  obtain ⟨key, v⟩ := p
  obtain ⟨key', w⟩ := q
  simp only [partText, String.toList_append, List.append_assoc, List.append_cancel_left_eq] at h
  cases key with
  | none =>
    cases key' with
    | none =>
      obtain ⟨hvw, hrest⟩ := hp indent w hr hr' (by simpa [keyText] using h)
      exact ⟨congrArg _ hvw, hrest⟩
    | some key' =>
      refine absurd ?_ (valueText_append_ne_literalText_arrow indent key' v hr
        ((valueText indent w).toList ++ r'))
      simpa [keyText] using h
  | some key =>
    simp only [keyText, String.toList_append, List.append_assoc] at h
    cases key' with
    | none =>
      refine absurd ?_ (valueText_append_ne_literalText_arrow indent key w hr'
        ((valueText indent v).toList ++ r))
      simpa using h.symm
    | some key' =>
      simp only [String.toList_append, List.append_assoc] at h
      obtain ⟨rfl, harrow⟩ := literalText_append_inj h
      obtain ⟨hvw, hrest⟩ := hp indent w hr hr' (List.append_cancel_left harrow)
      exact ⟨congrArg _ hvw, hrest⟩

/-- The text of a value is cut off from what may stand behind it. -/
theorem cutsOff (v : Value) : CutsOff v := by
  induction v using Value.parts_induction with
  | step v ih =>
    intro indent w r r' hr hr' h
    obtain ⟨c, rest, hv, hc⟩ := exists_valueText_cons indent v
    obtain ⟨d, rest', hw, hd⟩ := exists_valueText_cons indent w
    have hstart : c = d := by
      rw [hv, hw] at h
      exact (List.cons.inj h).1
    subst hstart
    cases sameSort_of_startsWith hc hd with
    | null => exact ⟨rfl, List.append_cancel_left h⟩
    | boolean b => exact ⟨rfl, List.append_cancel_left h⟩
    | number n m =>
      have hends : ∀ {r}, EndsValue r → ∀ c ∈ r.head?, ¬Json.IsNumberChar c := by
        intro r hr c hc
        rcases hr c hc with rfl | rfl <;> simp [Json.IsNumberChar]
      obtain ⟨htext, hrest⟩ := Text.append_inj_of_class (fun _ => Number.isNumberChar_of_mem_text)
        (fun _ => Number.isNumberChar_of_mem_text) (hends hr) (hends hr') h
      rw [Number.text_injective (String.toList_inj.mp htext)]
      exact ⟨rfl, hrest⟩
    | string s t =>
      obtain ⟨rfl, hrest⟩ := literalText_append_inj h
      exact ⟨rfl, hrest⟩
    | block hv hw =>
      rw [valueText_of_isBlock hv, valueText_of_isBlock hw] at h
      obtain ⟨hparts, hrest⟩ := block_append_inj
        (fun p hp q _ _ _ hr hr' => partText_append_inj (q := q) (ih p hp) hr.endsValue
          hr'.endsValue) h
      exact ⟨Value.withEmptyArrays_eq_of_parts hv hw hparts, hrest⟩

/-- An empty object is written as an empty array is. -/
theorem valueText_withEmptyArrays (v : Value) (indent : String) :
    valueText indent v.withEmptyArrays = valueText indent v := by
  induction v using Value.parts_induction generalizing indent with
  | step v ih =>
    have hblock : v.IsBlock → v.withEmptyArrays.IsBlock →
        valueText indent v.withEmptyArrays = valueText indent v := by
      intro hv hv'
      rw [valueText_of_isBlock hv, valueText_of_isBlock hv', Value.parts_withEmptyArrays,
        List.map_map]
      congr 1
      apply List.map_congr_left
      intro p hp
      rw [Function.comp_apply, partText, partText, ih p hp]
    cases v with
    | null | boolean | number | string => rfl
    | array => exact hblock trivial trivial
    | object entries => cases entries <;> exact hblock trivial trivial

/-- Example values are printed unambiguously. Two values have the same text at an indent if and
only if they are equal up to which of their empty blocks are objects. -/
theorem valueText_eq_iff (indent : String) (v w : Value) :
    valueText indent v = valueText indent w ↔ v.withEmptyArrays = w.withEmptyArrays := by
  constructor
  · intro h
    have hends : EndsValue [] := by simp [EndsValue]
    exact (cutsOff v indent w hends hends (by rw [h])).1
  · intro h
    rw [← valueText_withEmptyArrays v, h, valueText_withEmptyArrays]

end ApiBindings.Bindings
