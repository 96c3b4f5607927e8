import ApiBindings.Proofs.Literal
import ApiBindings.Proofs.Numeral

/-!
# Trees read back

A tree is written without blanks, so its text has one token after the other and its outline is
closed throughout. A reader gets the tree out of the outline again, as long as there is room for
its nesting, no object has a key twice, and its numbers are kept exactly. A tree that was read from
a document is of this kind, but for its numbers.
-/

namespace ApiBindings.Json

/-! ### Outlines of trees -/

namespace Value

mutual

/-- The outline of a tree's written form. -/
def outline : Value → Outline
  | null => .leaf .null
  | boolean b => .leaf (.boolean b)
  | number n => .leaf (.number ((Numeral.scan (symbolsOfText n.text)).map Prod.fst))
  | string s => .leaf (.string (.ofText s))
  | array items => .array (itemOutlines items) .closed
  | object entries => .object (entryOutlines entries) .closed

/-- The outlines of an array's elements. -/
def itemOutlines : List Value → List Outline
  | [] => []
  | v :: rest => v.outline :: itemOutlines rest

/-- The outlines of an object's entries. -/
def entryOutlines : List (String × Value) → List (Literal × Outline)
  | [] => []
  | (key, v) :: rest => (.ofText key, v.outline) :: entryOutlines rest

end

mutual

/-- The tokens of a tree's written form. -/
def tokens : Value → List Token
  | array [] => [.openArray, .closeArray]
  | array (v :: rest) => .openArray :: (v.tokens ++ itemTokens rest)
  | object [] => [.openObject, .closeObject]
  | object ((key, v) :: rest) =>
    .openObject :: .leaf (.string (.ofText key)) :: .colon :: (v.tokens ++ entryTokens rest)
  | null => [.leaf .null]
  | boolean b => [.leaf (.boolean b)]
  | number n => [.leaf (.number ((Numeral.scan (symbolsOfText n.text)).map Prod.fst))]
  | string s => [.leaf (.string (.ofText s))]

/-- The tokens behind an element of an array that others follow. -/
def itemTokens : List Value → List Token
  | [] => [.closeArray]
  | v :: rest => .comma :: (v.tokens ++ itemTokens rest)

/-- The tokens behind an entry of an object that others follow. -/
def entryTokens : List (String × Value) → List Token
  | [] => [.closeObject]
  | (key, v) :: rest =>
    .comma :: .leaf (.string (.ofText key)) :: .colon :: (v.tokens ++ entryTokens rest)

end

private theorem exists_tokens_cons (v : Value) :
    ∃ t rest, v.tokens = t :: rest ∧ t ≠ .closeArray ∧ t ≠ .closeObject := by
  cases v with
  | array items => cases items <;> exact ⟨_, _, by rw [tokens], by simp, by simp⟩
  | object entries => cases entries <;> exact ⟨_, _, by rw [tokens], by simp, by simp⟩
  | null | boolean | number | string => exact ⟨_, _, by rw [tokens], by simp, by simp⟩

private theorem value_openArray (v : Value) (frames : List Frame) (rest : List Token) :
    Outline.value frames (.openArray :: (v.tokens ++ rest)) =
      Outline.value (.array [] :: frames) (v.tokens ++ rest) := by
  obtain ⟨t, ts, htokens, hclose, -⟩ := v.exists_tokens_cons
  rw [htokens, List.cons_append, Outline.value]
  · simp
  · rintro _ heq
    exact hclose (List.cons.inj heq).1

private theorem place_comma (v : Value) (frames : List Frame) (read : List Outline) (o : Outline)
    (rest : List Token) :
    Outline.place (.array read :: frames) o (.comma :: (v.tokens ++ rest)) =
      Outline.value (.array (o :: read) :: frames) (v.tokens ++ rest) := by
  obtain ⟨t, ts, htokens, hclose, -⟩ := v.exists_tokens_cons
  rw [htokens, List.cons_append, Outline.place]
  · simp
  · rintro _ heq
    exact hclose (List.cons.inj heq).1

mutual

/-- The tokens of a tree are followed to its outline. -/
theorem value_tokens (v : Value) (frames : List Frame) (rest : List Token) :
    Outline.value frames (v.tokens ++ rest) = Outline.place frames v.outline rest := by
  cases v with
  | null | boolean | number | string =>
    rw [tokens, outline, List.singleton_append, Outline.value]
  | array items =>
    cases items with
    | nil =>
      rw [tokens, outline, itemOutlines, List.cons_append, List.singleton_append, Outline.value]
    | cons v items =>
      rw [tokens, outline, itemOutlines, List.cons_append, List.append_assoc, value_openArray,
        value_tokens v, place_itemTokens items, List.reverse_singleton, List.singleton_append]
  | object entries =>
    cases entries with
    | nil =>
      rw [tokens, outline, entryOutlines, List.cons_append, List.singleton_append, Outline.value]
    | cons e entries =>
      obtain ⟨key, v⟩ := e
      rw [tokens, outline, entryOutlines, List.cons_append, Outline.value, List.cons_append,
        List.cons_append, Outline.entry, List.append_assoc, value_tokens v,
        place_entryTokens entries, List.reverse_singleton, List.singleton_append]
      all_goals simp

private theorem place_itemTokens (items : List Value) (frames : List Frame) (read : List Outline)
    (o : Outline) (rest : List Token) :
    Outline.place (.array read :: frames) o (itemTokens items ++ rest) =
      Outline.place frames (.array ((o :: read).reverse ++ itemOutlines items) .closed) rest := by
  cases items with
  | nil => rw [itemTokens, itemOutlines, List.singleton_append, Outline.place, List.append_nil]
  | cons v items =>
    rw [itemTokens, List.cons_append, List.append_assoc, place_comma, value_tokens v,
      place_itemTokens items, itemOutlines, List.reverse_cons, List.append_assoc,
      List.singleton_append]

private theorem place_entryTokens (entries : List (String × Value)) (frames : List Frame)
    (read : List (Literal × Outline)) (key : Literal) (o : Outline) (rest : List Token) :
    Outline.place (.object read key :: frames) o (entryTokens entries ++ rest) =
      Outline.place frames
        (.object (((key, o) :: read).reverse ++ entryOutlines entries) .closed) rest := by
  cases entries with
  | nil => rw [entryTokens, entryOutlines, List.singleton_append, Outline.place, List.append_nil]
  | cons e entries =>
    obtain ⟨key', v⟩ := e
    rw [entryTokens, List.cons_append, Outline.place, List.cons_append, List.cons_append,
      Outline.entry, List.append_assoc, value_tokens v, place_entryTokens entries, entryOutlines,
      List.reverse_cons, List.append_assoc, List.singleton_append]

end

/-! ### Tokens of a written tree -/

mutual

/-- The numbers in a tree. -/
def numbers : Value → List Number
  | number n => [n]
  | array items => itemNumbers items
  | object entries => entryNumbers entries
  | null | boolean _ | string _ => []

/-- The numbers in an array's elements. -/
def itemNumbers : List Value → List Number
  | [] => []
  | v :: rest => v.numbers ++ itemNumbers rest

/-- The numbers in an object's entries. -/
def entryNumbers : List (String × Value) → List Number
  | [] => []
  | (_, v) :: rest => v.numbers ++ entryNumbers rest

end

/-- The numbers in elements are those of each. -/
theorem mem_itemNumbers {items : List Value} {n : Number} :
    n ∈ itemNumbers items ↔ ∃ v ∈ items, n ∈ v.numbers := by
  induction items with
  | nil => simp [itemNumbers]
  | cons v rest ih => simp [itemNumbers, ih]

/-- The numbers in entries are those of each value. -/
theorem mem_entryNumbers {entries : List (String × Value)} {n : Number} :
    n ∈ entryNumbers entries ↔ ∃ e ∈ entries, n ∈ e.2.numbers := by
  induction entries with
  | nil => simp [entryNumbers]
  | cons e rest ih =>
    obtain ⟨key, v⟩ := e
    simp [entryNumbers, ih]

/-- What is written behind an element of an array. -/
def itemTail : List Value → List Char
  | [] => [']']
  | v :: rest => ',' :: (v.text.toList ++ itemTail rest)

/-- What is written behind an entry of an object. -/
def entryTail : List (String × Value) → List Char
  | [] => ['\x7d']
  | (key, v) :: rest =>
    ',' :: ((stringText key).toList ++ ':' :: (v.text.toList ++ entryTail rest))

private theorem toList_text_array (v : Value) (rest : List Value) :
    (array (v :: rest)).text.toList = '[' :: (v.text.toList ++ itemTail rest) := by
  have hitems : ∀ (rest : List Value) (v : Value),
      (",".intercalate (itemTexts (v :: rest))).toList ++ [']'] =
        v.text.toList ++ itemTail rest := by
    intro rest
    induction rest with
    | nil => intro v; simp [itemTexts, itemTail]
    | cons w rest ih =>
      intro v
      have htail := ih w
      simp only [itemTexts] at htail
      rw [itemTexts, itemTexts, String.intercalate_cons_cons, String.toList_append,
        String.toList_append, List.append_assoc, htail, itemTail]
      simp
  have hopen : "[".toList = ['['] := rfl
  have hclose : "]".toList = [']'] := rfl
  rw [text, String.toList_append, String.toList_append, hopen, hclose, List.append_assoc,
    hitems rest v, List.singleton_append]

private theorem toList_text_object (key : String) (v : Value) (rest : List (String × Value)) :
    (object ((key, v) :: rest)).text.toList =
      '\x7b' :: ((stringText key).toList ++ ':' :: (v.text.toList ++ entryTail rest)) := by
  have hentries : ∀ (rest : List (String × Value)) (key : String) (v : Value),
      (",".intercalate (entryTexts ((key, v) :: rest))).toList ++ ['\x7d'] =
        (stringText key).toList ++ ':' :: (v.text.toList ++ entryTail rest) := by
    intro rest
    induction rest with
    | nil => intro key v; simp [entryTexts, entryTail]
    | cons e rest ih =>
      intro key v
      obtain ⟨key', w⟩ := e
      have htail := ih key' w
      simp only [entryTexts] at htail
      rw [entryTexts, entryTexts, String.intercalate_cons_cons, String.toList_append,
        String.toList_append, List.append_assoc, htail, entryTail]
      simp
  have hopen : "\x7b".toList = ['\x7b'] := rfl
  have hclose : "\x7d".toList = ['\x7d'] := rfl
  rw [text, String.toList_append, String.toList_append, hopen, hclose, List.append_assoc,
    hentries rest key v, List.singleton_append]

end Value

namespace Token

private theorem scanFrom_mark {c : Char} {mark : Token} (hmark : mark? c = some mark)
    (hblank : (Symbol.char c).isBlank = false) (read : List Token) (rest : List Symbol) :
    scanFrom read (.char c :: rest) = scanFrom (mark :: read) rest := by
  rw [scanFrom, hblank, hmark]
  rfl

private theorem scanFrom_leaf {c : Char} (hmark : mark? c = none)
    (hblank : (Symbol.char c).isBlank = false) (read : List Token) (rest : List Symbol) :
    scanFrom read (.char c :: rest) =
      scanFrom (.leaf (scanLeaf c rest).1 :: read) (scanLeaf c rest).2 := by
  rw [scanFrom, hblank, hmark]
  rfl

private theorem scanFrom_stringText (s : String) (read : List Token) (rest : List Symbol) :
    scanFrom read ((Value.stringText s).toList.map .char ++ rest) =
      scanFrom (.leaf (.string (.ofText s)) :: read) rest := by
  have hchars : (Value.stringText s).toList.map Symbol.char ++ rest =
      .char '"' :: ((s.toList.flatMap Value.escapedChar).map .char ++ .char '"' :: rest) := by
    simp [Value.stringText]
  rw [hchars, scanFrom_leaf rfl rfl]
  simp [scanLeaf, Literal.scan_escapedChars, Literal.ofText]

private theorem scan_text_integer (i : Int) :
    (Numeral.scan (symbolsOfText (Number.integer i).text)).map Prod.fst = .ok (.ofInt i) := by
  have hscan := Numeral.scan_toString_int i Numeral.endsNumeral_nil
  rw [List.append_nil] at hscan
  rw [symbolsOfText, Number.text, hscan]
  rfl

private theorem scanFrom_integerText (i : Int) (read : List Token) {rest : List Symbol}
    (hrest : Numeral.EndsNumeral rest) :
    scanFrom read ((Number.integer i).text.toList.map .char ++ rest) =
      scanFrom (.leaf (.number (.ok (.ofInt i))) :: read) rest := by
  have hscan := Numeral.scan_toString_int i hrest
  obtain ⟨c, cs, hc, hstart⟩ := (Number.integer i).exists_text_cons
  have hdigit : ∀ d ∈ ['[', ']', '\x7b', '\x7d', ',', ':', ' ', '\t', '\n', '\r', '"'],
      ¬(d.isDigit ∨ d = '-') := by simp
  have hother : ∀ d ∈ ['[', ']', '\x7b', '\x7d', ',', ':', ' ', '\t', '\n', '\r', '"'], c ≠ d := by
    rintro d hd rfl
    exact hdigit c hd hstart
  have hquote := hother '"' (by simp)
  simp only [List.mem_cons, List.not_mem_nil, or_false, forall_eq_or_imp, forall_eq] at hother
  have hmark : mark? c = none := by
    unfold mark?
    split <;> simp_all
  have hblank : (Symbol.char c).isBlank = false := by
    simp [Symbol.isBlank, hother]
  rw [Number.text] at hc
  rw [hc, List.map_cons, List.cons_append] at hscan
  rw [Number.text, hc, List.map_cons, List.cons_append, scanFrom_leaf hmark hblank, scanLeaf,
    if_neg hquote, if_pos hstart.symm, hscan]

private theorem endsNumeral_char {c : Char} (hc : c ∈ [',', ']', '\x7d']) (rest : List Symbol) :
    Numeral.EndsNumeral (.char c :: rest) := by
  intro s hs
  cases hs
  simp only [List.mem_cons, List.not_mem_nil, or_false] at hc
  rcases hc with rfl | rfl | rfl <;> simp [Numeral.isDigit, Numeral.digit?]

mutual

/-- The tokens of a tree's written form are those of the tree. -/
theorem scanFrom_text (v : Value) (hv : ∀ n ∈ v.numbers, n.IsExact) (read : List Token)
    {rest : List Symbol} (hrest : Numeral.EndsNumeral rest) :
    scanFrom read (v.text.toList.map .char ++ rest) =
      scanFrom (v.tokens.reverse ++ read) rest := by
  cases v with
  | null =>
    have htext : Value.null.text.toList.map Symbol.char ++ rest =
        .char 'n' :: .char 'u' :: .char 'l' :: .char 'l' :: rest := by
      simp [Value.text]
    rw [htext, scanFrom_leaf rfl rfl]
    simp [scanLeaf, word, scanWord, Value.tokens]
  | boolean b =>
    cases b with
    | true =>
      have htext : (Value.boolean true).text.toList.map Symbol.char ++ rest =
          .char 't' :: .char 'r' :: .char 'u' :: .char 'e' :: rest := by
        simp [Value.text]
      rw [htext, scanFrom_leaf rfl rfl]
      simp [scanLeaf, word, scanWord, Value.tokens]
    | false =>
      have htext : (Value.boolean false).text.toList.map Symbol.char ++ rest =
          .char 'f' :: .char 'a' :: .char 'l' :: .char 's' :: .char 'e' :: rest := by
        simp [Value.text]
      rw [htext, scanFrom_leaf rfl rfl]
      simp [scanLeaf, word, scanWord, Value.tokens]
  | number n =>
    cases n with
    | integer i =>
      rw [Value.text, scanFrom_integerText i read hrest, Value.tokens, scan_text_integer]
      rfl
    | decimal d => exact (hv (.decimal d) (by simp [Value.numbers])).elim
  | string s => rw [Value.text, scanFrom_stringText, Value.tokens]; rfl
  | array items =>
    cases items with
    | nil =>
      have htext : (Value.array []).text.toList.map Symbol.char ++ rest =
          .char '[' :: .char ']' :: rest := by
        simp [Value.text, Value.itemTexts]
      rw [htext, scanFrom_mark rfl rfl, scanFrom_mark rfl rfl, Value.tokens]
      rfl
    | cons v items =>
      simp only [Value.numbers, Value.itemNumbers, List.mem_append] at hv
      rw [Value.toList_text_array, List.map_cons, List.cons_append, scanFrom_mark rfl rfl,
        List.map_append, List.append_assoc, scanFrom_text v (fun n hn => hv n (.inl hn)),
        scanFrom_itemTail items (fun n hn => hv n (.inr hn)), Value.tokens]
      · simp
      · cases items <;> exact endsNumeral_char (by simp) _
  | object entries =>
    cases entries with
    | nil =>
      have htext : (Value.object []).text.toList.map Symbol.char ++ rest =
          .char '\x7b' :: .char '\x7d' :: rest := by
        simp [Value.text, Value.entryTexts]
      rw [htext, scanFrom_mark rfl rfl, scanFrom_mark rfl rfl, Value.tokens]
      rfl
    | cons e entries =>
      obtain ⟨key, v⟩ := e
      simp only [Value.numbers, Value.entryNumbers, List.mem_append] at hv
      rw [Value.toList_text_object, List.map_cons, List.cons_append, scanFrom_mark rfl rfl,
        List.map_append, List.append_assoc, scanFrom_stringText, List.map_cons, List.cons_append,
        scanFrom_mark rfl rfl, List.map_append, List.append_assoc,
        scanFrom_text v (fun n hn => hv n (.inl hn)),
        scanFrom_entryTail entries (fun n hn => hv n (.inr hn)), Value.tokens]
      · simp
      · cases entries <;> exact endsNumeral_char (by simp) _

private theorem scanFrom_itemTail (items : List Value)
    (hitems : ∀ n ∈ Value.itemNumbers items, n.IsExact) (read : List Token) (rest : List Symbol) :
    scanFrom read ((Value.itemTail items).map .char ++ rest) =
      scanFrom ((Value.itemTokens items).reverse ++ read) rest := by
  cases items with
  | nil =>
    rw [Value.itemTail, List.map_singleton, List.singleton_append, scanFrom_mark rfl rfl]
    rfl
  | cons v items =>
    simp only [Value.itemNumbers, List.mem_append] at hitems
    rw [Value.itemTail, List.map_cons, List.cons_append, scanFrom_mark rfl rfl, List.map_append,
      List.append_assoc, scanFrom_text v (fun n hn => hitems n (.inl hn)),
      scanFrom_itemTail items (fun n hn => hitems n (.inr hn)), Value.itemTokens]
    · simp
    · cases items <;> exact endsNumeral_char (by simp) _

private theorem scanFrom_entryTail (entries : List (String × Value))
    (hentries : ∀ n ∈ Value.entryNumbers entries, n.IsExact) (read : List Token)
    (rest : List Symbol) :
    scanFrom read ((Value.entryTail entries).map .char ++ rest) =
      scanFrom ((Value.entryTokens entries).reverse ++ read) rest := by
  cases entries with
  | nil =>
    rw [Value.entryTail, List.map_singleton, List.singleton_append, scanFrom_mark rfl rfl]
    rfl
  | cons e entries =>
    obtain ⟨key, v⟩ := e
    simp only [Value.entryNumbers, List.mem_append] at hentries
    rw [Value.entryTail, List.map_cons, List.cons_append, scanFrom_mark rfl rfl, List.map_append,
      List.append_assoc, scanFrom_stringText, List.map_cons, List.cons_append,
      scanFrom_mark rfl rfl, List.map_append, List.append_assoc,
      scanFrom_text v (fun n hn => hentries n (.inl hn)),
      scanFrom_entryTail entries (fun n hn => hentries n (.inr hn)), Value.entryTokens]
    · simp
    · cases entries <;> exact endsNumeral_char (by simp) _

end

end Token

/-- The outline of a written tree is that of the tree, and the document ends with it. -/
theorem ofSymbols_text {v : Value} (hv : ∀ n ∈ v.numbers, n.IsExact) :
    Outline.ofSymbols (symbolsOfText v.text) = (v.outline, true) := by
  have hscan := Token.scanFrom_text v hv [] Numeral.endsNumeral_nil
  rw [List.append_nil, List.append_nil, Token.scanFrom, List.reverse_reverse] at hscan
  have hfollow := v.value_tokens [] []
  rw [List.append_nil] at hfollow
  rw [Outline.ofSymbols, Token.scan, symbolsOfText, hscan, hfollow, Outline.place]
  rfl

/-! ### Reading without a fault -/

/-- Two steps of reading end well if the first does and the second with what that gives. -/
theorem bind_eq_ok_iff {α β : Type} {x : Except Fault α} {f : α → Except Fault β} {b : β} :
    x.bind f = .ok b ↔ ∃ a, x = .ok a ∧ f a = .ok b := by
  cases x <;> simp [Except.bind]

/-- What was read may be changed. -/
theorem map_eq_ok_iff {α β : Type} {x : Except Fault α} {f : α → β} {b : β} :
    x.map f = .ok b ↔ ∃ a, x = .ok a ∧ f a = b := by
  cases x <;> simp [Except.map]

/-- Reading ends well only without a fault, and with the data at hand. -/
theorem finish_eq_ok_iff {α : Type} {fault? : Option Fault} {a b : α} :
    finish fault? a = .ok b ↔ fault? = none ∧ a = b := by
  cases fault? <;> simp [finish]

/-- An object that ends well gives the data at hand. -/
theorem eq_of_finishObject {α : Type} {ending : ObjectEnd} {a b : α}
    (h : finishObject ending a = .ok b) : a = b := by
  cases ending with
  | bareKey key last =>
    rw [finishObject] at h
    cases hkey : key.text <;> rw [hkey] at h <;> cases h
  | _ =>
    simp only [finishObject, finish_eq_ok_iff] at h
    exact h.2

/-! ### Entries put in order -/

/-- A value put under a new key goes to the end. -/
theorem putEntry_of_not_mem {α : Type} {key : String} {value : α} {entries : List (String × α)}
    (h : key ∉ entries.map Prod.fst) : putEntry key value entries = entries ++ [(key, value)] := by
  induction entries with
  | nil => rfl
  | cons e rest ih =>
    obtain ⟨k, v⟩ := e
    simp only [List.map_cons, List.mem_cons, not_or] at h
    rw [putEntry, if_neg (Ne.symm h.1), ih h.2, List.cons_append]

/-- What is in a table after a value is put was there before, or is the value. -/
theorem mem_putEntry {α : Type} {key : String} {value : α} {entries : List (String × α)}
    {e : String × α} (h : e ∈ putEntry key value entries) : e ∈ entries ∨ e.2 = value := by
  induction entries with
  | nil =>
    rw [putEntry, List.mem_singleton] at h
    exact .inr (congrArg Prod.snd h)
  | cons first rest ih =>
    obtain ⟨k, v⟩ := first
    rw [putEntry] at h
    split at h <;> rcases List.mem_cons.mp h with rfl | h
    · exact .inr rfl
    · exact .inl (.tail _ h)
    · exact .inl List.mem_cons_self
    · exact (ih h).imp_left (.tail _)

/-! ### Trees of an outline -/

namespace Value

/-- A tree that a reader may give that has room for the given number of open arrays and objects.
No object in it has a key twice. -/
inductive Fits : Nat → Value → Prop
  | null {room : Nat} : Fits room null
  | boolean {room : Nat} (b : Bool) : Fits room (boolean b)
  | number {room : Nat} (n : Number) : Fits room (number n)
  | string {room : Nat} (s : String) : Fits room (string s)
  | array {room : Nat} {items : List Value} (h : ∀ v ∈ items, Fits room v) :
      Fits (room + 1) (array items)
  | object {room : Nat} {entries : List (String × Value)} (hkeys : (entries.map Prod.fst).Nodup)
      (h : ∀ e ∈ entries, Fits room e.2) : Fits (room + 1) (object entries)

/-- A tree is read out of its outline, if it fits and its numbers are exact. -/
theorem ofOutline_outline {room : Nat} {v : Value} (hv : v.Fits room)
    (hexact : ∀ n ∈ v.numbers, n.IsExact) : ofOutline room v.outline = .ok v := by
  induction hv with
  | null => rw [outline, ofOutline]; rfl
  | boolean b => rw [outline, ofOutline]; rfl
  | string s => rw [outline, ofOutline, Leaf.value, Literal.text_ofText]; rfl
  | number n =>
    have hn := hexact n (by simp [numbers])
    cases n with
    | integer i =>
      rw [outline, ofOutline, Token.scan_text_integer, Leaf.value, numberOf,
        Numeral.number?_ofInt hn]
      rfl
    | decimal d => exact hn.elim
  | @array room items h ih =>
    have hitems : ofItems room (itemOutlines items) = .ok items := by
      simp only [numbers, mem_itemNumbers] at hexact
      clear h
      induction items with
      | nil => rw [itemOutlines, ofItems]
      | cons v rest ihrest =>
        rw [itemOutlines, ofItems, ih v (by simp) fun n hn => hexact n ⟨v, by simp, hn⟩,
          Except.bind, ihrest (fun w hw => ih w (.tail _ hw))
            (fun n ⟨w, hw, hn⟩ => hexact n ⟨w, .tail _ hw, hn⟩)]
        rfl
    rw [outline, ofOutline, hitems]
    rfl
  | @object room entries hkeys h ih =>
    have hentries : ∀ read : List (String × Value), ((read ++ entries).map Prod.fst).Nodup →
        ofEntries room read (entryOutlines entries) = .ok (read ++ entries) := by
      simp only [numbers, mem_entryNumbers] at hexact
      clear h hkeys
      induction entries with
      | nil => intro read _; rw [entryOutlines, ofEntries, List.append_nil]
      | cons e rest ihrest =>
        obtain ⟨key, v⟩ := e
        intro read hnodup
        have hnew : key ∉ read.map Prod.fst := by
          rw [List.map_append, List.nodup_append] at hnodup
          exact fun hmem => hnodup.2.2 key hmem key (by simp) rfl
        rw [entryOutlines, ofEntries, Literal.text_ofText, Except.bind,
          ih (key, v) (by simp) fun n hn => hexact n ⟨(key, v), by simp, hn⟩, Except.bind,
          putEntry_of_not_mem hnew, ihrest (fun e he => ih e (.tail _ he))
            (fun n ⟨e, he, hn⟩ => hexact n ⟨e, .tail _ he, hn⟩) _ (by simpa using hnodup)]
        simp
    rw [outline, ofOutline, hentries [] hkeys]
    rfl

private theorem fits_of_leaf {room : Nat} {l : Leaf} {v : Value} (h : l.value = .ok v) :
    v.Fits room := by
  cases l with
  | absent | broken => cases h
  | null =>
    cases h
    exact .null
  | boolean b =>
    cases h
    exact .boolean b
  | number n =>
    obtain ⟨number, -, rfl⟩ := map_eq_ok_iff.mp h
    exact .number number
  | string l =>
    obtain ⟨s, -, rfl⟩ := map_eq_ok_iff.mp h
    exact .string s

private theorem fits_of_ofItems {room : Nat}
    (hfits : ∀ o v, ofOutline room o = .ok v → v.Fits room) {items : List Outline}
    {values : List Value} (h : ofItems room items = .ok values) : ∀ v ∈ values, v.Fits room := by
  induction items generalizing values with
  | nil =>
    rw [ofItems] at h
    cases h
    simp
  | cons o rest ih =>
    rw [ofItems, bind_eq_ok_iff] at h
    obtain ⟨v, hv, hrest⟩ := h
    obtain ⟨others, hothers, rfl⟩ := map_eq_ok_iff.mp hrest
    exact List.forall_mem_cons.mpr ⟨hfits o v hv, ih hothers⟩

private theorem fits_of_ofEntries {room : Nat}
    (hfits : ∀ o v, ofOutline room o = .ok v → v.Fits room) {entries : List (Literal × Outline)}
    {read values : List (String × Value)} (hkeys : (read.map Prod.fst).Nodup)
    (hread : ∀ e ∈ read, e.2.Fits room) (h : ofEntries room read entries = .ok values) :
    (values.map Prod.fst).Nodup ∧ ∀ e ∈ values, e.2.Fits room := by
  induction entries generalizing read with
  | nil =>
    rw [ofEntries] at h
    cases h
    exact ⟨hkeys, hread⟩
  | cons e rest ih =>
    obtain ⟨literal, o⟩ := e
    rw [ofEntries, bind_eq_ok_iff] at h
    obtain ⟨key, -, hvalue⟩ := h
    obtain ⟨v, hv, hrest⟩ := bind_eq_ok_iff.mp hvalue
    refine ih ?_ ?_ hrest
    · rw [keys_putEntry]
      split
      next => exact hkeys
      next hnew =>
        refine List.nodup_append.mpr ⟨hkeys, by simp, ?_⟩
        intro k hk k' hk'
        rw [List.mem_singleton.mp hk']
        exact fun heq => hnew (heq ▸ hk)
    · intro e he
      rcases mem_putEntry he with he | he
      · exact hread e he
      · exact he ▸ hfits o v hv

/-- What is read out of an outline fits. -/
theorem fits_of_ofOutline {room : Nat} {o : Outline} {v : Value} (h : ofOutline room o = .ok v) :
    v.Fits room := by
  induction room generalizing o v with
  | zero =>
    cases o with
    | leaf l =>
      rw [ofOutline] at h
      exact fits_of_leaf h
    | array | object =>
      rw [ofOutline] at h
      cases h
  | succ room ih =>
    cases o with
    | leaf l =>
      rw [ofOutline] at h
      exact fits_of_leaf h
    | array items ending =>
      rw [ofOutline, bind_eq_ok_iff] at h
      obtain ⟨values, hvalues, hend⟩ := h
      obtain ⟨-, rfl⟩ := finish_eq_ok_iff.mp hend
      exact .array (fits_of_ofItems (fun _ _ => ih) hvalues)
    | object entries ending =>
      rw [ofOutline, bind_eq_ok_iff] at h
      obtain ⟨values, hvalues, hend⟩ := h
      obtain rfl := eq_of_finishObject hend
      obtain ⟨hkeys, hfits⟩ := fits_of_ofEntries (fun _ _ => ih) (by simp) (by simp) hvalues
      exact .object hkeys hfits

end Value

end ApiBindings.Json
