import ApiBindings.Json.Codec
import ApiBindings.Proofs.Outline

/-!
# Laws of codecs

A codec restores data if it reads what it wrote of them. Each way to build a codec has a law for
the data it restores, in terms of the codecs it is built from. Each also has a law for the data it
gives at all, from any document, so that data that came from a document can be told to be such as
is restored.
-/

namespace ApiBindings.Json

variable {α β τ : Type} {room : Nat}

/-! ### Restored data -/

namespace Codec

/-- Data that are written with exact numbers and read back as they were. -/
structure Restores (c : Codec α) (room : Nat) (a : α) : Prop where
  exact : ∀ n ∈ (c.encode a).numbers, n.IsExact
  decoded : c.decode room (c.encode a).outline = .ok a

private theorem outline_ne_null {v : Value} (hv : v ≠ .null) : v.outline ≠ .leaf .null := by
  cases v <;> simp_all [Value.outline]

/-- Texts are restored. -/
theorem restores_string (s : String) : string.Restores room s where
  exact := by simp [string, Value.numbers]
  decoded := by
    simp only [string, Value.outline]
    exact Literal.text_ofText s

/-- Trees are restored if they fit and their numbers are exact. -/
theorem restores_tree {v : Value} (hv : v.Fits room) (hexact : ∀ n ∈ v.numbers, n.IsExact) :
    tree.Restores room v :=
  ⟨hexact, Value.ofOutline_outline hv hexact⟩

/-- Missing data are restored from null. -/
theorem restores_none (c : Codec α) : c.optional.Restores room none where
  exact := by simp [optional, Value.numbers]
  decoded := by simp [optional, Value.outline]

/-- What is not null is read as data. -/
theorem decode_optional (c : Codec α) {o : Outline} (ho : o ≠ .leaf .null) :
    c.optional.decode room o = (c.decode room o).map some := by
  simp only [optional]

/-- Optional data are restored if the data are and are not written as null. -/
theorem restores_some {c : Codec α} {a : α} (h : c.Restores room a) (hne : c.encode a ≠ .null) :
    c.optional.Restores room (some a) where
  exact := h.exact
  decoded := by
    change c.optional.decode room (c.encode a).outline = _
    rw [decode_optional c (outline_ne_null hne), h.decoded]
    rfl

/-- Lists are restored if their elements are. -/
theorem restores_list {c : Codec α} {as : List α} (h : ∀ a ∈ as, c.Restores room a) :
    c.list.Restores (room + 1) as where
  exact := by
    simp only [list, Value.numbers, Value.mem_itemNumbers, List.mem_map]
    rintro n ⟨_, ⟨a, ha, rfl⟩, hn⟩
    exact (h a ha).exact n hn
  decoded := by
    have hitems : (Value.itemOutlines (as.map c.encode)).mapM (c.decode room) = .ok as := by
      induction as with
      | nil => rfl
      | cons a as ih =>
        rw [List.map_cons, Value.itemOutlines, List.mapM_cons, (h a (by simp)).decoded,
          ih fun a ha => h a (.tail _ ha)]
        rfl
    simp only [list, Value.outline, hitems]
    rfl

/-- A table is restored if the values in it are and its entries, put in order, give it back. -/
theorem restores_keyed {c : Codec α} {empty : τ} {put : String → α → τ → τ}
    {entries : τ → List (String × α)} {t : τ}
    (hput : (entries t).foldl (fun t e => put e.1 e.2 t) empty = t)
    (h : ∀ e ∈ entries t, c.Restores room e.2) :
    (c.keyed empty put entries).Restores (room + 1) t where
  exact := by
    simp only [keyed, Value.numbers, Value.mem_entryNumbers, List.mem_map]
    rintro n ⟨_, ⟨e, he, rfl⟩, hn⟩
    exact (h e he).exact n hn
  decoded := by
    have hentries : ∀ (es : List (String × α)) (read : τ), (∀ e ∈ es, c.Restores room e.2) →
        (Value.entryOutlines (es.map fun e => (e.1, c.encode e.2))).foldlM (c.entry put room)
          read = .ok (es.foldl (fun t e => put e.1 e.2 t) read) := by
      intro es
      induction es with
      | nil => intro read _; rfl
      | cons e es ih =>
        intro read hes
        have hentry : c.entry put room read (.ofText e.1, (c.encode e.2).outline) =
            .ok (put e.1 e.2 read) := by
          rw [entry, Literal.text_ofText, Except.bind, (hes e (by simp)).decoded]
          rfl
        rw [List.map_cons, Value.entryOutlines, List.foldlM_cons, hentry, List.foldl_cons]
        exact ih _ fun e he => hes e (.tail _ he)
    simp only [keyed, Value.outline, hentries _ _ h, hput]
    rfl

/-- A choice is restored if its name leads to it. -/
theorem restores_choice {names : List (String × α)} {nameOf : α → String} {a : α}
    (h : names.lookup (nameOf a) = some a) : (choice names nameOf).Restores room a where
  exact := by simp [choice, Value.numbers]
  decoded := by
    simp only [choice, Value.outline, Literal.text_ofText, Except.bind, h]

/-- Data are restored through functions there and back. -/
theorem restores_convert {c : Codec α} {forth : α → β} {back : β → α} {b : β}
    (hback : forth (back b) = b) (h : c.Restores room (back b)) :
    (c.convert forth back).Restores room b where
  exact := h.exact
  decoded := by
    simp only [convert, h.decoded, Except.map, hback]

/-- Data are restored through a rule that accepts them. -/
theorem restores_refine {c : Codec α} {accept : α → Except String β} {back : β → α} {b : β}
    (haccept : accept (back b) = .ok b) (h : c.Restores room (back b)) :
    (c.refine accept back).Restores room b where
  exact := h.exact
  decoded := by
    simp only [refine, h.decoded, Except.bind, haccept]
    rfl

end Codec

/-! ### Restored records -/

/-- A field is restored from what is written of it: its value, or nothing, which stands for the
value then. -/
def Field.Restores (f : Field α) (room : Nat) (a : α) : Prop :=
  if f.omits a then f.missing? = some a else f.codec.Restores room a

namespace Fields

/-- The names of the fields in order. -/
def names : {α : Type} → Fields α → List String
  | _, nil => []
  | _, cons field rest => field.name :: rest.names

/-- A record is restored field by field. -/
def Restores (room : Nat) : {α : Type} → Fields α → α → Prop
  | _, nil, _ => True
  | _, cons field rest, (a, b) => field.Restores room a ∧ rest.Restores room b

/-- The draft of a record after what is written of it is read. -/
def drafted : {α : Type} → (fs : Fields α) → α → fs.Draft
  | _, nil, _ => ()
  | _, cons field rest, (a, b) => (if field.omits a then none else some a, rest.drafted b)

private theorem mem_names_of_entries {fs : Fields α} {a : α} {e : String × Value}
    (h : e ∈ fs.entries a) : e.1 ∈ fs.names := by
  induction fs with
  | nil => cases h
  | cons field rest ih =>
    obtain ⟨a, b⟩ := a
    rw [entries] at h
    split at h
    · exact .tail _ (ih h)
    · rcases List.mem_cons.mp h with rfl | h
      · exact List.mem_cons_self
      · exact .tail _ (ih h)

private theorem isExact_of_entries {fs : Fields α} {a : α} (h : fs.Restores room a)
    {e : String × Value} (he : e ∈ fs.entries a) : ∀ n ∈ e.2.numbers, n.IsExact := by
  induction fs with
  | nil => cases he
  | cons field rest ih =>
    obtain ⟨a, b⟩ := a
    obtain ⟨hfield, hrest⟩ := h
    rw [Field.Restores] at hfield
    rw [entries] at he
    split at he
    · exact ih hrest he
    next hwritten =>
      rw [if_neg hwritten] at hfield
      rcases List.mem_cons.mp he with rfl | he
      · exact hfield.exact
      · exact ih hrest he

private theorem complete_drafted {fs : Fields α} {a : α} (h : fs.Restores room a) :
    fs.complete (fs.drafted a) = .ok a := by
  induction fs with
  | nil => rfl
  | cons field rest ih =>
    obtain ⟨a, b⟩ := a
    obtain ⟨hfield, hrest⟩ := h
    have hvalue : (if field.omits a then none else some a).or field.missing? = some a := by
      rw [Field.Restores] at hfield
      split at hfield
      next homits => simp [homits, hfield]
      next homits => simp [homits]
    rw [drafted, complete]
    simp only [hvalue, ih hrest]
    rfl

private theorem foldlM_entry_cons {field : Field α} {rest : Fields β} {es : List (String × Value)}
    (hes : ∀ e ∈ es, e.1 ≠ field.name) (first : Option α) (draft : rest.Draft) :
    (Value.entryOutlines es).foldlM ((cons field rest).entry room) (first, draft) =
      ((Value.entryOutlines es).foldlM (rest.entry room) draft).map
        fun draft => (first, draft) := by
  induction es generalizing draft with
  | nil => rfl
  | cons e es ih =>
    obtain ⟨key, v⟩ := e
    rw [Value.entryOutlines, List.foldlM_cons, List.foldlM_cons]
    have hentry : (cons field rest).entry room (first, draft) (.ofText key, v.outline) =
        (rest.entry room draft (.ofText key, v.outline)).map fun draft => (first, draft) := by
      rw [entry, entry, Literal.text_ofText]
      exact if_neg (hes (key, v) (by simp))
    rw [hentry]
    cases rest.entry room draft (.ofText key, v.outline) with
    | error fault => rfl
    | ok draft => exact ih (fun e he => hes e (.tail _ he)) draft

private theorem foldlM_entries {fs : Fields α} {a : α} (hnames : fs.names.Nodup)
    (h : fs.Restores room a) :
    (Value.entryOutlines (fs.entries a)).foldlM (fs.entry room) fs.blank = .ok (fs.drafted a) := by
  induction fs with
  | nil => rfl
  | cons field rest ih =>
    obtain ⟨a, b⟩ := a
    obtain ⟨hfield, hrest⟩ := h
    obtain ⟨hnew, hnames⟩ := List.nodup_cons.mp hnames
    have hothers : ∀ e ∈ rest.entries b, e.1 ≠ field.name := fun e he heq =>
      hnew (heq ▸ mem_names_of_entries he)
    rw [entries, drafted, blank]
    rw [Field.Restores] at hfield
    split at hfield
    next homits =>
      rw [if_pos homits, if_pos homits, foldlM_entry_cons hothers, ih hnames hrest]
      rfl
    next homits =>
      have hentry : (cons field rest).entry room (none, rest.blank)
          (.ofText field.name, (field.codec.encode a).outline) = .ok (some a, rest.blank) := by
        have henter : (cons field rest).enter room field.name
            (some (field.codec.encode a).outline) (none, rest.blank) =
              (field.codec.decode room (field.codec.encode a).outline).map
                fun a => (some a, rest.blank) := by
          simp [enter]
        rw [entry, Literal.text_ofText]
        refine henter.trans ?_
        rw [hfield.decoded]
        rfl
      rw [if_neg homits, if_neg homits, Value.entryOutlines, List.foldlM_cons, hentry]
      change (Value.entryOutlines (rest.entries b)).foldlM ((cons field rest).entry room)
        (some a, rest.blank) = _
      rw [foldlM_entry_cons hothers, ih hnames hrest]
      rfl

/-- A record is restored if its fields are and have different names. -/
theorem restores_codec {name : String} {fs : Fields α} {a : α} (hnames : fs.names.Nodup)
    (h : fs.Restores room a) : (fs.codec name).Restores (room + 1) a where
  exact := by
    simp only [codec, Value.numbers, Value.mem_entryNumbers]
    rintro n ⟨e, he, hn⟩
    exact isExact_of_entries h he n hn
  decoded := by
    simp only [codec, Value.outline, ofEntries, foldlM_entries hnames h]
    exact complete_drafted h

end Fields

namespace Codec

/-- A document that was written is read back. -/
theorem read_write {c : Codec α} {a : α} (h : c.Restores nestingLimit a) :
    c.read (symbolsOfText (c.write a)) = .ok a := by
  rw [read, write, ofSymbols_text h.exact]
  simp [h.decoded, Except.bind]

end Codec

/-! ### Data that a reader gives -/

private theorem invariant_foldlM {ε σ : Type} {step : σ → ε → Except Fault σ} {motive : σ → Prop}
    (hstep : ∀ s e t, motive s → step s e = .ok t → motive t) {es : List ε} {s t : σ}
    (hs : motive s) (h : es.foldlM step s = .ok t) : motive t := by
  induction es generalizing s with
  | nil =>
    cases h
    exact hs
  | cons e es ih =>
    rw [List.foldlM_cons] at h
    obtain ⟨next, hnext, hrest⟩ := bind_eq_ok_iff.mp h
    exact ih (hstep s e next hs hnext) hrest

namespace Codec

/-- Data that are read from some outline. -/
def Gives (c : Codec α) (room : Nat) (a : α) : Prop := ∃ o, c.decode room o = .ok a

/-- What is read from a document is given with the room that documents have. -/
theorem gives_of_read {c : Codec α} {source : List Symbol} {a : α} (h : c.read source = .ok a) :
    c.Gives nestingLimit a := by
  obtain ⟨b, hb, hend⟩ := bind_eq_ok_iff.mp h
  split at hend
  · cases hend
    exact ⟨_, hb⟩
  · cases hend

/-- Trees that are read fit. -/
theorem Gives.fits {v : Value} (h : tree.Gives room v) : v.Fits room := by
  obtain ⟨o, ho⟩ := h
  exact Value.fits_of_ofOutline ho

/-- A tree is null only if the document is. -/
theorem eq_null_of_ofOutline {o : Outline} (h : Value.ofOutline room o = .ok .null) :
    o = .leaf .null := by
  cases o with
  | leaf l =>
    rw [Value.ofOutline] at h
    cases l with
    | null => rfl
    | absent | broken | boolean => cases h
    | number | string =>
      obtain ⟨_, -, hvalue⟩ := map_eq_ok_iff.mp h
      cases hvalue
  | array items ending =>
    cases room with
    | zero =>
      rw [Value.ofOutline] at h
      cases h
    | succ room =>
      rw [Value.ofOutline, bind_eq_ok_iff] at h
      obtain ⟨_, -, hend⟩ := h
      cases (finish_eq_ok_iff.mp hend).2
  | object entries ending =>
    cases room with
    | zero =>
      rw [Value.ofOutline] at h
      cases h
    | succ room =>
      rw [Value.ofOutline, bind_eq_ok_iff] at h
      obtain ⟨_, -, hend⟩ := h
      cases eq_of_finishObject hend

/-- Optional data that are there were read as data, and not from null. -/
theorem exists_of_gives_some {c : Codec α} {a : α} (h : c.optional.Gives room (some a)) :
    ∃ o, o ≠ .leaf .null ∧ c.decode room o = .ok a := by
  obtain ⟨o, ho⟩ := h
  have hne : o ≠ .leaf .null := by
    rintro rfl
    cases ho
  rw [decode_optional c hne, map_eq_ok_iff] at ho
  obtain ⟨_, ha, heq⟩ := ho
  cases heq
  exact ⟨o, hne, ha⟩

/-- The elements of a list are read one by one. -/
theorem Gives.list {c : Codec α} {as : List α} (h : c.list.Gives (room + 1) as) :
    ∀ a ∈ as, c.Gives room a := by
  have hitems : ∀ {items : List Outline} {as}, items.mapM (c.decode room) = .ok as →
      ∀ a ∈ as, c.Gives room a := by
    intro items
    induction items with
    | nil =>
      intro as has
      cases has
      simp
    | cons o items ih =>
      intro as has
      rw [List.mapM_cons] at has
      obtain ⟨a, ha, hrest⟩ := bind_eq_ok_iff.mp has
      obtain ⟨others, hothers, heq⟩ := bind_eq_ok_iff.mp hrest
      cases heq
      exact List.forall_mem_cons.mpr ⟨⟨o, ha⟩, ih hothers⟩
  obtain ⟨o, ho⟩ := h
  cases o with
  | leaf | object => cases ho
  | array items ending =>
    obtain ⟨found, hfound, hend⟩ := bind_eq_ok_iff.mp ho
    obtain ⟨-, rfl⟩ := finish_eq_ok_iff.mp hend
    exact hitems hfound

/-- What is kept by putting values that are read holds of the table that is read. -/
theorem Gives.keyed {c : Codec α} {empty : τ} {put : String → α → τ → τ}
    {entries : τ → List (String × α)} {motive : τ → Prop} (hempty : motive empty)
    (hput : ∀ key a t, c.Gives room a → motive t → motive (put key a t)) {t : τ}
    (h : (c.keyed empty put entries).Gives (room + 1) t) : motive t := by
  have hentry : ∀ read e next, motive read → c.entry put room read e = .ok next →
      motive next := by
    intro read e next hread hnext
    obtain ⟨key, -, hvalue⟩ := bind_eq_ok_iff.mp hnext
    obtain ⟨a, ha, rfl⟩ := map_eq_ok_iff.mp hvalue
    exact hput key a read ⟨e.2, ha⟩ hread
  obtain ⟨o, ho⟩ := h
  cases o with
  | leaf | array => cases ho
  | object es ending =>
    obtain ⟨found, hfound, hend⟩ := bind_eq_ok_iff.mp ho
    obtain rfl := eq_of_finishObject hend
    exact invariant_foldlM hentry hempty hfound

/-- Data are read through a function. -/
theorem exists_of_gives_convert {c : Codec α} {forth : α → β} {back : β → α} {b : β}
    (h : (c.convert forth back).Gives room b) : ∃ a, c.Gives room a ∧ forth a = b := by
  obtain ⟨o, ho⟩ := h
  obtain ⟨a, ha, hb⟩ := map_eq_ok_iff.mp ho
  exact ⟨a, ⟨o, ha⟩, hb⟩

/-- Data are read through a rule. -/
theorem exists_of_gives_refine {c : Codec α} {accept : α → Except String β} {back : β → α} {b : β}
    (h : (c.refine accept back).Gives room b) : ∃ a, c.Gives room a ∧ accept a = .ok b := by
  obtain ⟨o, ho⟩ := h
  obtain ⟨a, ha, hb⟩ := bind_eq_ok_iff.mp ho
  refine ⟨a, ⟨o, ha⟩, ?_⟩
  cases haccept : accept a with
  | error reason =>
    rw [haccept] at hb
    cases hb
  | ok b' =>
    rw [haccept] at hb
    cases hb
    rfl

end Codec

namespace Fields

/-- A record whose fields were read or stand for missing ones. -/
def Gives (room : Nat) : {α : Type} → Fields α → α → Prop
  | _, nil, _ => True
  | _, cons field rest, (a, b) =>
    (field.missing? = some a ∨ field.codec.Gives room a) ∧ rest.Gives room b

/-- A draft whose fields were read. -/
def GivesDraft (room : Nat) : {α : Type} → (fs : Fields α) → fs.Draft → Prop
  | _, nil, _ => True
  | _, cons field rest, draft =>
    (∀ a ∈ draft.1, field.codec.Gives room a) ∧ rest.GivesDraft room draft.2

private theorem givesDraft_blank (fs : Fields α) : fs.GivesDraft room fs.blank := by
  induction fs with
  | nil => trivial
  | cons field rest ih => exact ⟨by simp [blank], ih⟩

private theorem givesDraft_of_enter {fs : Fields α} {key : String} {o? : Option Outline}
    {draft next : fs.Draft} (hdraft : fs.GivesDraft room draft)
    (h : fs.enter room key o? draft = .ok next) : fs.GivesDraft room next := by
  induction fs with
  | nil => trivial
  | cons field rest ih =>
    obtain ⟨first, others⟩ := draft
    obtain ⟨hfirst, hothers⟩ := hdraft
    by_cases hkey : key = field.name
    · cases first with
      | some a =>
        simp only [enter, if_pos hkey] at h
        cases h
      | none =>
        cases o? with
        | none =>
          simp only [enter, if_pos hkey] at h
          cases h
          exact ⟨hfirst, hothers⟩
        | some o =>
          simp only [enter, if_pos hkey] at h
          obtain ⟨a, ha, rfl⟩ := map_eq_ok_iff.mp h
          refine ⟨fun b hb => ?_, hothers⟩
          cases hb
          exact ⟨o, ha⟩
    · simp only [enter, if_neg hkey] at h
      obtain ⟨others', hothers', rfl⟩ := map_eq_ok_iff.mp h
      exact ⟨hfirst, ih hothers hothers'⟩

private theorem gives_of_complete {fs : Fields α} {draft : fs.Draft} {a : α}
    (hdraft : fs.GivesDraft room draft) (h : fs.complete draft = .ok a) : fs.Gives room a := by
  induction fs with
  | nil => trivial
  | cons field rest ih =>
    obtain ⟨first, others⟩ := draft
    obtain ⟨hfirst, hothers⟩ := hdraft
    rw [complete] at h
    split at h
    next a hvalue =>
      obtain ⟨b, hb, rfl⟩ := map_eq_ok_iff.mp h
      refine ⟨?_, ih hothers hb⟩
      cases first with
      | none => exact .inl hvalue
      | some a' =>
        cases hvalue
        exact .inr (hfirst a rfl)
    next => cases h

private theorem gives_of_ofItems {ending : ArrayEnd} {lacking : Nat → Fault} {index : Nat}
    {fs : Fields α} {items : List Outline} {a : α}
    (h : ofItems room ending lacking index fs items = .ok a) : fs.Gives room a := by
  induction fs generalizing index items with
  | nil => trivial
  | cons field rest ih =>
    cases items with
    | nil =>
      rw [ofItems] at h
      obtain ⟨_, -, hmissing⟩ := bind_eq_ok_iff.mp h
      split at hmissing
      next a hvalue =>
        obtain ⟨b, hb, rfl⟩ := map_eq_ok_iff.mp hmissing
        exact ⟨.inl hvalue, ih hb⟩
      next => cases hmissing
    | cons o items =>
      rw [ofItems] at h
      obtain ⟨a, ha, hrest⟩ := bind_eq_ok_iff.mp h
      obtain ⟨b, hb, rfl⟩ := map_eq_ok_iff.mp hrest
      exact ⟨.inr ⟨o, ha⟩, ih hb⟩

/-- An object that is read as a record is closed. -/
theorem ending_eq_of_ofEntries {fs : Fields α} {es : List (Literal × Outline)} {ending : ObjectEnd}
    {a : α} (h : fs.ofEntries room es ending = .ok a) : ending = .closed := by
  obtain ⟨draft, -, hend⟩ := bind_eq_ok_iff.mp h
  cases ending with
  | closed => rfl
  | bareKey key last =>
    obtain ⟨_, -, hkey⟩ := bind_eq_ok_iff.mp hend
    obtain ⟨_, -, hcolon⟩ := bind_eq_ok_iff.mp hkey
    cases hcolon
  | _ => cases hend

/-- The entries of an object are read into a draft, which is then completed. -/
theorem ofEntries_closed_eq_ok_iff {fs : Fields α} {es : List (Literal × Outline)} {a : α} :
    fs.ofEntries room es .closed = .ok a ↔
      ∃ draft, es.foldlM (fs.entry room) fs.blank = .ok draft ∧ fs.complete draft = .ok a :=
  bind_eq_ok_iff

/-- A record that is read from an object has fields that were read or stand for missing ones. -/
theorem gives_of_ofEntries {fs : Fields α} {es : List (Literal × Outline)} {ending : ObjectEnd}
    {a : α} (h : fs.ofEntries room es ending = .ok a) : fs.Gives room a := by
  have hentry : ∀ draft e next, fs.GivesDraft room draft → fs.entry room draft e = .ok next →
      fs.GivesDraft room next := by
    intro draft e next hdraft hnext
    obtain ⟨key, -, henter⟩ := bind_eq_ok_iff.mp hnext
    exact givesDraft_of_enter hdraft henter
  obtain rfl := ending_eq_of_ofEntries h
  obtain ⟨draft, hdraft, hcomplete⟩ := ofEntries_closed_eq_ok_iff.mp h
  exact gives_of_complete (invariant_foldlM hentry (givesDraft_blank fs) hdraft) hcomplete

/-- A record that is read has fields that were read or stand for missing ones. -/
theorem gives_of_codec {name : String} {fs : Fields α} {a : α}
    (h : (fs.codec name).Gives (room + 1) a) : fs.Gives room a := by
  obtain ⟨o, ho⟩ := h
  cases o with
  | leaf => cases ho
  | array items ending => exact gives_of_ofItems ho
  | object es ending => exact gives_of_ofEntries ho

end Fields

end ApiBindings.Json
