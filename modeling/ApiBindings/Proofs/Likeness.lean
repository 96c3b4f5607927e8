import ApiBindings.Proofs.Record
import Mathlib.Data.List.Forall2

/-!
# Outlines that read alike

Two records are alike if they hold the same fields, in whatever order, with values that are alike in
turn, and whatever else is well-formed and not known to the record. A codec respects a likeness if
it reads the same from outlines that are alike. Each way to build a codec has a law for the likeness
that is built in the same way, so that a likeness of whole documents has its law from those of their
parts.
-/

namespace ApiBindings.Json

variable {α β τ : Type} {room : Nat}

/-! ### Well-formed values -/

namespace Outline

/-- The syntax of a value without a flaw: all containers are closed, all strings end with their
quote, and all numbers are spelled out. -/
inductive WellFormed : Outline → Prop
  | null : WellFormed (.leaf .null)
  | boolean (b : Bool) : WellFormed (.leaf (.boolean b))
  | number (n : Numeral) : WellFormed (.leaf (.number (.ok n)))
  | string {l : Literal} (h : l.closing = .quote) : WellFormed (.leaf (.string l))
  | array {items : List Outline} (h : ∀ o ∈ items, WellFormed o) : WellFormed (.array items .closed)
  | object {es : List (Literal × Outline)} (keys : ∀ e ∈ es, e.1.closing = .quote)
      (values : ∀ e ∈ es, WellFormed e.2) : WellFormed (.object es .closed)

private theorem spellingFault?_of_closing {l : Literal} (h : l.closing = .quote) :
    l.spellingFault? = none := by
  rw [Literal.spellingFault?, h]

private theorem skippedItemFault?_eq_none {items : List Outline}
    (h : ∀ o ∈ items, o.skippedFault? = none) : skippedItemFault? items = none := by
  induction items with
  | nil => rfl
  | cons o items ih =>
    rw [skippedItemFault?, h o (by simp), ih fun o ho => h o (.tail _ ho)]
    rfl

private theorem skippedEntryFault?_eq_none {es : List (Literal × Outline)}
    (keys : ∀ e ∈ es, e.1.closing = .quote) (values : ∀ e ∈ es, e.2.skippedFault? = none) :
    skippedEntryFault? es = none := by
  induction es with
  | nil => rfl
  | cons e es ih =>
    rw [skippedEntryFault?, spellingFault?_of_closing (keys e (by simp)), values e (by simp),
      ih (fun e he => keys e (.tail _ he)) fun e he => values e (.tail _ he)]
    rfl

private theorem WellFormed.skippedFault?_eq_none {o : Outline} (h : o.WellFormed) :
    o.skippedFault? = none := by
  induction h with
  | null | boolean | number => rfl
  | string h => exact spellingFault?_of_closing h
  | array _ ih =>
    rw [skippedFault?, skippedItemFault?_eq_none ih]
    rfl
  | object keys _ ih =>
    rw [skippedFault?, skippedEntryFault?_eq_none keys ih]
    rfl

end Outline

/-! ### Likeness -/

/-- A sense in which two outlines are alike. -/
abbrev Likeness : Type := Outline → Outline → Prop

namespace Likeness

/-- Outlines are alike if they are the same. -/
def same : Likeness := Eq

/-- Arrays are alike if their elements are one by one. -/
inductive list (R : Likeness) : Likeness
  | refl (o : Outline) : list R o o
  | array {items items' : List Outline} (h : List.Forall₂ R items items') :
      list R (.array items .closed) (.array items' .closed)

/-- Objects are alike if they have the same keys in the same order and the values are one by one. -/
inductive table (R : Likeness) : Likeness
  | refl (o : Outline) : table R o o
  | object {es es' : List (Literal × Outline)}
      (h : List.Forall₂ (fun e e' => e.1 = e'.1 ∧ R e.2 e'.2) es es') :
      table R (.object es .closed) (.object es' .closed)

/-- The fields of a record, each with the sense in which its values are to be alike. -/
abbrev Schema : Type := List (String × Likeness)

/-- Entries of one field whose values are alike. -/
structure FieldAlike (fields : Schema) (e e' : Literal × Outline) : Prop where
  key : e.1 = e'.1
  value : ∃ name R, e.1.key? = some name ∧ fields.lookup name = some R ∧ R e.2 e'.2

/-- An entry that is no field. -/
def IsUnknown (fields : Schema) (e : Literal × Outline) : Prop :=
  ∃ key, e.1.key? = some key ∧ fields.lookup key = none

/-- Entries that are written with the name of a field are alike if their values are. -/
theorem fieldAlike_ofText {fields : Schema} {name : String} {R : Likeness} {o o' : Outline}
    (hname : fields.lookup name = some R) (h : R o o') :
    FieldAlike fields (.ofText name, o) (.ofText name, o') :=
  ⟨rfl, name, R, Literal.key?_ofText name, hname, h⟩

/-- An entry that is written with another name is no field. -/
theorem isUnknown_ofText {fields : Schema} {key : String} (hkey : fields.lookup key = none)
    (o : Outline) : IsUnknown fields (.ofText key, o) :=
  ⟨key, Literal.key?_ofText key, hkey⟩

/-- Entries in any order that hold the same fields up to likeness. On both sides there may be
entries beside these that are no fields; on the second side, these must be well-formed. -/
inductive EntriesAlike (fields : Schema) (es es' : List (Literal × Outline)) : Prop
  | intro {known known' unknown unknown' : List (Literal × Outline)}
      (before : es.Perm (known ++ unknown)) (after : es'.Perm (known' ++ unknown'))
      (kept : List.Forall₂ (FieldAlike fields) known known')
      (dropped : ∀ e ∈ unknown, IsUnknown fields e)
      (added : ∀ e ∈ unknown', IsUnknown fields e ∧ e.2.WellFormed)

/-- Records are alike if their entries are. Records given as arrays have their fields at fixed
places and are alike if these are one by one. -/
inductive record (fields : Schema) : Likeness
  | refl (o : Outline) : record fields o o
  | object {es es' : List (Literal × Outline)} (h : EntriesAlike fields es es') :
      record fields (.object es .closed) (.object es' .closed)
  | array {items items' : List Outline}
      (h : List.Forall₂ (fun place o' => place.1.2 place.2 o') (fields.zip items) items') :
      record fields (.array items .closed) (.array items' .closed)

/-! ### One field after the other -/

variable {name : String} {R : Likeness} {fields : Schema} {e e' : Literal × Outline}

private theorem isUnknown_cons_iff :
    IsUnknown ((name, R) :: fields) e ↔ e.1.key? ≠ some name ∧ IsUnknown fields e := by
  unfold IsUnknown
  constructor
  · rintro ⟨key, hkey, hlookup⟩
    have hne : key ≠ name := by
      rintro rfl
      simp at hlookup
    refine ⟨by simpa [hkey] using hne, key, hkey, ?_⟩
    rwa [List.lookup_cons, beq_eq_false_iff_ne.mpr hne] at hlookup
  · rintro ⟨hne, key, hkey, hlookup⟩
    have hne : key ≠ name := by simpa [hkey] using hne
    exact ⟨key, hkey, by rwa [List.lookup_cons, beq_eq_false_iff_ne.mpr hne]⟩

/-- Entries of the first field have values that are alike in its sense. -/
theorem FieldAlike.first (h : FieldAlike ((name, R) :: fields) e e')
    (hkey : e.1.key? = some name) : R e.2 e'.2 := by
  obtain ⟨-, name', R', hkey', hlookup, hvalue⟩ := h
  obtain rfl : name = name' := Option.some.inj (hkey.symm.trans hkey')
  obtain rfl : R = R' := by simpa using hlookup
  exact hvalue

/-- Entries of another field are alike without the first one. -/
theorem FieldAlike.other (h : FieldAlike ((name, R) :: fields) e e')
    (hkey : e.1.key? ≠ some name) : FieldAlike fields e e' := by
  obtain ⟨hsame, name', R', hkey', hlookup, hvalue⟩ := h
  have hne : name' ≠ name := by simpa [hkey'] using hkey
  rw [List.lookup_cons, beq_eq_false_iff_ne.mpr hne] at hlookup
  exact ⟨hsame, name', R', hkey', hlookup, hvalue⟩

private theorem forall₂_valuesUnder {es es' : List (Literal × Outline)}
    (h : List.Forall₂ (FieldAlike ((name, R) :: fields)) es es') :
    List.Forall₂ R (valuesUnder name es) (valuesUnder name es') := by
  induction h with
  | nil => exact .nil
  | @cons e e' es es' hentry _ ih =>
    by_cases hkey : e.1.key? = some name
    · have hkey' : e'.1.key? = some name := hentry.key ▸ hkey
      rw [valuesUnder_cons_of_eq hkey, valuesUnder_cons_of_eq hkey']
      exact .cons (hentry.first hkey) ih
    · have hkey' : e'.1.key? ≠ some name := hentry.key ▸ hkey
      rwa [valuesUnder_cons_of_ne hkey, valuesUnder_cons_of_ne hkey']

private theorem forall₂_entriesBeside {es es' : List (Literal × Outline)}
    (h : List.Forall₂ (FieldAlike ((name, R) :: fields)) es es') :
    List.Forall₂ (FieldAlike fields) (entriesBeside name es) (entriesBeside name es') := by
  induction h with
  | nil => exact .nil
  | @cons e e' es es' hentry _ ih =>
    by_cases hkey : e.1.key? = some name
    · have hkey' : e'.1.key? = some name := hentry.key ▸ hkey
      rwa [entriesBeside_cons_of_eq hkey, entriesBeside_cons_of_eq hkey']
    · have hkey' : e'.1.key? ≠ some name := hentry.key ▸ hkey
      rw [entriesBeside_cons_of_ne hkey, entriesBeside_cons_of_ne hkey']
      exact .cons (hentry.other hkey) ih

private theorem valuesUnder_eq_nil {es : List (Literal × Outline)}
    (h : ∀ e ∈ es, IsUnknown ((name, R) :: fields) e) : valuesUnder name es = [] := by
  rw [valuesUnder, List.map_eq_nil_iff, List.filter_eq_nil_iff]
  intro e he
  simpa using (isUnknown_cons_iff.mp (h e he)).1

/-- Entries that are alike give to the first field, up to their order, values that are alike one by
one. -/
theorem EntriesAlike.first {es es' : List (Literal × Outline)}
    (h : EntriesAlike ((name, R) :: fields) es es') :
    ∃ os os', (valuesUnder name es).Perm os ∧ List.Forall₂ R os os' ∧
      os'.Perm (valuesUnder name es') := by
  obtain ⟨before, after, kept, dropped, added⟩ := h
  have hunder : ∀ {es known unknown : List (Literal × Outline)}, es.Perm (known ++ unknown) →
      (∀ e ∈ unknown, IsUnknown ((name, R) :: fields) e) →
        (valuesUnder name es).Perm (valuesUnder name known) := by
    intro es known unknown hperm hunknown
    have hvalues := (hperm.filter fun e => e.1.key? = some name).map Prod.snd
    rw [List.filter_append, List.map_append] at hvalues
    have hnone := valuesUnder_eq_nil hunknown
    rw [valuesUnder] at hnone
    rwa [hnone, List.append_nil] at hvalues
  exact ⟨_, _, hunder before dropped, forall₂_valuesUnder kept,
    (hunder after fun e he => (added e he).1).symm⟩

/-- Entries that are alike are so beside the first field. -/
theorem EntriesAlike.others {es es' : List (Literal × Outline)}
    (h : EntriesAlike ((name, R) :: fields) es es') :
    EntriesAlike fields (entriesBeside name es) (entriesBeside name es') := by
  obtain ⟨before, after, kept, dropped, added⟩ := h
  have hbeside : ∀ {es known unknown : List (Literal × Outline)}, es.Perm (known ++ unknown) →
      (entriesBeside name es).Perm (entriesBeside name known ++ entriesBeside name unknown) := by
    intro es known unknown hperm
    have hentries := hperm.filter fun e => ¬ e.1.key? = some name
    rwa [List.filter_append] at hentries
  refine ⟨hbeside before, hbeside after, forall₂_entriesBeside kept, fun e he => ?_, fun e he => ?_⟩
  · exact (isUnknown_cons_iff.mp (dropped e (List.mem_filter.mp he).1)).2
  · obtain ⟨hunknown, hvalue⟩ := added e (List.mem_filter.mp he).1
    exact ⟨(isUnknown_cons_iff.mp hunknown).2, hvalue⟩

end Likeness

/-! ### Codecs that respect a likeness -/

private theorem mapM_eq_ok_of_forall₂ {γ δ : Type} {f : γ → Except Fault δ} {S : γ → γ → Prop}
    (hstep : ∀ {c c' d}, S c c' → f c = .ok d → f c' = .ok d) {l l' : List γ}
    (halike : List.Forall₂ S l l') {ds : List δ} (h : l.mapM f = .ok ds) : l'.mapM f = .ok ds := by
  induction halike generalizing ds with
  | nil => exact h
  | cons hfirst _ ih =>
    rw [List.mapM_cons] at h ⊢
    obtain ⟨d, hd, hrest⟩ := bind_eq_ok_iff.mp h
    obtain ⟨ds, hds, heq⟩ := bind_eq_ok_iff.mp hrest
    exact bind_eq_ok_iff.mpr ⟨d, hstep hfirst hd, bind_eq_ok_iff.mpr ⟨ds, ih hds, heq⟩⟩

private theorem foldlM_eq_ok_of_forall₂ {γ σ : Type} {step : σ → γ → Except Fault σ}
    {S : γ → γ → Prop}
    (hstep : ∀ {s c c' t}, S c c' → step s c = .ok t → step s c' = .ok t) {l l' : List γ}
    (halike : List.Forall₂ S l l') {s t : σ} (h : l.foldlM step s = .ok t) :
    l'.foldlM step s = .ok t := by
  induction halike generalizing s with
  | nil => exact h
  | cons hfirst _ ih =>
    rw [List.foldlM_cons] at h ⊢
    obtain ⟨next, hnext, hrest⟩ := bind_eq_ok_iff.mp h
    exact bind_eq_ok_iff.mpr ⟨next, hstep hfirst hnext, ih hrest⟩

namespace Codec

/-- A codec reads from an outline what it reads from one that is alike, and only null is like
null. -/
structure Respects (c : Codec α) (R : Likeness) : Prop where
  decoded : ∀ {room o o' a}, R o o' → c.decode room o = .ok a → c.decode room o' = .ok a
  null : ∀ {o o'}, R o o' → (o = .leaf .null ↔ o' = .leaf .null)

/-- Every codec reads the same from the same. -/
theorem respects_same (c : Codec α) : c.Respects Likeness.same where
  decoded := by
    rintro room o _ a rfl h
    exact h
  null := by
    rintro o _ rfl
    exact .rfl

variable {c : Codec α} {R : Likeness}

/-- Optional data are read from null or like the data. -/
theorem Respects.optional (h : c.Respects R) : c.optional.Respects R where
  decoded := by
    intro room o o' a halike hread
    by_cases hnull : o = .leaf .null
    · rw [(h.null halike).mp hnull]
      rwa [hnull] at hread
    · rw [decode_optional c hnull] at hread
      rw [decode_optional c (mt (h.null halike).mpr hnull)]
      obtain ⟨b, hb, hsome⟩ := map_eq_ok_iff.mp hread
      exact map_eq_ok_iff.mpr ⟨b, h.decoded halike hb, hsome⟩
  null := h.null

/-- Lists are read element by element. -/
theorem Respects.list (h : c.Respects R) : c.list.Respects (.list R) where
  decoded := by
    intro room o o' as halike hread
    cases halike with
    | refl => exact hread
    | array hitems =>
      cases room with
      | zero => cases hread
      | succ room =>
        obtain ⟨found, hfound, hend⟩ := bind_eq_ok_iff.mp hread
        refine bind_eq_ok_iff.mpr ⟨found, mapM_eq_ok_of_forall₂ ?_ hitems hfound, hend⟩
        exact h.decoded
  null := by
    rintro _ _ (_ | _) <;> simp

/-- Tables are read entry by entry. -/
theorem Respects.keyed (h : c.Respects R) {empty : τ} {put : String → α → τ → τ}
    {entries : τ → List (String × α)} :
    (c.keyed empty put entries).Respects (.table R) where
  decoded := by
    intro room o o' t halike hread
    cases halike with
    | refl => exact hread
    | object hentries =>
      cases room with
      | zero => cases hread
      | succ room =>
        obtain ⟨found, hfound, hend⟩ := bind_eq_ok_iff.mp hread
        refine bind_eq_ok_iff.mpr ⟨found, foldlM_eq_ok_of_forall₂ ?_ hentries hfound, hend⟩
        rintro read e e' next ⟨hkey, hvalue⟩ hentry
        obtain ⟨key, htext, hitem⟩ := bind_eq_ok_iff.mp hentry
        obtain ⟨a, ha, hput⟩ := map_eq_ok_iff.mp hitem
        rw [hkey] at htext
        exact bind_eq_ok_iff.mpr
          ⟨key, htext, map_eq_ok_iff.mpr ⟨a, h.decoded hvalue ha, hput⟩⟩
  null := by
    rintro _ _ (_ | _) <;> simp

/-- A function reads the same behind the same. -/
theorem Respects.convert (h : c.Respects R) {forth : α → β} {back : β → α} :
    (c.convert forth back).Respects R where
  decoded := by
    intro room o o' b halike hread
    obtain ⟨a, ha, hb⟩ := map_eq_ok_iff.mp hread
    exact map_eq_ok_iff.mpr ⟨a, h.decoded halike ha, hb⟩
  null := h.null

/-- A rule accepts the same behind the same. -/
theorem Respects.refine (h : c.Respects R) {accept : α → Except String β} {back : β → α} :
    (c.refine accept back).Respects R where
  decoded := by
    intro room o o' b halike hread
    obtain ⟨a, ha, hb⟩ := bind_eq_ok_iff.mp hread
    exact bind_eq_ok_iff.mpr ⟨a, h.decoded halike ha, hb⟩
  null := h.null

/-- A document is read like one with an outline that is alike. -/
theorem Respects.read (h : c.Respects R) {source source' : List Symbol} {a : α}
    (hread : c.read source = .ok a)
    (halike : R (Outline.ofSymbols source).1 (Outline.ofSymbols source').1)
    (hend : (Outline.ofSymbols source').2 = true) : c.read source' = .ok a := by
  obtain ⟨b, hb, hsource⟩ := bind_eq_ok_iff.mp hread
  refine bind_eq_ok_iff.mpr ⟨b, h.decoded halike hb, ?_⟩
  split at hsource
  · rw [if_pos hend]
    exact hsource
  · cases hsource

end Codec

/-! ### Records that respect a likeness -/

/-- A field reads no more than one outline, so the order does not matter. -/
theorem Field.Reads.perm {f : Field α} {os os' : List Outline} {a : α} (h : f.Reads room os a)
    (hperm : os.Perm os') : f.Reads room os' a := by
  match os with
  | [] =>
    obtain rfl := List.nil_perm.mp hperm
    exact h
  | [o] =>
    obtain rfl := List.perm_singleton.mp hperm.symm
    exact h
  | _ :: _ :: _ => exact h.elim

/-- A field reads from what is alike what it reads from an outline. -/
theorem Field.Reads.alike {f : Field α} {R : Likeness} {os os' : List Outline} {a : α}
    (h : f.Reads room os a) (hrespects : f.codec.Respects R) (halike : List.Forall₂ R os os') :
    f.Reads room os' a := by
  cases halike with
  | nil => exact h
  | cons hfirst hrest =>
    cases hrest with
    | nil => exact hrespects.decoded hfirst h
    | cons => exact h.elim

namespace Fields

open Likeness (Schema EntriesAlike)

/-- The codecs of the fields respect the likeness of the field, one by one. -/
inductive Respects : {α : Type} → Fields α → Schema → Prop
  | nil : nil.Respects []
  | cons {α β : Type} {field : Field α} {rest : Fields β} {R : Likeness} {fields : Schema}
      (hfield : field.codec.Respects R) (hrest : rest.Respects fields) :
      (cons field rest).Respects ((field.name, R) :: fields)

variable {fs : Fields α} {fields : Schema}

/-- A record given as an object reads the same from entries that are alike. -/
theorem Respects.read_entries (h : fs.Respects fields) {es es' : List (Literal × Outline)} {a : α}
    (halike : EntriesAlike fields es es') (hread : fs.ofEntries room es .closed = .ok a) :
    fs.ofEntries room es' .closed = .ok a := by
  induction h generalizing es es' with
  | nil =>
    obtain ⟨-, after, kept, -, added⟩ := halike
    cases kept with
    | nil =>
      refine ofEntries_nil_eq_ok_iff.mpr fun e he => ?_
      obtain ⟨⟨key, hkey, -⟩, hvalue⟩ := added e (after.mem_iff.mp he)
      exact ⟨Option.isSome_iff_exists.mpr ⟨key, hkey⟩, hvalue.skippedFault?_eq_none⟩
    | cons hfirst =>
      obtain ⟨name, R, -, hlookup, -⟩ := hfirst.value
      cases hlookup
  | cons hfield _ ih =>
    obtain ⟨a, b⟩ := a
    obtain ⟨hfirst, hothers⟩ := ofEntries_cons_eq_ok_iff.mp hread
    obtain ⟨os, os', hbefore, hvalues, hafter⟩ := halike.first
    exact ofEntries_cons_eq_ok_iff.mpr
      ⟨((hfirst.perm hbefore).alike hfield hvalues).perm hafter, ih halike.others hothers⟩

/-- A record given as an array reads the same from elements that are alike. -/
theorem Respects.read_items (h : fs.Respects fields) {items items' : List Outline}
    {ending : ArrayEnd} {lacking : Nat → Fault} {index : Nat} {a : α}
    (halike : List.Forall₂ (fun place o' => place.1.2 place.2 o') (fields.zip items) items')
    (hread : ofItems room ending lacking index fs items = .ok a) :
    ofItems room ending lacking index fs items' = .ok a := by
  induction h generalizing index items items' with
  | nil =>
    cases items with
    | nil =>
      cases halike
      exact hread
    | cons => cases hread
  | cons hfield _ ih =>
    cases items with
    | nil =>
      cases halike
      exact hread
    | cons o items =>
      cases halike with
      | cons hfirst hothers =>
        rw [ofItems, bind_eq_ok_iff] at hread ⊢
        obtain ⟨a, ha, hmore⟩ := hread
        obtain ⟨b, hb, heq⟩ := map_eq_ok_iff.mp hmore
        exact ⟨a, hfield.decoded hfirst ha, map_eq_ok_iff.mpr ⟨b, ih hothers hb, heq⟩⟩

/-- Records are read field by field. -/
theorem Respects.codec (h : fs.Respects fields) {name : String} :
    (fs.codec name).Respects (.record fields) where
  decoded := by
    intro room o o' a halike hread
    cases halike with
    | refl => exact hread
    | object hentries =>
      cases room with
      | zero => cases hread
      | succ room => exact h.read_entries hentries hread
    | array hitems =>
      cases room with
      | zero => cases hread
      | succ room => exact h.read_items hitems hread
  null := by
    rintro _ _ (_ | _ | _) <;> simp

end Fields

end ApiBindings.Json
