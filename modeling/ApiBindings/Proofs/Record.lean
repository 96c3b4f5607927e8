import ApiBindings.Proofs.Codec

/-!
# What a record reads

A record reads each of its fields from what the document gives to the name of the field, wherever
that stands, or from the value that stands for a missing field. What is given to other names must be
well-formed and is not looked at. In a record given as an array, the place of an element says which
field it is given to.
-/

namespace ApiBindings.Json

variable {α β : Type} {room : Nat}

/-! ### What is given to a name -/

/-- The text of a key, if its spelling stands for one. -/
def Literal.key? (l : Literal) : Option String := l.text.toOption

/-- A key has the text that is read from it. -/
theorem Literal.key?_eq_some_iff {l : Literal} {key : String} :
    l.key? = some key ↔ l.text = .ok key := by
  rw [key?]
  cases l.text <;> simp [Except.toOption]

/-- A key that is written for a text has it. -/
@[simp] theorem Literal.key?_ofText (s : String) : (ofText s).key? = some s :=
  key?_eq_some_iff.mpr (text_ofText s)

/-- The values of the entries under a name, in order. -/
def valuesUnder (name : String) (es : List (Literal × Outline)) : List Outline :=
  (es.filter fun e => e.1.key? = some name).map Prod.snd

/-- The entries under other names, in order. -/
def entriesBeside (name : String) (es : List (Literal × Outline)) : List (Literal × Outline) :=
  es.filter fun e => ¬ e.1.key? = some name

/-- An entry under the name gives its value. -/
theorem valuesUnder_cons_of_eq {name : String} {e : Literal × Outline} (h : e.1.key? = some name)
    (es : List (Literal × Outline)) : valuesUnder name (e :: es) = e.2 :: valuesUnder name es := by
  simp [valuesUnder, h]

/-- An entry under another name gives nothing. -/
theorem valuesUnder_cons_of_ne {name : String} {e : Literal × Outline} (h : e.1.key? ≠ some name)
    (es : List (Literal × Outline)) : valuesUnder name (e :: es) = valuesUnder name es := by
  simp [valuesUnder, h]

/-- An entry under the name is not beside it. -/
theorem entriesBeside_cons_of_eq {name : String} {e : Literal × Outline} (h : e.1.key? = some name)
    (es : List (Literal × Outline)) : entriesBeside name (e :: es) = entriesBeside name es := by
  simp [entriesBeside, h]

/-- An entry under another name is beside it. -/
theorem entriesBeside_cons_of_ne {name : String} {e : Literal × Outline} (h : e.1.key? ≠ some name)
    (es : List (Literal × Outline)) :
    entriesBeside name (e :: es) = e :: entriesBeside name es := by
  simp [entriesBeside, h]

private theorem valuesUnder_entriesBeside {name other : String} (hne : name ≠ other)
    (es : List (Literal × Outline)) :
    valuesUnder name (entriesBeside other es) = valuesUnder name es := by
  induction es with
  | nil => rfl
  | cons e es ih =>
    by_cases hother : e.1.key? = some other
    · have hname : e.1.key? ≠ some name := by simpa [hother] using hne.symm
      rw [entriesBeside_cons_of_eq hother, valuesUnder_cons_of_ne hname, ih]
    · rw [entriesBeside_cons_of_ne hother]
      by_cases hname : e.1.key? = some name
      · rw [valuesUnder_cons_of_eq hname, valuesUnder_cons_of_eq hname, ih]
      · rw [valuesUnder_cons_of_ne hname, valuesUnder_cons_of_ne hname, ih]

/-! ### Records given as objects -/

namespace Field

/-- What a field reads from the outlines given to it, of which there may be no more than one. -/
def Reads (f : Field α) (room : Nat) : List Outline → α → Prop
  | [], a => f.missing? = some a
  | [o], a => f.codec.decode room o = .ok a
  | _, _ => False

/-- How the outlines given to a field change what a draft has of it. -/
def Enters (f : Field α) (room : Nat) : List Outline → Option α → Option α → Prop
  | [], first, next => next = first
  | [o], none, some a => f.codec.decode room o = .ok a
  | _, _, _ => False

private theorem enters_cons_iff {f : Field α} {o : Outline} {os : List Outline}
    {first next : Option α} : f.Enters room (o :: os) first next ↔
      first = none ∧ ∃ a, f.codec.decode room o = .ok a ∧ f.Enters room os (some a) next := by
  cases first <;> cases os <;> cases next <;> simp [Enters]

private theorem enters_none_iff {f : Field α} {os : List Outline} {a : α} :
    (∃ next, f.Enters room os none next ∧ next.or f.missing? = some a) ↔ f.Reads room os a := by
  cases os with
  | nil => simp [Enters, Reads]
  | cons o os =>
    cases os with
    | nil =>
      constructor
      · rintro ⟨next, henters, hnext⟩
        cases next with
        | none => exact henters.elim
        | some b =>
          cases hnext
          exact henters
      · exact fun h => ⟨some a, h, rfl⟩
    | cons => simp [Enters, Reads]

end Field

namespace Fields

private theorem entry_of_eq {field : Field α} {rest : Fields β} {e : Literal × Outline}
    (h : e.1.key? = some field.name) (first : Option α) (others : rest.Draft) :
    (cons field rest).entry room (first, others) e =
      match first with
      | some _ => .error (.duplicateField field.name)
      | none => (field.codec.decode room e.2).map fun a => (some a, others) := by
  rw [entry, Literal.key?_eq_some_iff.mp h]
  cases first <;> exact if_pos rfl

private theorem entry_of_ne {field : Field α} {rest : Fields β} {e : Literal × Outline}
    (h : e.1.key? ≠ some field.name) (first : Option α) (others : rest.Draft) :
    (cons field rest).entry room (first, others) e =
      (rest.entry room others e).map fun others => (first, others) := by
  rw [entry, entry]
  cases hkey : e.1.text with
  | error fault => rfl
  | ok key =>
    have hne : key ≠ field.name := fun heq =>
      h (Literal.key?_eq_some_iff.mpr (heq ▸ hkey))
    exact if_neg hne

/-- The entries of an object change a draft by what they give to the first field and, beside that,
by what they give to the others. -/
theorem foldlM_entry_eq_ok_iff {field : Field α} {rest : Fields β} {es : List (Literal × Outline)}
    {first next : Option α} {others others' : rest.Draft} :
    es.foldlM ((cons field rest).entry room) (first, others) = .ok (next, others') ↔
      field.Enters room (valuesUnder field.name es) first next ∧
        (entriesBeside field.name es).foldlM (rest.entry room) others = .ok others' := by
  induction es generalizing first others with
  | nil =>
    rw [List.foldlM_nil]
    constructor
    · intro h
      cases h
      exact ⟨rfl, rfl⟩
    · rintro ⟨hfirst, hothers⟩
      cases hfirst
      cases hothers
      rfl
  | cons e es ih =>
    rw [List.foldlM_cons]
    refine bind_eq_ok_iff.trans ?_
    by_cases hkey : e.1.key? = some field.name
    · rw [valuesUnder_cons_of_eq hkey, entriesBeside_cons_of_eq hkey, entry_of_eq hkey,
        Field.enters_cons_iff]
      constructor
      · rintro ⟨draft, hdraft, hrest⟩
        cases first with
        | some => cases hdraft
        | none =>
          obtain ⟨a, ha, rfl⟩ := map_eq_ok_iff.mp hdraft
          obtain ⟨henters, hothers⟩ := ih.mp hrest
          exact ⟨⟨rfl, a, ha, henters⟩, hothers⟩
      · rintro ⟨⟨rfl, a, ha, henters⟩, hothers⟩
        exact ⟨(some a, others), map_eq_ok_iff.mpr ⟨a, ha, rfl⟩, ih.mpr ⟨henters, hothers⟩⟩
    · rw [valuesUnder_cons_of_ne hkey, entriesBeside_cons_of_ne hkey, entry_of_ne hkey,
        List.foldlM_cons]
      constructor
      · rintro ⟨draft, hdraft, hrest⟩
        obtain ⟨mid, hmid, rfl⟩ := map_eq_ok_iff.mp hdraft
        obtain ⟨henters, hothers⟩ := ih.mp hrest
        exact ⟨henters, bind_eq_ok_iff.mpr ⟨mid, hmid, hothers⟩⟩
      · rintro ⟨henters, hothers⟩
        obtain ⟨mid, hmid, hothers⟩ := bind_eq_ok_iff.mp hothers
        exact ⟨(first, mid), map_eq_ok_iff.mpr ⟨mid, hmid, rfl⟩, ih.mpr ⟨henters, hothers⟩⟩

private theorem complete_cons_eq_ok_iff {field : Field α} {rest : Fields β} {first : Option α}
    {others : rest.Draft} {a : α} {b : β} :
    (cons field rest).complete (first, others) = .ok (a, b) ↔
      first.or field.missing? = some a ∧ rest.complete others = .ok b := by
  rw [complete]
  cases first.or field.missing? with
  | none => simp
  | some a' =>
    refine map_eq_ok_iff.trans ?_
    simp only [Prod.mk.injEq, Option.some.injEq]
    constructor
    · rintro ⟨_, hothers, rfl, rfl⟩
      exact ⟨rfl, hothers⟩
    · rintro ⟨rfl, hothers⟩
      exact ⟨b, hothers, rfl, rfl⟩

/-- A record with a first field reads it from what is given to its name, and the others beside
that. -/
theorem ofEntries_cons_eq_ok_iff {field : Field α} {rest : Fields β}
    {es : List (Literal × Outline)} {a : α} {b : β} :
    (cons field rest).ofEntries room es .closed = .ok (a, b) ↔
      field.Reads room (valuesUnder field.name es) a ∧
        rest.ofEntries room (entriesBeside field.name es) .closed = .ok b := by
  rw [ofEntries_closed_eq_ok_iff, ofEntries_closed_eq_ok_iff, ← Field.enters_none_iff, blank]
  constructor
  · rintro ⟨⟨next, others⟩, hdraft, hcomplete⟩
    obtain ⟨henters, hothers⟩ := foldlM_entry_eq_ok_iff.mp hdraft
    obtain ⟨hnext, hrest⟩ := complete_cons_eq_ok_iff.mp hcomplete
    exact ⟨⟨next, henters, hnext⟩, others, hothers, hrest⟩
  · rintro ⟨⟨next, henters, hnext⟩, others, hothers, hrest⟩
    exact ⟨(next, others), foldlM_entry_eq_ok_iff.mpr ⟨henters, hothers⟩,
      complete_cons_eq_ok_iff.mpr ⟨hnext, hrest⟩⟩

private theorem entry_nil_eq_ok_iff {e : Literal × Outline} :
    nil.entry room () e = .ok () ↔ e.1.key?.isSome ∧ e.2.skippedFault? = none := by
  rw [entry, bind_eq_ok_iff]
  simp only [enter, finish_eq_ok_iff, Option.isSome_iff_exists, Literal.key?_eq_some_iff]
  simp

/-- A record without fields needs readable keys and well-formed values. -/
theorem ofEntries_nil_eq_ok_iff {es : List (Literal × Outline)} :
    nil.ofEntries room es .closed = .ok () ↔
      ∀ e ∈ es, e.1.key?.isSome ∧ e.2.skippedFault? = none := by
  have hfold : es.foldlM (nil.entry room) () = .ok () ↔
      ∀ e ∈ es, e.1.key?.isSome ∧ e.2.skippedFault? = none := by
    induction es with
    | nil => simp [pure, Except.pure]
    | cons e es ih =>
      rw [List.foldlM_cons, List.forall_mem_cons, ← entry_nil_eq_ok_iff, ← ih]
      exact bind_eq_ok_iff.trans
        ⟨fun ⟨_, hentry, hrest⟩ => ⟨hentry, hrest⟩, fun ⟨hentry, hrest⟩ => ⟨(), hentry, hrest⟩⟩
  rw [ofEntries_closed_eq_ok_iff, ← hfold]
  exact ⟨fun ⟨_, hdraft, _⟩ => hdraft, fun hdraft => ⟨(), hdraft, rfl⟩⟩

/-! ### Records in either form -/

/-- What a record reads of its fields, given what is given to each name. -/
def Reads (room : Nat) (given : String → List Outline) : {α : Type} → Fields α → α → Prop
  | _, nil, _ => True
  | _, cons field rest, (a, b) =>
    field.Reads room (given field.name) a ∧ rest.Reads room given b

end Fields

/-- What a record with fields of the given names gives to a name: the values of the entries under
it, or the element at its place. -/
def Outline.given (names : List String) (name : String) : Outline → List Outline
  | .object es _ => valuesUnder name es
  | .array items _ => ((names.zip items).filter fun p => p.1 = name).map Prod.snd
  | .leaf _ => []

namespace Fields

/-- Fields read alike what is given to their names alike. -/
theorem Reads.congr {fs : Fields α} {given given' : String → List Outline} {a : α}
    (h : fs.Reads room given a) (hgiven : ∀ name ∈ fs.names, given name = given' name) :
    fs.Reads room given' a := by
  induction fs with
  | nil => trivial
  | cons field rest ih =>
    obtain ⟨a, b⟩ := a
    obtain ⟨hfield, hrest⟩ := h
    exact ⟨hgiven field.name List.mem_cons_self ▸ hfield,
      ih hrest fun name hname => hgiven name (.tail _ hname)⟩

/-- A record given as an object reads its fields from the entries under their names. -/
theorem reads_of_ofEntries {fs : Fields α} (hnames : fs.names.Nodup)
    {es : List (Literal × Outline)} {a : α} (h : fs.ofEntries room es .closed = .ok a) :
    fs.Reads room (valuesUnder · es) a := by
  induction fs generalizing es with
  | nil => trivial
  | cons field rest ih =>
    obtain ⟨a, b⟩ := a
    obtain ⟨hnew, hnames⟩ := List.nodup_cons.mp hnames
    obtain ⟨hfield, hrest⟩ := ofEntries_cons_eq_ok_iff.mp h
    refine ⟨hfield, (ih hnames hrest).congr fun name hname => ?_⟩
    exact valuesUnder_entriesBeside (ne_of_mem_of_not_mem hname hnew) es

private theorem reads_of_ofItems {fs : Fields α} (hnames : fs.names.Nodup) {ending : ArrayEnd}
    {lacking : Nat → Fault} {index : Nat} {items : List Outline} {a : α}
    (h : ofItems room ending lacking index fs items = .ok a) :
    fs.Reads room ((Outline.array items ending).given fs.names) a := by
  induction fs generalizing index items with
  | nil => trivial
  | cons field rest ih =>
    obtain ⟨a, b⟩ := a
    obtain ⟨hnew, hnames⟩ := List.nodup_cons.mp hnames
    cases items with
    | nil =>
      rw [ofItems] at h
      obtain ⟨_, -, hmissing⟩ := bind_eq_ok_iff.mp h
      split at hmissing
      next a' hvalue =>
        obtain ⟨b', hrest, heq⟩ := map_eq_ok_iff.mp hmissing
        cases heq
        refine ⟨?_, (ih hnames hrest).congr fun name hname => ?_⟩
        · simpa [Outline.given, Field.Reads] using hvalue
        · simp [Outline.given]
      next => cases hmissing
    | cons o items =>
      rw [ofItems] at h
      obtain ⟨a', hfield, hmore⟩ := bind_eq_ok_iff.mp h
      obtain ⟨b', hrest, heq⟩ := map_eq_ok_iff.mp hmore
      cases heq
      have hnone : (rest.names.zip items).filter (fun p => p.1 = field.name) = [] := by
        rw [List.filter_eq_nil_iff]
        intro p hp
        have hmem : p.1 ∈ rest.names := (List.of_mem_zip hp).1
        simpa using ne_of_mem_of_not_mem hmem hnew
      refine ⟨?_, (ih hnames hrest).congr fun name hname => ?_⟩
      · simpa [Outline.given, names, hnone, Field.Reads] using hfield
      · have hne : field.name ≠ name := (ne_of_mem_of_not_mem hname hnew).symm
        simp [Outline.given, names, hne]

/-- A record that is read reads its fields from what is given to their names. -/
theorem reads_of_decode {name : String} {fs : Fields α} (hnames : fs.names.Nodup) {o : Outline}
    {a : α} (h : (fs.codec name).decode (room + 1) o = .ok a) :
    fs.Reads room (o.given fs.names) a := by
  cases o with
  | leaf => cases h
  | array items ending => exact reads_of_ofItems hnames h
  | object es ending =>
    have hrecord : fs.ofEntries room es ending = .ok a := h
    obtain rfl := ending_eq_of_ofEntries hrecord
    exact reads_of_ofEntries hnames hrecord

end Fields

end ApiBindings.Json
