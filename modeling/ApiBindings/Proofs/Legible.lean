import ApiBindings.Proofs.Rendering
import ApiBindings.Proofs.Sample

/-!
# Expansions read back

The text of an expansion tells all about the expansion: every name and mark, every list and every
value. It is read from the left. Its first characters tell its sort, and it ends where the text
behind it goes on as an expansion does not.

This takes names and values without quotes, and tags that are words: these stand in the text
unescaped.
-/

namespace ApiBindings.Bindings

open Service
open Text (joinOr append_inj_of_class append_cons_inj_of_not_mem)

/-! ### Legible services -/

/-- A text without double quotes. -/
def Unquoted (s : String) : Prop := '"' ∉ s.toList

/-- A text of one letter or more. -/
def IsLetters (s : String) : Prop := s ≠ "" ∧ ∀ c ∈ s.toList, c.isAlpha

instance : DecidablePred Unquoted := fun s => inferInstanceAs (Decidable ('"' ∉ s.toList))

instance : DecidablePred IsLetters := fun s =>
  inferInstanceAs (Decidable (s ≠ "" ∧ ∀ c ∈ s.toList, c.isAlpha))

/-- A shape whose names and values hold no double quote and whose tag is a word of letters. -/
def LegibleShape (m : Metadata) : Shape → Prop
  | .struct s => ∀ member ∈ s.members.entries, Unquoted (displayName m member.1 member.2)
  | .string values => ∀ v ∈ values, Unquoted v
  | .other tag => IsLetters tag
  | _ => True

instance (m : Metadata) : DecidablePred (LegibleShape m)
  | .struct s =>
    inferInstanceAs (Decidable
      (∀ member ∈ s.members.entries, Unquoted (displayName m member.1 member.2)))
  | .string values => inferInstanceAs (Decidable (∀ v ∈ values, Unquoted v))
  | .other tag => inferInstanceAs (Decidable (IsLetters tag))
  | .list _ | .map | .integer | .long | .boolean => .isTrue trivial

/-- A service with legible shapes only. -/
def Legible (d : Description) : Prop := ∀ entry ∈ d.shapes.entries, LegibleShape d.metadata entry.2

instance : DecidablePred Legible := fun d =>
  inferInstanceAs (Decidable (∀ entry ∈ d.shapes.entries, LegibleShape d.metadata entry.2))

/-- A shape that is found in a legible service is legible. -/
theorem Legible.shape {d : Description} (hd : Legible d) {name : String} {shape : Shape}
    (hfound : d.shapes.find? name = some shape) : LegibleShape d.metadata shape :=
  hd (name, shape) (NameTable.mem_entries_of_find? hfound)

namespace Expansion

/-- The types that stand in place of a value. -/
def annotations : List String := ["::Dict\x7bString,String\x7d", "::String", "::Int", "::Bool"]

/-- An expansion whose text can be read back. -/
inductive Readable : Expansion → Prop
  | fixed {text : String} (h : text ∈ annotations) : Readable (word text)
  | letters {text : String} (h : IsLetters text) : Readable (word text)
  | values {texts : List String} (hne : texts ≠ []) (h : ∀ v ∈ texts, Unquoted v) :
      Readable (values texts)
  | list {element : Expansion} (h : Readable element) : Readable (list element)
  | struct {members : List (String × Bool × Expansion)} (hname : ∀ m ∈ members, Unquoted m.1)
      (h : ∀ m ∈ members, Readable m.2.2) : Readable (struct members)

end Expansion

open Expansion (Readable annotations)

private theorem isLetters_kind {d : Description} (hd : Legible d) {name : String} {shape : Shape}
    (hfound : d.shapes.find? name = some shape) : IsLetters shape.kind := by
  have hwords : ∀ kind ∈ ["structure", "list", "map", "string", "integer", "long", "boolean"],
      IsLetters kind := by
    simp [IsLetters]
  cases shape with
  | other tag => exact hd.shape hfound
  | _ => exact hwords _ (by simp [Shape.kind])

/-- The expansions of a legible service are readable. -/
theorem readable_of_expand {d : Description} (hd : Legible d) {chain : List String} {name : String}
    {e : Expansion} (h : (expand d chain name).outcome = .ok e) : e.Readable := by
  induction chain, name using descent_induction (d := d) generalizing e with
  | undeclared chain name hfound =>
    rw [expand_undeclared hfound] at h
    cases h
  | recurring chain name shape hfound hmem =>
    rw [expand_recurring hfound hmem] at h
    cases h
    exact .letters (isLetters_kind hd hfound)
  | new chain name shape hfound hnew ih =>
    rw [expand_new hfound hnew, outcome_expandShape_eq_ok_iff] at h
    obtain ⟨hshows, hchildren⟩ := h
    have hinside : ∀ child ∈ e.children, child.Readable := by
      intro child hchild
      obtain ⟨next, hnext, hexpand⟩ := exists_of_mem_right hchildren hchild
      exact ih next hnext hexpand
    cases shape with
    | struct s =>
      obtain ⟨members, rfl, hmembers⟩ := hshows
      refine .struct (fun m hm => ?_) (fun m hm => hinside _ (List.mem_map_of_mem hm))
      obtain ⟨member, hmember, hshown⟩ := List.mem_map.mp (hmembers ▸ List.mem_map_of_mem hm)
      rw [← congrArg Prod.fst hshown]
      exact hd.shape hfound member hmember
    | list element =>
      obtain ⟨child, rfl⟩ := hshows
      exact .list (hinside child List.mem_cons_self)
    | string texts =>
      change e = _ at hshows
      subst hshows
      cases texts with
      | nil => exact .fixed (by decide)
      | cons v rest => exact .values (by simp) fun v hv => hd.shape hfound v hv
    | other kind =>
      cases hshows
      exact .letters (hd.shape hfound)
    | map | integer | long | boolean =>
      cases hshows
      exact .fixed (by decide)

/-! ### Where a text ends -/

namespace Expansion

/-- What may stand behind the text of an expansion: nothing, the end of a structure, the next
member, or the rest of a list. -/
inductive MayFollow : List Char → Prop
  | nothing : MayFollow []
  | bracket (r : List Char) : MayFollow (']' :: r)
  | line (r : List Char) : MayFollow ('\n' :: r)
  | member (r : List Char) : MayFollow (',' :: '\n' :: r)
  | element (r : List Char) : MayFollow (',' :: ' ' :: '.' :: r)

private theorem mayFollow_of_endsEntry {r : List Char} (h : EndsEntry r) : MayFollow r := by
  cases h with
  | last => exact .line _
  | separated => exact .member _

private theorem quoted_append_inj {s t : String} (hs : Unquoted s) (ht : Unquoted t)
    {r r' : List Char} (h : s.toList ++ '"' :: r = t.toList ++ '"' :: r') : s = t ∧ r = r' := by
  obtain ⟨htext, hrest⟩ := append_cons_inj_of_not_mem hs ht h
  exact ⟨String.toList_inj.mp htext, hrest⟩

/-- The texts that stand for a value without parts. -/
def IsWord (text : String) : Prop := text ∈ annotations ∨ IsLetters text

private theorem word_append_inj {s t : String} (hs : IsWord s) (ht : IsWord t) {r r' : List Char}
    (hr : MayFollow r) (hr' : MayFollow r') (h : s.toList ++ r = t.toList ++ r') :
    s = t ∧ r = r' := by
  have hcolon : ∀ a ∈ annotations, ∃ rest, a.toList = ':' :: rest := by
    simp [annotations]
  have hinitial : ∀ a ∈ annotations, ∀ b ∈ annotations, a.toList <+: b.toList → a = b := by
    decide
  have hletter : ∀ {u : String}, IsLetters u → ∀ {x y}, u.toList ++ x ≠ ':' :: y := by
    intro u hu x y heq
    obtain ⟨c, rest, hc⟩ := List.exists_cons_of_ne_nil (mt String.toList_eq_nil_iff.mp hu.1)
    rw [hc] at heq
    obtain ⟨rfl, -⟩ := List.cons.inj heq
    cases hu.2 ':' (hc ▸ List.mem_cons_self)
  have hstop : ∀ {x}, MayFollow x → ∀ c ∈ x.head?, ¬c.isAlpha := by
    intro x hx c hc
    cases hx <;> cases hc <;> decide
  rcases hs with hs | hs <;> rcases ht with ht | ht
  · have hst : s = t := by
      rcases List.prefix_or_prefix_of_prefix (List.prefix_append s.toList r)
        (h ▸ List.prefix_append t.toList r') with hle | hle
      · exact hinitial s hs t ht hle
      · exact (hinitial t ht s hs hle).symm
    subst hst
    exact ⟨rfl, List.append_cancel_left h⟩
  · obtain ⟨rest, hrest⟩ := hcolon s hs
    rw [hrest] at h
    exact absurd h.symm (hletter ht)
  · obtain ⟨rest, hrest⟩ := hcolon t ht
    rw [hrest] at h
    exact absurd h (hletter hs)
  · obtain ⟨htext, hrest⟩ := append_inj_of_class hs.2 ht.2 (hstop hr) (hstop hr') h
    exact ⟨String.toList_inj.mp htext, hrest⟩

/-- What stands between a value and the values behind it. -/
def valueSeparator (rest : List String) : List Char :=
  if rest.isEmpty then [' ', 'o', 'r', ' '] else [',', ' ']

/-- What follows the first value of an enumeration. -/
def valuesTail : List String → List Char
  | [] => []
  | v :: rest => valueSeparator rest ++ '"' :: (v.toList ++ '"' :: valuesTail rest)

private theorem toList_layout_values (indent v : String) (rest : List String) :
    ((values (v :: rest)).layout indent).toList = '"' :: (v.toList ++ '"' :: valuesTail rest) := by
  rw [layout]
  induction rest generalizing v with
  | nil => simp [joinOr, valuesTail]
  | cons w rest ih =>
    cases rest with
    | nil => simp [joinOr, valuesTail, valueSeparator]
    | cons u rest =>
      have htail := ih w
      simp only [List.map_cons] at htail
      rw [List.map_cons, List.map_cons, List.map_cons, Text.joinOr_cons_cons_cons,
        String.toList_append, String.toList_append, htail]
      simp [valuesTail, valueSeparator]

private theorem valuesTail_append_inj {vs ws : List String} (hvs : ∀ v ∈ vs, Unquoted v)
    (hws : ∀ w ∈ ws, Unquoted w) {r r' : List Char} (hr : MayFollow r) (hr' : MayFollow r')
    (h : valuesTail vs ++ r = valuesTail ws ++ r') : vs = ws ∧ r = r' := by
  have hstop : ∀ {r}, MayFollow r → ∀ v rest x, r ≠ valuesTail (v :: rest) ++ x := by
    intro r hr v rest x
    cases hr <;> simp only [valuesTail, valueSeparator] <;> split <;> simp
  induction vs generalizing ws with
  | nil =>
    cases ws with
    | nil => exact ⟨rfl, h⟩
    | cons w ws => exact absurd h (hstop hr w ws r')
  | cons v vs ih =>
    cases ws with
    | nil => exact absurd h.symm (hstop hr' v vs r)
    | cons w ws =>
      have hvalue : v.toList ++ '"' :: (valuesTail vs ++ r) =
          w.toList ++ '"' :: (valuesTail ws ++ r') := by
        simp only [valuesTail, valueSeparator] at h
        split at h <;> split at h
        · simpa using h
        · simp at h
        · simp at h
        · simpa using h
      obtain ⟨rfl, htail⟩ := quoted_append_inj (hvs v (by simp)) (hws w (by simp)) hvalue
      obtain ⟨rfl, hrest⟩ := ih (fun v hv => hvs v (.tail _ hv)) (fun w hw => hws w (.tail _ hw))
        htail
      exact ⟨rfl, hrest⟩

/-! ### Where an expansion starts -/

/-- The characters that the text of an expansion of the given sort may start with. -/
def Opens (c : Char) : Expansion → Prop
  | word _ => c.isAlpha ∨ c = ':'
  | values _ => c = '"'
  | list _ | struct _ => c = '['

/-- The text of a member of a structure that is laid out at the given indent. -/
def entryText (indent : String) (m : String × Bool × Expansion) : String :=
  memberText m.1 m.2.1 (m.2.2.layout (indent ++ indentUnit))

/-- A structure has its members in brackets. -/
theorem layout_struct (indent : String) (members : List (String × Bool × Expansion)) :
    (struct members).layout indent = bracketed indent (members.map (entryText indent)) := by
  rw [layout, memberTexts_eq_map]
  rfl

/-- What stands behind the bracket of a structure: its end, the first of its names, or a line
break. -/
def afterBracket : List (String × Bool × Expansion) → Char
  | [] => ']'
  | [_] => '"'
  | _ => '\n'

private theorem exists_toList_struct (indent : String)
    (members : List (String × Bool × Expansion)) :
    ∃ rest, ((struct members).layout indent).toList = '[' :: afterBracket members :: rest := by
  rw [layout_struct]
  match members with
  | [] => exact ⟨[], by simp [bracketed, afterBracket]⟩
  | [m] => simp [bracketed, afterBracket, entryText, memberText]
  | m :: n :: rest => simp [bracketed, afterBracket]

private theorem exists_layout_cons {e : Expansion} (h : e.Readable) (indent : String) :
    ∃ c rest, (e.layout indent).toList = c :: rest ∧ Opens c e := by
  cases h with
  | @fixed text h =>
    have hcolon : ∀ a ∈ annotations, ∃ rest, a.toList = ':' :: rest := by
      simp [annotations]
    obtain ⟨rest, hrest⟩ := hcolon text h
    exact ⟨':', rest, hrest, .inr rfl⟩
  | @letters text h =>
    obtain ⟨c, rest, hc⟩ := List.exists_cons_of_ne_nil (mt String.toList_eq_nil_iff.mp h.1)
    exact ⟨c, rest, hc, .inl (h.2 c (hc ▸ List.mem_cons_self))⟩
  | @values texts hne h =>
    obtain ⟨v, rest, rfl⟩ := List.exists_cons_of_ne_nil hne
    exact ⟨'"', _, toList_layout_values indent v rest, rfl⟩
  | @list element h => exact ⟨'[', (element.layout indent).toList ++ ", ...]".toList, by
      simp [layout], rfl⟩
  | struct =>
    obtain ⟨rest, hrest⟩ := exists_toList_struct indent _
    exact ⟨'[', _, hrest, rfl⟩

/-- Whether the text of an expansion is cut off from what may follow it. -/
def CutsOff (e : Expansion) : Prop :=
  ∀ indent {e'}, Readable e' → ∀ {r r'}, MayFollow r → MayFollow r' →
    (e.layout indent).toList ++ r = (e'.layout indent).toList ++ r' → e = e' ∧ r = r'

/-- The mark in front of a value. -/
def markText (required : Bool) : String := if required then requiredMark else ""

private theorem toList_entryText (indent name : String) (required : Bool) (value : Expansion) :
    (entryText indent (name, required, value)).toList =
      '"' :: (name.toList ++ '"' :: (" => ".toList ++ ((markText required).toList ++
        (value.layout (indent ++ indentUnit)).toList))) := by
  simp [entryText, memberText, markText]

private theorem entryText_append_inj {indent : String} {m m' : String × Bool × Expansion}
    (hname : Unquoted m.1) (hname' : Unquoted m'.1) (hvalue : CutsOff m.2.2)
    (hread : Readable m.2.2) (hread' : Readable m'.2.2) {r r' : List Char} (hr : MayFollow r)
    (hr' : MayFollow r')
    (h : (entryText indent m).toList ++ r = (entryText indent m').toList ++ r') :
    m = m' ∧ r = r' := by
  obtain ⟨name, required, e⟩ := m
  obtain ⟨name', required', e'⟩ := m'
  change Unquoted name at hname
  change Unquoted name' at hname'
  simp only [toList_entryText, List.cons_append, List.append_assoc, List.cons.injEq, true_and] at h
  obtain ⟨rfl, harrow⟩ := quoted_append_inj hname hname' h
  have hmarked := List.append_cancel_left harrow
  -- no value starts the way the mark does
  have hmark : ∀ {e : Expansion}, e.Readable → ∀ {x y},
      (e.layout (indent ++ indentUnit)).toList ++ x ≠ requiredMark.toList ++ y := by
    intro e he x y heq
    obtain ⟨c, rest, hc, hopens⟩ := exists_layout_cons he (indent ++ indentUnit)
    have hhead : requiredMark.toList = '<' :: "required> ".toList := by simp [requiredMark]
    rw [hc, hhead] at heq
    obtain ⟨rfl, -⟩ := List.cons.inj heq
    have hletter : Char.isAlpha '<' = false := by decide
    cases e <;> simp [Opens, hletter] at hopens
  cases required <;> cases required' <;> simp only [markText] at hmarked
  · obtain ⟨rfl, hrest⟩ := hvalue _ hread' hr hr' (by simpa using hmarked)
    exact ⟨rfl, hrest⟩
  · exact absurd (by simpa using hmarked) (hmark hread)
  · exact absurd (by simpa using hmarked.symm) (hmark hread')
  · obtain ⟨rfl, hrest⟩ := hvalue _ hread' hr hr' (by simpa using hmarked)
    exact ⟨rfl, hrest⟩

private theorem layout_struct_several (indent : String) (m n : String × Bool × Expansion)
    (rest : List (String × Bool × Expansion)) :
    (struct (m :: n :: rest)).layout indent =
      block (outdent indent) ((m :: n :: rest).map fun m => indent ++ entryText indent m) := by
  have hlines : ∀ (rest : List (String × Bool × Expansion)) (m : String × Bool × Expansion),
      indent ++ (",\n" ++ indent).intercalate ((m :: rest).map (entryText indent)) =
        ",\n".intercalate ((m :: rest).map fun m => indent ++ entryText indent m) := by
    intro rest
    induction rest with
    | nil => intro m; simp
    | cons n rest ih =>
      intro m
      have htail := ih n
      simp only [List.map_cons] at htail
      rw [List.map_cons, List.map_cons, String.intercalate_cons_cons, List.map_cons,
        List.map_cons, String.intercalate_cons_cons, ← htail]
      simp only [String.append_assoc]
  have hblock := hlines (n :: rest) m
  simp only [List.map_cons] at hblock
  simp only [layout_struct, List.map_cons, bracketed, block, ← hblock, String.append_assoc]

/-- A structure is cut off from what may follow it, if the values in it are. -/
theorem struct_append_inj {indent : String} {members members' : List (String × Bool × Expansion)}
    (hread : Readable (struct members)) (hread' : Readable (struct members'))
    (hvalues : ∀ m ∈ members, CutsOff m.2.2) {r r' : List Char}
    (h : ((struct members).layout indent).toList ++ r =
      ((struct members').layout indent).toList ++ r') : members = members' ∧ r = r' := by
  obtain - | - | - | - | ⟨hnames, hinner⟩ := hread
  obtain - | - | - | - | ⟨hnames', hinner'⟩ := hread'
  have hentry : ∀ m ∈ members, ∀ m' ∈ members', ∀ {r r'}, MayFollow r → MayFollow r' →
      (entryText indent m).toList ++ r = (entryText indent m').toList ++ r' →
      m = m' ∧ r = r' := fun m hm m' hm' _ _ hr hr' =>
    entryText_append_inj (hnames m hm) (hnames' m' hm') (hvalues m hm) (hinner m hm)
      (hinner' m' hm') hr hr'
  have hafter : afterBracket members = afterBracket members' := by
    obtain ⟨rest, hrest⟩ := exists_toList_struct indent members
    obtain ⟨rest', hrest'⟩ := exists_toList_struct indent members'
    rw [hrest, hrest'] at h
    exact (List.cons.inj (List.cons.inj h).2).1
  rcases members with _ | ⟨m, _ | ⟨n, rest⟩⟩ <;>
    rcases members' with _ | ⟨m', _ | ⟨n', rest'⟩⟩ <;>
    simp only [afterBracket, Char.reduceEq] at hafter
  · exact ⟨rfl, List.append_cancel_left h⟩
  · have hline : (entryText indent m).toList ++ ']' :: r =
        (entryText indent m').toList ++ ']' :: r' := by
      simpa [layout_struct, bracketed] using h
    obtain ⟨rfl, hrest⟩ := hentry m (by simp) m' (by simp) (.bracket r) (.bracket r') hline
    exact ⟨rfl, (List.cons.inj hrest).2⟩
  · rw [layout_struct_several, layout_struct_several] at h
    have hlines := block_append_inj (g := id) (fun m hm m' hm' _ _ hr hr' hline => ?_) h
    · rwa [List.map_id, List.map_id] at hlines
    · rw [String.toList_append, String.toList_append, List.append_assoc, List.append_assoc]
        at hline
      exact hentry m hm m' hm' (mayFollow_of_endsEntry hr) (mayFollow_of_endsEntry hr')
        (List.append_cancel_left hline)

/-- No expansion starts with a closing bracket or a line break, and only values with a quote. -/
theorem Opens.cases {c : Char} {e : Expansion} (h : Opens c e) :
    c ≠ ']' ∧ c ≠ '\n' ∧ (c = '"' → ∃ texts, e = values texts) := by
  have hletter : ∀ d ∈ [']', '\n', '"'], ¬(d.isAlpha ∨ d = ':') := by simp
  cases e with
  | word text =>
    refine ⟨?_, ?_, ?_⟩ <;> rintro rfl <;> exact absurd h (hletter _ (by simp))
  | values texts =>
    cases h
    exact ⟨by decide, by decide, fun _ => ⟨texts, rfl⟩⟩
  | list | struct =>
    cases h
    exact ⟨by decide, by decide, fun h => by cases h⟩

private theorem values_append_ne_member (indent : String) {name : String} {texts : List String}
    (hread : Readable (values texts)) (hname : Unquoted name) (r r' : List Char) :
    ((values texts).layout indent).toList ++ (", ...]".toList ++ r) ≠
      '"' :: (name.toList ++ '"' :: (" => ".toList ++ r')) := by
  intro h
  cases hread with
  | values hne hunquoted =>
    obtain ⟨v, texts, rfl⟩ := List.exists_cons_of_ne_nil hne
    rw [toList_layout_values] at h
    simp only [List.cons_append, List.append_assoc, List.cons.injEq, true_and] at h
    have htail := (quoted_append_inj (hunquoted v List.mem_cons_self) hname h).2
    cases texts with
    | nil => simp [valuesTail] at htail
    | cons w texts =>
      simp only [valuesTail, valueSeparator] at htail
      split at htail <;> simp at htail

private theorem list_append_ne_struct {indent : String} {element : Expansion}
    {members : List (String × Bool × Expansion)} (hread : Readable element)
    (hnames : ∀ m ∈ members, Unquoted m.1) (r r' : List Char) :
    ((list element).layout indent).toList ++ r ≠ ((struct members).layout indent).toList ++ r' := by
  intro h
  have hlist : ((list element).layout indent).toList =
      '[' :: ((element.layout indent).toList ++ ", ...]".toList) := by
    simp [layout]
  obtain ⟨c, rest, hc, hopens⟩ := exists_layout_cons hread indent
  obtain ⟨rest', hrest'⟩ := exists_toList_struct indent members
  have hafter : c = afterBracket members := by
    rw [hlist, hc, hrest'] at h
    exact (List.cons.inj (List.cons.inj h).2).1
  obtain ⟨hclosed, hbroken, hquote⟩ := hopens.cases
  rcases members with _ | ⟨⟨name, required, value⟩, _ | ⟨n, rest⟩⟩
  · exact hclosed hafter
  · obtain ⟨texts, rfl⟩ := hquote hafter
    refine values_append_ne_member indent hread (hnames _ List.mem_cons_self) r
      ((markText required).toList ++ ((value.layout (indent ++ indentUnit)).toList ++ ']' :: r'))
      ?_
    rw [hlist, layout_struct] at h
    simpa [bracketed, toList_entryText] using h
  · exact hbroken hafter

private theorem exists_opens {e e' : Expansion} (h : e.Readable) (h' : e'.Readable)
    {indent : String} {r r' : List Char}
    (htext : (e.layout indent).toList ++ r = (e'.layout indent).toList ++ r') :
    ∃ c, Opens c e ∧ Opens c e' := by
  obtain ⟨c, rest, hc, hopens⟩ := exists_layout_cons h indent
  obtain ⟨d, rest', hd, hopens'⟩ := exists_layout_cons h' indent
  rw [hc, hd] at htext
  obtain ⟨rfl, -⟩ := List.cons.inj htext
  exact ⟨c, hopens, hopens'⟩

private theorem not_opens_word {c : Char} {text : String} (h : Opens c (word text)) :
    c ≠ '"' ∧ c ≠ '[' := by
  constructor <;> rintro rfl <;> rcases h with h | h <;> cases h

private theorem cutsOff_word {text : String} (hread : Readable (word text)) (htext : IsWord text) :
    CutsOff (word text) := by
  intro indent e' hread' r r' hr hr' h
  obtain ⟨c, hopens, hopens'⟩ := exists_opens hread hread' h
  have hword : ∀ {text'}, IsWord text' → e' = word text' → word text = e' ∧ r = r' := by
    rintro text' htext' rfl
    obtain ⟨rfl, hrest⟩ := word_append_inj htext htext' hr hr' h
    exact ⟨rfl, hrest⟩
  cases hread' with
  | fixed htext' => exact hword (.inl htext') rfl
  | letters htext' => exact hword (.inr htext') rfl
  | values => exact absurd hopens' (not_opens_word hopens).1
  | list | struct => exact absurd hopens' (not_opens_word hopens).2

/-- The text of a readable expansion is cut off from what may follow it. -/
theorem Readable.cutsOff {e : Expansion} (h : e.Readable) : e.CutsOff := by
  induction h with
  | fixed h => exact cutsOff_word (.fixed h) (.inl h)
  | letters h => exact cutsOff_word (.letters h) (.inr h)
  | @values texts hne hunquoted =>
    intro indent e' hread' r r' hr hr' h
    obtain ⟨c, hopens, hopens'⟩ := exists_opens (.values hne hunquoted) hread' h
    cases hread' with
    | @values texts' hne' hunquoted' =>
      obtain ⟨v, rest, rfl⟩ := List.exists_cons_of_ne_nil hne
      obtain ⟨v', rest', rfl⟩ := List.exists_cons_of_ne_nil hne'
      rw [toList_layout_values, toList_layout_values] at h
      simp only [List.cons_append, List.append_assoc, List.cons.injEq, true_and] at h
      obtain ⟨rfl, htail⟩ := quoted_append_inj (hunquoted v (by simp)) (hunquoted' v' (by simp)) h
      obtain ⟨rfl, hrest⟩ := valuesTail_append_inj (fun v hv => hunquoted v (.tail _ hv))
        (fun v hv => hunquoted' v (.tail _ hv)) hr hr' htail
      exact ⟨rfl, hrest⟩
    | fixed | letters => exact absurd hopens (not_opens_word hopens').1
    | list | struct =>
      cases hopens
      cases hopens'
  | @list element hread ih =>
    intro indent e' hread' r r' hr hr' h
    obtain ⟨c, hopens, hopens'⟩ := exists_opens (.list hread) hread' h
    cases hread' with
    | @list element' hread' =>
      have hinner : (element.layout indent).toList ++ ',' :: ' ' :: '.' :: ("..]".toList ++ r) =
          (element'.layout indent).toList ++ ',' :: ' ' :: '.' :: ("..]".toList ++ r') := by
        simpa [layout] using h
      obtain ⟨rfl, hrest⟩ := ih indent hread' (.element _) (.element _) hinner
      exact ⟨rfl, by simpa using hrest⟩
    | struct hnames' _ => exact absurd h (list_append_ne_struct hread hnames' r r')
    | fixed | letters => exact absurd hopens (not_opens_word hopens').2
    | values =>
      cases hopens
      cases hopens'
  | @struct members hnames hread ih =>
    intro indent e' hread' r r' hr hr' h
    obtain ⟨c, hopens, hopens'⟩ := exists_opens (.struct hnames hread) hread' h
    cases hread' with
    | struct hnames' hinner' =>
      obtain ⟨rfl, hrest⟩ := struct_append_inj (.struct hnames hread) (.struct hnames' hinner') ih h
      exact ⟨rfl, hrest⟩
    | list hread' => exact absurd h.symm (list_append_ne_struct hread' hnames r' r)
    | fixed | letters => exact absurd hopens (not_opens_word hopens').2
    | values =>
      cases hopens
      cases hopens'

/-- Readable expansions with the same text are equal. -/
theorem eq_of_layout_eq {e e' : Expansion} (h : e.Readable) (h' : e'.Readable) {indent : String}
    (htext : e.layout indent = e'.layout indent) : e = e' :=
  (h.cutsOff indent h' .nothing .nothing (by rw [htext])).1

end Expansion

/-! ### Renderings read back -/

/-- An indent of several levels. -/
def levels (n : Nat) : String := String.join (List.replicate n indentUnit)

/-- Nested rendering is faithful. Where two legible services are rendered below an indent of one
level or more, the texts are equal if and only if the expansions are: names, marks, lists and values
can be told from the text. -/
theorem render_eq_iff_expand_eq {d d' : Description} (hd : Legible d) (hd' : Legible d')
    {docs docs' : Formatter} {k : Nat} (hk : 1 ≤ k)
    {chain chain' : List String} {name name' text text' : String}
    (h : (render d docs (levels k) chain name).outcome = .ok text)
    (h' : (render d' docs' (levels k) chain' name').outcome = .ok text') :
    ∃ e e', (expand d chain name).outcome = .ok e ∧ (expand d' chain' name').outcome = .ok e' ∧
      (text = text' ↔ e = e') := by
  have hindent : (levels k).isEmpty = false := by
    obtain ⟨n, rfl⟩ := Nat.exists_eq_add_of_le' hk
    simp [levels, List.replicate_succ, String.join_cons, indentUnit]
  rw [render, hindent] at h h'
  obtain ⟨e, he, rfl⟩ := (Report.outcome_map_eq_ok_iff _ _ _).mp h
  obtain ⟨e', he', rfl⟩ := (Report.outcome_map_eq_ok_iff _ _ _).mp h'
  refine ⟨e, e', he, he', ?_, ?_⟩
  · exact Expansion.eq_of_layout_eq (readable_of_expand hd he) (readable_of_expand hd' he')
  · rintro rfl
    rfl

/-- Palettes of colours, in which given members are required. -/
def paletteDescription (required : List String) : Description :=
  ((Description.ofMetadata (.ofRequired .json "palette" "1")).putShape "Palette"
    (.struct ⟨(NameTable.empty.put "Accents" (.ofShape "Colours")).put "Base" (.ofShape "Colour"),
      required, none⟩)).putShape "Colours" (.list (.ofShape "Colour")) |>.putShape "Colour"
        (.string ["red", "green", "blue"])

/-- A mark on another member makes another expansion, and it shows. -/
theorem render_palettes_differ :
    Legible (paletteDescription ["Base"]) ∧ Legible (paletteDescription ["Accents"]) ∧
      (render (paletteDescription ["Base"]) id (levels 2) [] "Palette").outcome =
        .ok "[\n        \"Accents\" => [\"red\", \"green\" or \"blue\", ...],\n        \"Base\" => <required> \"red\", \"green\" or \"blue\"\n    ]" ∧
      (render (paletteDescription ["Accents"]) id (levels 2) [] "Palette").outcome =
        .ok "[\n        \"Accents\" => <required> [\"red\", \"green\" or \"blue\", ...],\n        \"Base\" => \"red\", \"green\" or \"blue\"\n    ]" ∧
      ∃ e e', (expand (paletteDescription ["Base"]) [] "Palette").outcome = .ok e ∧
        (expand (paletteDescription ["Accents"]) [] "Palette").outcome = .ok e' ∧ e ≠ e' := by
  have hbase : Legible (paletteDescription ["Base"]) := by decide +kernel
  have haccents : Legible (paletteDescription ["Accents"]) := by decide +kernel
  have htext : (render (paletteDescription ["Base"]) id (levels 2) [] "Palette").outcome =
      .ok "[\n        \"Accents\" => [\"red\", \"green\" or \"blue\", ...],\n        \"Base\" => <required> \"red\", \"green\" or \"blue\"\n    ]" := by
    with_unfolding_all rfl
  have htext' : (render (paletteDescription ["Accents"]) id (levels 2) [] "Palette").outcome =
      .ok "[\n        \"Accents\" => <required> [\"red\", \"green\" or \"blue\", ...],\n        \"Base\" => \"red\", \"green\" or \"blue\"\n    ]" := by
    with_unfolding_all rfl
  obtain ⟨e, e', he, he', hiff⟩ :=
    render_eq_iff_expand_eq hbase haccents (by decide : 1 ≤ 2) htext htext'
  exact ⟨hbase, haccents, htext, htext', e, e', he, he', fun h => absurd (hiff.mpr h) (by decide)⟩

end ApiBindings.Bindings
