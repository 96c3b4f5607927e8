import ApiBindings.Proofs.Delimiter
import ApiBindings.Text.Placeholder
import Mathlib.Data.List.DropRight

/-!
# Templates of request URIs

A request URI read as a template: literal text and names between braces in turn. A name ends at the
next closing brace whatever else is in it, and where no closing brace is left, an opening one starts
the rest of the URI. Every text is the text of exactly one template, so the path parameters of a
URI can be told from its template.
-/

namespace ApiBindings.Text

/-! ### The search for names -/

/-- The next name in braces and what stands behind its closing brace, if both braces are there. -/
def nextName? (uri : List Char) : Option (List Char × List Char) :=
  match uri.dropWhile (· ≠ '{') with
  | [] => none
  | _ :: behind =>
    match behind.dropWhile (· ≠ '}') with
    | [] => none
    | _ :: rest => some (behind.takeWhile (· ≠ '}'), rest)

private theorem split_dropWhile_ne (c : Char) (s : List Char) :
    (s.dropWhile (· ≠ c) = [] ∧ c ∉ s) ∨
      ∃ rest, s.dropWhile (· ≠ c) = c :: rest ∧ c ∉ s.takeWhile (· ≠ c) ∧
        s = s.takeWhile (· ≠ c) ++ c :: rest := by
  have hbefore : c ∉ s.takeWhile (· ≠ c) := by
    intro hmem
    simpa using List.mem_takeWhile_imp hmem
  have hwhole := List.takeWhile_append_dropWhile (p := (· ≠ c)) (l := s)
  cases hrest : s.dropWhile (· ≠ c) with
  | nil =>
    rw [hrest, List.append_nil] at hwhole
    exact .inl ⟨rfl, hwhole ▸ hbefore⟩
  | cons x rest =>
    have hx : x = c := by
      have hhead := List.head?_dropWhile_not (· ≠ c) s
      rw [hrest] at hhead
      simpa using hhead
    subst hx
    rw [hrest] at hwhole
    exact .inr ⟨rest, rfl, hbefore, hwhole.symm⟩

private theorem exists_of_nextName?_eq_some {uri name rest : List Char}
    (h : nextName? uri = some (name, rest)) :
    ∃ lead, uri = lead ++ '{' :: (name ++ '}' :: rest) ∧ '{' ∉ lead ∧ '}' ∉ name := by
  rw [nextName?] at h
  obtain ⟨hnone, -⟩ | ⟨behind, hbehind, hlead, huri⟩ := split_dropWhile_ne '{' uri
  · rw [hnone] at h
    cases h
  · simp only [hbehind] at h
    obtain ⟨hnone, -⟩ | ⟨rest', hrest, hname, hsplit⟩ := split_dropWhile_ne '}' behind
    · simp only [hnone] at h
      cases h
    · simp only [hrest] at h
      cases h
      exact ⟨_, by rw [← hsplit, ← huri], hlead, hname⟩

private theorem exists_of_nextName?_eq_none {uri : List Char} (h : nextName? uri = none) :
    ∃ lead tail, uri = lead ++ tail ∧ '{' ∉ lead ∧ (∀ c ∈ tail.head?, c = '{') ∧ '}' ∉ tail := by
  rw [nextName?] at h
  obtain ⟨-, hlead⟩ | ⟨behind, hbehind, hlead, huri⟩ := split_dropWhile_ne '{' uri
  · exact ⟨uri, [], by simp, hlead, by simp, by simp⟩
  · simp only [hbehind] at h
    obtain ⟨-, htail⟩ | ⟨rest, hrest, -, -⟩ := split_dropWhile_ne '}' behind
    · exact ⟨_, '{' :: behind, huri, hlead, by simp, by simpa using htail⟩
    · simp only [hrest] at h
      cases h

private theorem length_lt_of_nextName? {uri name rest : List Char}
    (h : nextName? uri = some (name, rest)) : rest.length < uri.length := by
  obtain ⟨lead, rfl, -, -⟩ := exists_of_nextName?_eq_some h
  simp only [List.length_append, List.length_cons]
  omega

/-- The names in braces, found one after the other. -/
def foundNames (uri : List Char) : List (List Char) :=
  match _h : nextName? uri with
  | none => []
  | some (name, rest) => name :: foundNames rest
termination_by uri.length
decreasing_by exact length_lt_of_nextName? _h

/-! ### Templates -/

/-- A template: literal text without an opening brace in front of each name, and behind the last
name another such text and a tail, which is empty or starts with an opening brace that is never
closed. No name holds a closing brace. -/
inductive Template where
  | ended (lead tail : List Char) (lead_plain : '{' ∉ lead) (tail_opens : ∀ c ∈ tail.head?, c = '{')
      (tail_unclosed : '}' ∉ tail)
  | group (lead name : List Char) (lead_plain : '{' ∉ lead) (name_plain : '}' ∉ name)
      (rest : Template)

namespace Template

/-- The characters of a template's text. -/
def chars : Template → List Char
  | ended lead tail _ _ _ => lead ++ tail
  | group lead name _ _ rest => lead ++ '{' :: (name ++ '}' :: rest.chars)

/-- The text of a template. -/
def text (t : Template) : String := String.ofList t.chars

/-- The names of a template in order. -/
def names : Template → List (List Char)
  | ended _ _ _ _ _ => []
  | group _ name _ _ rest => name :: rest.names

/-- What stands behind the last literal of a template. -/
def tail : Template → List Char
  | ended _ tail _ _ _ => tail
  | group _ _ _ _ rest => rest.tail

/-- The names of a template without the plus signs at their ends, if anything is left of them. -/
def parameters (t : Template) : List String :=
  ((t.names.map (List.rdropWhile (· == '+'))).filter (· ≠ [])).map String.ofList

private theorem lead_append_inj {lead lead' r r' : List Char} (hlead : '{' ∉ lead)
    (hlead' : '{' ∉ lead') (hr : ∀ c ∈ r.head?, c = '{') (hr' : ∀ c ∈ r'.head?, c = '{')
    (h : lead ++ r = lead' ++ r') : lead = lead' ∧ r = r' :=
  append_inj_of_class (p := (· ≠ '{')) (fun _ hc hbrace => hlead (hbrace ▸ hc))
    (fun _ hc hbrace => hlead' (hbrace ▸ hc)) (fun c hc hne => hne (hr c hc))
    (fun c hc hne => hne (hr' c hc)) h

/-- Templates with the same text are the same. -/
theorem chars_injective : Function.Injective chars := by
  intro t
  induction t with
  | ended lead tail lead_plain tail_opens tail_unclosed =>
    intro t' h
    cases t' with
    | ended lead' tail' lead_plain' tail_opens' _ =>
      obtain ⟨rfl, rfl⟩ := lead_append_inj lead_plain lead_plain' tail_opens tail_opens' h
      rfl
    | group lead' name' lead_plain' _ rest' =>
      obtain ⟨-, rfl⟩ := lead_append_inj lead_plain lead_plain' tail_opens (by simp) h
      exact absurd (by simp) tail_unclosed
  | group lead name lead_plain name_plain rest ih =>
    intro t' h
    cases t' with
    | ended lead' tail' lead_plain' tail_opens' tail_unclosed' =>
      obtain ⟨-, rfl⟩ := lead_append_inj lead_plain lead_plain' (by simp) tail_opens' h
      exact absurd (by simp) tail_unclosed'
    | group lead' name' lead_plain' name_plain' rest' =>
      obtain ⟨rfl, hbehind⟩ := append_cons_inj_of_not_mem lead_plain lead_plain' h
      obtain ⟨rfl, hrest⟩ := append_cons_inj_of_not_mem name_plain name_plain' hbehind
      obtain rfl := ih hrest
      rfl

/-- Every text is that of a template, whose names are those that are found in it. -/
theorem exists_chars_eq (uri : List Char) :
    ∃ t : Template, t.chars = uri ∧ t.names = foundNames uri := by
  induction uri using foundNames.induct with
  | case1 uri hnone =>
    obtain ⟨lead, tail, rfl, lead_plain, tail_opens, tail_unclosed⟩ :=
      exists_of_nextName?_eq_none hnone
    refine ⟨.ended lead tail lead_plain tail_opens tail_unclosed, rfl, ?_⟩
    rw [foundNames]
    split
    · rfl
    · next h => rw [hnone] at h; cases h
  | case2 uri name rest hsome ih =>
    obtain ⟨t, rfl, hnames⟩ := ih
    obtain ⟨lead, rfl, lead_plain, name_plain⟩ := exists_of_nextName?_eq_some hsome
    refine ⟨.group lead name lead_plain name_plain t, rfl, ?_⟩
    rw [foundNames]
    split
    · next h => rw [hsome] at h; cases h
    · next h =>
      rw [hsome] at h
      cases h
      rw [names, hnames]

end Template

/-! ### Path parameters -/

private theorem bracedFrom_some_append {read name : List Char} (h : '}' ∉ name) (rest : List Char) :
    bracedFrom (some read) (name ++ '}' :: rest) = (read.reverse ++ name) :: braced rest := by
  induction name generalizing read with
  | nil => simp [bracedFrom, braced]
  | cons c name ih =>
    simp only [List.mem_cons, not_or] at h
    rw [List.cons_append, bracedFrom, if_neg (Ne.symm h.1), ih h.2]
    simp

private theorem bracedFrom_some_of_not_mem {read tail : List Char} (h : '}' ∉ tail) :
    bracedFrom (some read) tail = [] := by
  induction tail generalizing read with
  | nil => rfl
  | cons c tail ih =>
    simp only [List.mem_cons, not_or] at h
    rw [bracedFrom, if_neg (Ne.symm h.1), ih h.2]

namespace Template

private theorem braced_chars_append {t : Template} (h : t.tail = []) (rest : List Char) :
    braced (t.chars ++ rest) = t.names ++ braced rest := by
  induction t with
  | ended lead tail lead_plain _ _ =>
    obtain rfl : tail = [] := h
    rw [chars, List.append_nil, braced_append_of_not_mem _ lead_plain, names, List.nil_append]
  | group lead name lead_plain name_plain t ih =>
    rw [chars, List.append_assoc, braced_append_of_not_mem _ lead_plain, List.cons_append,
      List.append_assoc, List.cons_append, braced, bracedFrom, if_pos rfl,
      bracedFrom_some_append name_plain, ih h]
    rfl

private theorem braced_chars (t : Template) : braced t.chars = t.names := by
  induction t with
  | ended lead tail lead_plain tail_opens tail_unclosed =>
    rw [chars, braced_append_of_not_mem _ lead_plain]
    cases tail with
    | nil => rfl
    | cons c tail =>
      obtain rfl := tail_opens c rfl
      rw [braced, bracedFrom, if_pos rfl, bracedFrom_some_of_not_mem]
      · rfl
      · exact fun hmem => tail_unclosed (.tail _ hmem)
  | group lead name lead_plain name_plain t ih =>
    rw [chars, braced_append_of_not_mem _ lead_plain, braced, bracedFrom, if_pos rfl,
      bracedFrom_some_append name_plain, ih]
    rfl

/-- The path parameters of a template's text are its parameters. -/
theorem pathParameters_text (t : Template) : pathParameters t.text = t.parameters := by
  rw [pathParameters, text, String.toList_ofList, braced_chars, parameters]
  induction t.names with
  | nil => rfl
  | cons name names ih =>
    have hstripped : dropTail (· == '+') name = name.rdropWhile (· == '+') := rfl
    rw [List.map_cons, List.map_cons, hstripped, List.filterMap_cons, List.filter_cons]
    cases name.rdropWhile (· == '+') <;> simpa using ih

/-- There is a path parameter if and only if some name has more than the plus signs at its end. -/
theorem hasPathParameters_text_iff (t : Template) :
    hasPathParameters t.text = true ↔ ∃ name ∈ t.names, ∃ c ∈ name, c ≠ '+' := by
  rw [hasPathParameters, pathParameters_text, parameters]
  simp [List.rdropWhile_eq_nil_iff]

/-- Behind a template without a tail, path parameters are read as if nothing stood in front of
them. -/
theorem pathParameters_text_append {t : Template} (h : t.tail = []) (more : String) :
    pathParameters (t.text ++ more) = t.parameters ++ pathParameters more := by
  have hbraced : braced (t.text ++ more).toList = braced t.text.toList ++ braced more.toList := by
    rw [String.toList_append, text, String.toList_ofList, braced_chars_append h, braced_chars]
  rw [← pathParameters_text, pathParameters, hbraced, List.map_append, List.filterMap_append]
  rfl

end Template

/-- A request URI is the text of exactly one template, and its path parameters are the names of the
template without the plus signs at their ends, so far as anything is left of them. The search for
names comes to an end with the last of them. There is a path parameter if and only if some name has
more than plus signs. Behind a URI without a tail, more text has the parameters that it has by
itself. -/
theorem path_parameters_of_template (uri : String) :
    ∃ t : Template, (∀ u : Template, u.text = uri ↔ u = t) ∧
      foundNames uri.toList = t.names ∧
      pathParameters uri = t.parameters ∧
      (hasPathParameters uri = true ↔ ∃ name ∈ t.names, ∃ c ∈ name, c ≠ '+') ∧
      (t.tail = [] → ∀ more,
        pathParameters (uri ++ more) = pathParameters uri ++ pathParameters more) := by
  obtain ⟨t, hchars, hnames⟩ := Template.exists_chars_eq uri.toList
  have htext : t.text = uri := by rw [Template.text, hchars, String.ofList_toList]
  subst htext
  refine ⟨t, fun u => ⟨fun h => ?_, fun h => h ▸ rfl⟩, hnames.symm, t.pathParameters_text,
    t.hasPathParameters_text_iff, fun htail more => ?_⟩
  · exact Template.chars_injective (String.ofList_injective h)
  · rw [Template.pathParameters_text_append htail, t.pathParameters_text]

/-- A request URI with a stray closing brace, a name of plus signs only and an opening brace in a
name. -/
def objectUri : String := "/\x7bBucket\x7d\x7d/\x7b\x7bKey+\x7d\x7b++\x7d/"

/-- The template of that URI. -/
def objectTemplate : Template :=
  .group ['/'] ['B', 'u', 'c', 'k', 'e', 't'] (by decide) (by decide)
    (.group ['}', '/'] ['{', 'K', 'e', 'y', '+'] (by decide) (by decide)
      (.group [] ['+', '+'] (by decide) (by decide)
        (.ended ['/'] [] (by decide) (by simp) (by decide))))

/-- The parameters of the template are followed by those of the text behind it. -/
theorem object_uri_parameters :
    objectTemplate.text = objectUri ∧ objectTemplate.tail = [] ∧
      pathParameters objectUri = ["Bucket", "\x7bKey"] ∧
      pathParameters (objectUri ++ "\x7bPart\x7d?\x7bopen") = ["Bucket", "\x7bKey", "Part"] := by
  obtain ⟨t, hunique, -, hparameters, -, happend⟩ :=
    path_parameters_of_template objectUri
  have htext : objectTemplate.text = objectUri := by decide
  obtain rfl : objectTemplate = t := (hunique objectTemplate).mp htext
  have hown : pathParameters objectUri = ["Bucket", "\x7bKey"] := by
    rw [hparameters]
    decide
  refine ⟨htext, rfl, hown, ?_⟩
  rw [happend rfl, hown]
  decide

end ApiBindings.Text
