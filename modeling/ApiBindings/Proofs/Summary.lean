import ApiBindings.Proofs.Argument
import ApiBindings.Proofs.Brief

/-!
# Headings of arguments

The brief of a text does not depend on how its lines are laid out: on blank lines among them, and on
blank characters around each of them. Since it is a line itself, a heading that shows it is on the
first line of its entry as a whole, if only the name in the heading does not break lines.
-/

namespace ApiBindings.Text

/-! ### Layouts of lines -/

/-- A line with blank characters before and after it. -/
def Pads (line padded : List Char) : Prop :=
  ∃ before after : List Char, (∀ c ∈ before, isBlank c = true) ∧ (∀ c ∈ after, isBlank c = true) ∧
    padded = before ++ line ++ after

/-- The same lines in two layouts: in each of them there may be blank lines among the lines, and
blank characters around each line. -/
inductive Relaid : List (List Char) → List (List Char) → Prop
  | nil : Relaid [] []
  | line (line : List Char) {l l' : List Char} {a b : List (List Char)} (hl : Pads line l)
      (hl' : Pads line l') (h : Relaid a b) : Relaid (l :: a) (l' :: b)
  | blankLeft {blank : List Char} {a b : List (List Char)} (hblank : ∀ c ∈ blank, isBlank c = true)
      (h : Relaid a b) : Relaid (blank :: a) b
  | blankRight {blank : List Char} {a b : List (List Char)} (hblank : ∀ c ∈ blank, isBlank c = true)
      (h : Relaid a b) : Relaid a (blank :: b)

private theorem Pads.trimBlank_eq {line padded : List Char} (h : Pads line padded) :
    trimBlank padded = trimBlank line := by
  obtain ⟨before, after, hbefore, hafter, rfl⟩ := h
  exact trimBlank_around hbefore hafter line

private theorem Relaid.filter_trimBlank_eq {a b : List (List Char)} (h : Relaid a b) :
    (a.map trimBlank).filter (!·.isEmpty) = (b.map trimBlank).filter (!·.isEmpty) := by
  induction h with
  | nil => rfl
  | line line hl hl' _ ih =>
    rw [List.map_cons, List.map_cons, hl.trimBlank_eq, hl'.trimBlank_eq, List.filter_cons,
      List.filter_cons, ih]
  | blankLeft hblank _ ih => simpa [trimBlank_eq_nil hblank] using ih
  | blankRight hblank _ ih => simpa [trimBlank_eq_nil hblank] using ih

/-- The layout of a text does not count in its brief. -/
theorem brief_eq_of_relaid {s t : String} (h : Relaid (lines s.toList) (lines t.toList)) :
    brief s = brief t := by
  have hlines : fullLines s.toList = fullLines t.toList := h.filter_trimBlank_eq
  simp only [brief, hlines]

end ApiBindings.Text

namespace ApiBindings.Bindings

open Service

variable {d : Description} {docs : Formatter}

/-! ### First lines -/

namespace Argument

/-- The heading of an argument, and the mark behind it if the argument is required. -/
def headingLine (a : Argument) : String := a.heading ++ if a.required then requiredNote else ""

/-- The documentation of an argument, if there is any, on lines of its own. -/
def documentationBelow (a : Argument) : String := (a.documentation.map ("\n" ++ ·)).getD ""

/-- A fence around the value of an argument. -/
def fence (a : Argument) : String :=
  "\n\x60\x60\x60\n " ++ a.name ++ " = " ++ a.value ++ "\n\x60\x60\x60"

/-- The first line of the text of an argument is its heading, with a mark if it is required and with
nothing else. The documentation follows, and then the value in a fence if and only if it takes
several lines; exactly then the heading shows its brief. -/
structure IsHeaded (a : Argument) : Prop where
  firstLine : (Text.lines a.text.toList).head? = some a.headingLine.toList
  long : '\n' ∈ a.value.toList →
    a.heading = "## \x60" ++ a.name ++ " = " ++ Text.brief a.value ++ "\x60" ∧
      a.text = a.headingLine ++ a.documentationBelow ++ a.fence
  short : '\n' ∉ a.value.toList →
    a.heading = "## \x60" ++ a.name ++ " = " ++ a.value ++ "\x60" ∧
      a.text = a.headingLine ++ a.documentationBelow

variable {a : Argument}

/-- The parts of the text of an argument. -/
theorem text_eq (a : Argument) :
    a.text = a.headingLine ++ a.documentationBelow ++ if a.isLong then a.fence else "" := by
  cases hdocumentation : a.documentation <;>
    simp [text, headingLine, documentationBelow, fence, requiredNote, hdocumentation]

private theorem text_eq_headingLine_or (a : Argument) :
    a.text = a.headingLine ∨ ∃ rest, a.text = a.headingLine ++ "\n" ++ rest := by
  rw [text_eq, documentationBelow]
  cases a.documentation with
  | some documentation =>
    exact .inr ⟨documentation ++ if a.isLong then a.fence else "", by simp [String.append_assoc]⟩
  | none =>
    cases a.isLong with
    | false => exact .inl (by simp)
    | true =>
      refine .inr ⟨"\x60\x60\x60\n " ++ a.name ++ " = " ++ a.value ++ "\n\x60\x60\x60", ?_⟩
      simp [fence, ← String.toList_inj]

/-- A heading does not break lines, unless the name in it does: a value of several lines is not
shown but its brief is. -/
theorem lineFeed_notMem_headingLine (hname : '\n' ∉ a.name.toList) :
    '\n' ∉ a.headingLine.toList := by
  have hshown : '\n' ∉ (if a.isLong then Text.brief a.value else a.value).toList := by
    split
    next => exact Text.lineFeed_notMem_brief a.value
    next hlong => simpa [isLong] using hlong
  have hmark : '\n' ∉ (if a.required then requiredNote else "").toList := by
    cases a.required <;> decide
  rw [headingLine, heading]
  simp [hname, hshown, hmark]

/-- An argument whose name does not break lines has its heading on the first line. -/
theorem isHeaded (hname : '\n' ∉ a.name.toList) : a.IsHeaded where
  firstLine := by
    have hline := lineFeed_notMem_headingLine hname
    rcases a.text_eq_headingLine_or with htext | ⟨rest, htext⟩
    · rw [htext, Text.lines_of_notMem hline]
      rfl
    · have hchars : (a.headingLine ++ "\n" ++ rest).toList =
          a.headingLine.toList ++ '\n' :: rest.toList := by
        simp
      rw [htext, hchars, Text.lines_append_lineFeed, Text.lines_of_notMem hline]
      rfl
  long := by
    intro hvalue
    have hlong : a.isLong = true := List.contains_iff_mem.mpr hvalue
    exact ⟨by rw [heading, if_pos hlong], by rw [text_eq, if_pos hlong]⟩
  short := by
    intro hvalue
    have hshort : ¬ a.isLong = true := mt List.contains_iff_mem.mp hvalue
    exact ⟨by rw [heading, if_neg hshort], by rw [text_eq, if_neg hshort, String.append_empty]⟩

end Argument

private theorem map_name_of_states {chain : List String} {s : Structure}
    {members : List (String × Member)} {arguments : List Argument}
    (h : List.Forall₂ (States d docs chain s) members arguments) :
    arguments.map Argument.name =
      members.map fun member => displayName d.metadata member.1 member.2 := by
  induction h with
  | nil => rfl
  | cons hmember _ ih => rw [List.map_cons, List.map_cons, hmember.name, ih]

/-- Briefs are faithful summaries that fit into headings. The brief of a text is one line without
blank characters at its ends and its own brief; it shows the line if there is only one, and the
first and the last line of several if neither is blank; and texts that differ in their layout only
have the same brief. So the argument block of an input structure has an entry for each member, in
order, and an entry whose name does not break lines has its whole heading on its first line; the
value in full follows in a fence if and only if it takes several lines. -/
theorem briefs_fit_headings :
    (∀ text : String, '\n' ∉ (Text.brief text).toList ∧ Text.IsTrimmed (Text.brief text).toList ∧
      Text.brief (Text.brief text) = Text.brief text) ∧
    (∀ line : String, '\n' ∉ line.toList → Text.brief line = Text.trim line) ∧
    (∀ first middle last : String, '\n' ∉ first.toList → '\n' ∉ last.toList →
      Text.trimBlank first.toList ≠ [] → Text.trimBlank last.toList ≠ [] →
      Text.brief (first ++ "\n" ++ middle ++ "\n" ++ last) =
        Text.trim first ++ " ... " ++ Text.trim last) ∧
    (∀ s t : String, Text.Relaid (Text.lines s.toList) (Text.lines t.toList) →
      Text.brief s = Text.brief t) ∧
    ∀ (d : Description) (docs : Formatter) (chain : List String) (input block : String)
      (s : Structure), d.shapes.find? input = some (.struct s) → input ∉ chain →
      (argumentBlock d docs chain input).outcome = .ok block →
      ∃ arguments : List Argument, block = "\n\n".intercalate (arguments.map Argument.text) ∧
        List.Forall₂ (States d docs (chain ++ [input]) s) s.members.entries arguments ∧
        ∀ a ∈ arguments, '\n' ∉ a.name.toList → a.IsHeaded := by
  refine ⟨fun text => ⟨Text.lineFeed_notMem_brief text, Text.isTrimmed_brief text,
    Text.brief_brief text⟩, fun _ => Text.brief_of_line,
    fun _ middle _ hfirst hlast hfull hfull' =>
      Text.brief_of_lines hfirst hlast hfull hfull' middle,
    fun _ _ => Text.brief_eq_of_relaid, ?_⟩
  intro d docs chain input block s hfound hnew hblock
  obtain ⟨arguments, htext, hstates⟩ := exists_arguments_of_argumentBlock hfound hnew hblock
  exact ⟨arguments, htext, hstates, fun _ _ => Argument.isHeaded⟩

set_option maxRecDepth 4000 in
/-- Two layouts of a list, and the entries of an order. -/
theorem order_headings_fit :
    Text.brief "[\n    x,\n    y\n]" = "[ ... ]" ∧
      Text.brief "\n[ \r\n\n\tx,\n  y\n \n  ]\n" = "[ ... ]" ∧
      (argumentBlock (orderDescription ["By", "Items"] ["Key"]) id [] "Order").outcome =
        .ok orderBlock ∧
      ∃ arguments : List Argument, orderBlock = "\n\n".intercalate (arguments.map Argument.text) ∧
        arguments.map Argument.name = ["Note", "Items", "By"] ∧ ∀ a ∈ arguments, a.IsHeaded := by
  have hrelaid : Text.Relaid (Text.lines "[\n    x,\n    y\n]".toList)
      (Text.lines "\n[ \r\n\n\tx,\n  y\n \n  ]\n".toList) := by
    have hlines : Text.lines "[\n    x,\n    y\n]".toList =
        ["[".toList, "    x,".toList, "    y".toList, "]".toList] := by
      decide
    have hlines' : Text.lines "\n[ \r\n\n\tx,\n  y\n \n  ]\n".toList =
        ["".toList, "[ \r".toList, "".toList, "\tx,".toList, "  y".toList, " ".toList,
          "  ]".toList, "".toList] := by
      decide
    rw [hlines, hlines']
    apply Text.Relaid.blankRight (by simp)
    apply Text.Relaid.line "[".toList ⟨[], [], by simp⟩ ⟨[], " \r".toList, by simp [Text.isBlank]⟩
    apply Text.Relaid.blankRight (by simp)
    apply Text.Relaid.line "x,".toList ⟨"    ".toList, [], by simp [Text.isBlank]⟩
      ⟨"\t".toList, [], by simp [Text.isBlank]⟩
    apply Text.Relaid.line "y".toList ⟨"    ".toList, [], by simp [Text.isBlank]⟩
      ⟨"  ".toList, [], by simp [Text.isBlank]⟩
    apply Text.Relaid.blankRight (by simp [Text.isBlank])
    apply Text.Relaid.line "]".toList ⟨[], [], by simp⟩ ⟨"  ".toList, [], by simp [Text.isBlank]⟩
    exact .blankRight (by simp) .nil
  have hblock : (argumentBlock (orderDescription ["By", "Items"] ["Key"]) id [] "Order").outcome =
      .ok orderBlock := by
    with_unfolding_all rfl
  obtain ⟨-, -, hlines, hlayout, hentries⟩ := briefs_fit_headings
  have hbrief : Text.brief "[\n    x,\n    y\n]" = "[ ... ]" := by
    have h := hlines "[" "    x,\n    y" "]" (by decide) (by decide) (by decide) (by decide)
    have htrim : Text.trim "[" = "[" ∧ Text.trim "]" = "]" := by decide
    rw [htrim.1, htrim.2] at h
    simpa using h
  obtain ⟨arguments, htext, hstates, hheaded⟩ :=
    hentries (orderDescription ["By", "Items"] ["Key"]) id [] "Order" orderBlock _ rfl
      List.not_mem_nil hblock
  have hnames : arguments.map Argument.name = ["Note", "Items", "By"] := by
    rw [map_name_of_states hstates]
    with_unfolding_all rfl
  refine ⟨hbrief, (hlayout _ _ hrelaid).symm.trans hbrief, hblock, arguments, htext, hnames,
    fun a ha => hheaded a ha ?_⟩
  have hmem : a.name ∈ ["Note", "Items", "By"] := hnames ▸ List.mem_map_of_mem ha
  have hnoBreak : ∀ name ∈ ["Note", "Items", "By"], '\n' ∉ name.toList := by decide
  exact hnoBreak a.name hmem

end ApiBindings.Bindings
