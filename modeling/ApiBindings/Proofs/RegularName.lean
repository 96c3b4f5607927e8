import ApiBindings.Bindings.Binding
import ApiBindings.Proofs.LowerCase
import Mathlib.Data.List.Chain
import Mathlib.Data.List.TakeWhile

/-!
# Regular names

Names whose words can be told apart in either spelling. In camel case each word starts with a
capital, and the words of a regular name end where the next capital follows a lower-case letter; in
snake case an underscore stands there. On regular names the two conversions undo each other, so
operations with different regular names are bound by different functions.
-/

namespace ApiBindings.Text

/-! ### Both spellings -/

/-- A word in lower case: letters and digits, a letter first. -/
structure IsLowerWord (w : List Char) : Prop where
  letterFirst : w.head?.any Char.isLower = true
  plain : ∀ c ∈ w, c.isLower = true ∨ c.isDigit = true

/-- A word in lower case that another one may follow: it has at least two characters, and a letter
last. -/
structure IsInnerWord (w : List Char) : Prop extends IsLowerWord w where
  long : 2 ≤ w.length
  letterLast : w.getLast?.any Char.isLower = true

/-- A regular name in snake case: words joined by single underscores. -/
inductive IsSnakeRegular : List Char → Prop
  | word {w : List Char} (h : IsLowerWord w) : IsSnakeRegular w
  | words {w rest : List Char} (h : IsInnerWord w) (hrest : IsSnakeRegular rest) :
      IsSnakeRegular (w ++ '_' :: rest)

/-- A regular name in camel case: letters and digits, a capital first, and every other capital right
behind a lower-case letter. -/
structure IsCamelRegular (s : List Char) : Prop where
  capitalFirst : s.head?.any Char.isUpper = true
  alphanumeric : ∀ c ∈ s, c.isAlphanum = true
  capitalsFollow : s.IsChain fun before c => c.isUpper = true → before.isLower = true

/-- A name in camel case and in snake case, word by word. -/
inductive AreSpellings : List Char → List Char → Prop
  | word {w : List Char} (h : IsLowerWord w) : AreSpellings (capitalizeChars w) w
  | words {w camel snake : List Char} (h : IsInnerWord w) (hrest : AreSpellings camel snake) :
      AreSpellings (capitalizeChars w ++ camel) (w ++ '_' :: snake)

/-! ### Letters and digits -/

variable {c : Char}

private theorem isWordChar_of_plain (h : c.isLower = true ∨ c.isDigit = true) :
    isWordChar c = true :=
  h.elim isWordChar_of_isLower isWordChar_of_isDigit

private theorem isUpper_of_plain (h : c.isLower = true ∨ c.isDigit = true) : c.isUpper = false :=
  of_ascii (p := fun c => c.isLower = true ∨ c.isDigit = true → c.isUpper = false) (by decide)
    (toNat_lt_of_isWordChar (isWordChar_of_plain h)) h

private theorem isWordChar_of_isUpper (h : c.isUpper = true) : isWordChar c = true :=
  isWordChar_iff.mpr (.inl h)

private theorem lower_toUpper (h : c.isLower = true) :
    upper c = [c.toUpper] ∧ lower c.toUpper = [c] ∧ c.toUpper.isUpper = true ∧
      isUpper c.toUpper = true ∧ isLower c.toUpper = false := by
  have hascii : c.toNat < 0x80 := toNat_lt_of_isWordChar (isWordChar_of_isLower h)
  refine ⟨upper_of_ascii hascii, ?_⟩
  exact of_ascii (p := fun c => c.isLower = true → lower c.toUpper = [c] ∧
    c.toUpper.isUpper = true ∧ isUpper c.toUpper = true ∧ isLower c.toUpper = false)
    (by decide) hascii h

private theorem toUpper_toLower (h : c.isUpper = true) :
    c.toLower.isLower = true ∧ c.toLower.toUpper = c :=
  of_ascii (p := fun c => c.isUpper = true → c.toLower.isLower = true ∧ c.toLower.toUpper = c)
    (by decide) (toNat_lt_of_isWordChar (isWordChar_of_isUpper h)) h

/-! ### Words in snake case -/

variable {w camel snake : List Char}

private theorem snakeChars_append (afterLower : Bool) (s t : List Char) :
    snakeChars afterLower (s ++ t) =
      snakeChars afterLower s ++ snakeChars ((s.getLast?.map isLower).getD afterLower) t := by
  induction s generalizing afterLower with
  | nil => rfl
  | cons c s ih =>
    have hlast : (((c :: s).getLast?).map isLower).getD afterLower =
        ((s.getLast?).map isLower).getD (isLower c) := by
      cases s <;> simp [List.getLast?_cons]
    rw [List.cons_append, snakeChars, snakeChars, ih, hlast]
    split <;> simp

private theorem snakeChars_of_plain (h : ∀ c ∈ w, c.isLower = true ∨ c.isDigit = true)
    (afterLower : Bool) : snakeChars afterLower w = w :=
  (isSettled_of_plain fun c hc => (h c hc).imp_right .inl).snakeChars_eq afterLower

private theorem IsLowerWord.exists_cons (h : IsLowerWord w) : ∃ c rest, w = c :: rest ∧
    c.isLower = true ∧ capitalizeChars w = c.toUpper :: rest ∧
      ∀ x ∈ rest, x.isLower = true ∨ x.isDigit = true := by
  cases w with
  | nil => cases h.letterFirst
  | cons c rest =>
    have hc : c.isLower = true := h.letterFirst
    refine ⟨c, rest, rfl, hc, ?_, (List.forall_mem_cons.mp h.plain).2⟩
    rw [capitalizeChars, (lower_toUpper hc).1, List.singleton_append]

private theorem IsLowerWord.capitalizeChars_ne_nil (h : IsLowerWord w) :
    capitalizeChars w ≠ [] := by
  obtain ⟨c, rest, -, -, hcapital, -⟩ := h.exists_cons
  rw [hcapital]
  exact List.cons_ne_nil _ _

private theorem IsLowerWord.snakeChars_capitalizeChars (h : IsLowerWord w) (afterLower : Bool) :
    snakeChars afterLower (capitalizeChars w) = if afterLower then '_' :: w else w := by
  obtain ⟨c, rest, rfl, hc, hcapital, hrest⟩ := h.exists_cons
  obtain ⟨-, hlower, -, hupper, hcase⟩ := lower_toUpper hc
  rw [hcapital, snakeChars, hlower, hupper, hcase, snakeChars_of_plain hrest]
  rfl

private theorem IsLowerWord.moduleChars_eq (h : IsLowerWord w) :
    moduleChars true w = capitalizeChars w :=
  moduleChars_true_of_isWordChar fun c hc => isWordChar_of_plain (h.plain c hc)

private theorem IsInnerWord.getLast?_capitalizeChars (h : IsInnerWord w) :
    ∃ c, (capitalizeChars w).getLast? = some c ∧ c.isLower = true := by
  obtain ⟨c, rest, rfl, -, hcapital, -⟩ := h.toIsLowerWord.exists_cons
  cases rest with
  | nil => exact absurd h.long (by simp)
  | cons x rest =>
    have hlast := h.letterLast
    rw [List.getLast?_cons_cons, List.getLast?_cons, Option.any_some] at hlast
    exact ⟨_, by rw [hcapital, List.getLast?_cons_cons, List.getLast?_cons], hlast⟩

private theorem IsLowerWord.isCamelRegular (h : IsLowerWord w) :
    IsCamelRegular (capitalizeChars w) := by
  obtain ⟨c, rest, rfl, hc, hcapital, hrest⟩ := h.exists_cons
  obtain ⟨-, -, hupper, -⟩ := lower_toUpper hc
  have hnone : ∀ before : Char, ∀ x ∈ rest, x.isUpper = true → before.isLower = true := by
    intro before x hx hcapital
    rw [isUpper_of_plain (hrest x hx)] at hcapital
    cases hcapital
  rw [hcapital]
  refine ⟨hupper, List.forall_mem_cons.mpr ⟨isWordChar_of_isUpper hupper, fun x hx =>
    isWordChar_of_plain (hrest x hx)⟩, List.Pairwise.isChain (List.pairwise_cons.mpr ?_)⟩
  exact ⟨hnone _, List.pairwise_of_forall_mem_list fun before _ => hnone before⟩

/-! ### Converting names -/

namespace AreSpellings

/-- The name in camel case is converted to that in snake case. -/
theorem snakeChars_eq (h : AreSpellings camel snake) (afterLower : Bool) :
    snakeChars afterLower camel = if afterLower then '_' :: snake else snake := by
  induction h generalizing afterLower with
  | word hw => exact hw.snakeChars_capitalizeChars afterLower
  | words hw _ ih =>
    obtain ⟨c, hlast, hc⟩ := hw.getLast?_capitalizeChars
    have hcase : isLower c = true := by
      rw [isLower, if_pos (toNat_lt_of_isWordChar (isWordChar_of_isLower hc)), hc]
    rw [snakeChars_append, hw.snakeChars_capitalizeChars, hlast, Option.map_some,
      Option.getD_some, hcase, ih]
    cases afterLower <;> rfl

private theorem moduleChars_eq (h : AreSpellings camel snake) : moduleChars true snake = camel := by
  induction h with
  | word hw => exact hw.moduleChars_eq
  | words hw _ ih => rw [moduleChars_append_cons _ _ _ (by decide), hw.moduleChars_eq, ih]

/-- The name in snake case is regular. -/
theorem isSnakeRegular (h : AreSpellings camel snake) : IsSnakeRegular snake := by
  induction h with
  | word hw => exact .word hw
  | words hw _ ih => exact .words hw ih

/-- The name in camel case is regular. -/
theorem isCamelRegular (h : AreSpellings camel snake) : IsCamelRegular camel := by
  induction h with
  | word hw => exact hw.isCamelRegular
  | words hw _ ih =>
    have hcapital := hw.toIsLowerWord.isCamelRegular
    obtain ⟨c, hlast, hc⟩ := hw.getLast?_capitalizeChars
    refine ⟨?_, List.forall_mem_append.mpr ⟨hcapital.alphanumeric, ih.alphanumeric⟩, ?_⟩
    · rw [List.head?_append_of_ne_nil _ hw.capitalizeChars_ne_nil]
      exact hcapital.capitalFirst
    · refine List.isChain_append.mpr ⟨hcapital.capitalsFollow, ih.capitalsFollow, ?_⟩
      intro x hx y _ _
      rw [hlast, Option.mem_some_iff] at hx
      rwa [← hx]

end AreSpellings

/-- A regular name in snake case has a spelling in camel case. -/
theorem IsSnakeRegular.exists_areSpellings (h : IsSnakeRegular snake) :
    ∃ camel, AreSpellings camel snake := by
  induction h with
  | word hw => exact ⟨_, .word hw⟩
  | words hw _ ih =>
    obtain ⟨camel, hcamel⟩ := ih
    exact ⟨_, .words hw hcamel⟩

private theorem IsCamelRegular.exists_word (h : IsCamelRegular camel) : ∃ w rest,
    camel = capitalizeChars w ++ rest ∧
      (IsLowerWord w ∧ rest = [] ∨ IsInnerWord w ∧ IsCamelRegular rest) := by
  cases camel with
  | nil => cases h.capitalFirst
  | cons capital tail =>
    have hcapital : capital.isUpper = true := h.capitalFirst
    obtain ⟨hlower, hback⟩ := toUpper_toLower hcapital
    have hfollow := h.capitalsFollow
    have halphanumeric := h.alphanumeric
    obtain ⟨run, more, rfl, hrun, hmore⟩ : ∃ run more, tail = run ++ more ∧
        (∀ c ∈ run, c.isUpper = false) ∧ ∀ c ∈ more.head?, c.isUpper = true := by
      refine ⟨tail.takeWhile (!·.isUpper), tail.dropWhile (!·.isUpper),
        List.takeWhile_append_dropWhile.symm, fun c hc => ?_, fun c hc => ?_⟩
      · simpa using List.mem_takeWhile_imp hc
      · have hhead := List.head?_dropWhile_not (!·.isUpper) tail
        rw [Option.mem_def.mp hc] at hhead
        simpa using hhead
    rw [← List.cons_append] at hfollow halphanumeric
    have hplain : ∀ c ∈ run, c.isLower = true ∨ c.isDigit = true := by
      intro c hc
      have hcases := isWordChar_iff.mp (halphanumeric c (List.mem_append_left _ (.tail _ hc)))
      exact hcases.resolve_left (by simp [hrun c hc])
    have hword : IsLowerWord (capital.toLower :: run) :=
      ⟨hlower, List.forall_mem_cons.mpr ⟨.inl hlower, hplain⟩⟩
    refine ⟨capital.toLower :: run, more, ?_, ?_⟩
    · rw [capitalizeChars, (lower_toUpper hlower).1, hback]
      rfl
    · cases more with
      | nil => exact .inl ⟨hword, rfl⟩
      | cons c more =>
        have hc : c.isUpper = true := hmore c rfl
        obtain ⟨-, hrest, hjoint⟩ := List.isChain_append.mp hfollow
        have hrestRegular : IsCamelRegular (c :: more) :=
          ⟨hc, (List.forall_mem_append.mp halphanumeric).2, hrest⟩
        cases run with
        | nil =>
          -- the next capital would follow a capital
          have hcase := hjoint capital rfl c rfl hc
          rw [isUpper_of_plain (.inl hcase)] at hcapital
          cases hcapital
        | cons x run =>
          refine .inr ⟨⟨hword, by simp, ?_⟩, hrestRegular⟩
          rw [List.getLast?_cons_cons, List.getLast?_cons] at hjoint ⊢
          exact hjoint _ rfl c rfl hc

/-- A regular name in camel case has a spelling in snake case. -/
theorem IsCamelRegular.exists_areSpellings (h : IsCamelRegular camel) :
    ∃ snake, AreSpellings camel snake := by
  induction hlength : camel.length using Nat.strong_induction_on generalizing camel with
  | _ n ih =>
    obtain ⟨w, rest, rfl, ⟨hw, rfl⟩ | ⟨hw, hrest⟩⟩ := h.exists_word
    · exact ⟨w, by simpa using AreSpellings.word hw⟩
    · have hpositive := List.length_pos_of_ne_nil hw.capitalizeChars_ne_nil
      obtain ⟨snake, hsnake⟩ := ih rest.length
        (by rw [← hlength, List.length_append]; omega) hrest rfl
      exact ⟨_, .words hw hsnake⟩

end ApiBindings.Text

namespace ApiBindings.Bindings

open Service Text

/-- On regular names, snake case and module names undo each other. A regular name in camel case is
put in a regular name in snake case, whose module name it is; a regular name in snake case has a
regular name in camel case as its module name, which is put back in it. So operations with different
regular names are called by different functions. -/
theorem regular_names_convert_back :
    (∀ n : String, IsCamelRegular n.toList →
      IsSnakeRegular (snakeCase n).toList ∧ moduleName (snakeCase n) = n) ∧
    (∀ m : String, IsSnakeRegular m.toList →
      IsCamelRegular (moduleName m).toList ∧ snakeCase (moduleName m) = m) ∧
    ∀ (d : Description) (key key' : String) (op op' : Operation),
      IsCamelRegular key.toList → IsCamelRegular key'.toList → key ≠ key' →
        (CallThrough.ofOperation d key op).function ≠
          (CallThrough.ofOperation d key' op').function := by
  have hcamel : ∀ n : String, IsCamelRegular n.toList →
      IsSnakeRegular (snakeCase n).toList ∧ moduleName (snakeCase n) = n := by
    intro n hn
    obtain ⟨snake, hspell⟩ := hn.exists_areSpellings
    have hsnake : (snakeCase n).toList = snake := by
      rw [snakeCase, String.toList_ofList, hspell.snakeChars_eq]
      rfl
    refine ⟨hsnake ▸ hspell.isSnakeRegular, ?_⟩
    rw [moduleName, hsnake, hspell.moduleChars_eq, String.ofList_toList]
  refine ⟨hcamel, fun m hm => ?_, fun d key key' op op' hkey hkey' hne hsame => hne ?_⟩
  · obtain ⟨camel, hspell⟩ := hm.exists_areSpellings
    have hcamel : (moduleName m).toList = camel := by
      rw [moduleName, String.toList_ofList, hspell.moduleChars_eq]
    refine ⟨hcamel ▸ hspell.isCamelRegular, ?_⟩
    rw [snakeCase, hcamel, hspell.snakeChars_eq, if_neg (by decide), String.ofList_toList]
  · have hname : snakeCase key = snakeCase key' := hsame
    rw [← (hcamel key hkey).2, hname, (hcamel key' hkey').2]

/-- Regular names with a word of one letter at the end, and with digits in front of a capital's
letter and at the end. -/
theorem regular_names_of_tasks :
    moduleName (snakeCase "MoveTaskToA") = "MoveTaskToA" ∧
      snakeCase (moduleName "move_v2task_to_h2") = "move_v2task_to_h2" ∧
      ∀ (d : Description) (op op' : Operation),
        (CallThrough.ofOperation d "MoveTaskToA" op).function ≠
          (CallThrough.ofOperation d "MoveTaskToB" op').function := by
  have hA : IsCamelRegular "MoveTaskToA".toList := ⟨by decide, by simp, by simp⟩
  have hB : IsCamelRegular "MoveTaskToB".toList := ⟨by decide, by simp, by simp⟩
  have hsnake : IsSnakeRegular "move_v2task_to_h2".toList :=
    .words (w := "move".toList) ⟨⟨by decide, by simp⟩, by decide, by decide⟩
      (.words (w := "v2task".toList) ⟨⟨by decide, by simp⟩, by decide, by decide⟩
        (.words (w := "to".toList) ⟨⟨by decide, by simp⟩, by decide, by decide⟩
          (.word (w := "h2".toList) ⟨by decide, by simp⟩)))
  obtain ⟨hcamel, hback, hdiffer⟩ := regular_names_convert_back
  exact ⟨(hcamel _ hA).2, (hback _ hsnake).2, fun d op op' =>
    hdiffer d _ _ op op' hA hB (by decide)⟩

end ApiBindings.Bindings
