import FragmentRoutes.Naming
import FragmentRoutes.Proofs.Text.Numbered
import Mathlib.Data.List.TakeWhile

/-!
# Names for routes

A name that is given is not taken (`fresh_not_mem`), so the definitions of a list are given one name
each and all of them are different (`nodup_allocate`).  The identifier of a group is made of the
words of the name of its file, in small letters (`groupIdentifier_cases`).
-/

namespace FragmentRoutes.Naming

/-- The search ends with a name that is not taken if there is one within its bound. -/
theorem numbered_not_mem {taken : List String} {name : String} {fuel n k : Nat} (hle : n ≤ k)
    (hfuel : k ≤ n + fuel) (hnew : name ++ toString k ∉ taken) :
    numbered taken name n fuel ∉ taken := by
  induction fuel generalizing n with
  | zero =>
    obtain rfl : n = k := by omega
    exact hnew
  | succ fuel ih =>
    unfold numbered
    by_cases htaken : name ++ toString n ∈ taken
    · have hlt : n < k := by
        refine lt_of_le_of_ne hle ?_
        rintro rfl
        exact hnew htaken
      rw [if_pos (by simpa using htaken)]
      exact ih hlt (by omega)
    · rw [if_neg (by simpa using htaken)]
      exact htaken

theorem exists_numbered_eq (taken : List String) (name : String) (n fuel : Nat) :
    ∃ k : Nat, numbered taken name n fuel = name ++ toString k := by
  induction fuel generalizing n with
  | zero => exact ⟨n, rfl⟩
  | succ fuel ih =>
    rw [numbered]
    split_ifs
    · exact ih (n + 1)
    · exact ⟨n, rfl⟩

/-- **A name that is given is not taken.** -/
theorem fresh_not_mem (taken : List String) (name : String) : fresh taken name ∉ taken := by
  unfold fresh
  split_ifs with htaken
  · obtain ⟨k, hle, hbound, hnew⟩ := Text.exists_numbered_not_mem taken name 2
    exact numbered_not_mem hle hbound hnew
  · simpa using htaken

theorem length_allocateFrom (taken names : List String) :
    (allocateFrom taken names).length = names.length := by
  induction names generalizing taken with
  | nil => rfl
  | cons name names ih => exact congrArg (· + 1) (ih _)

/-- Names that are given are different from each other and from those taken before. -/
theorem nodup_append_allocateFrom {taken : List String} (h : taken.Nodup) (names : List String) :
    (taken ++ allocateFrom taken names).Nodup := by
  induction names generalizing taken with
  | nil => simpa [allocateFrom] using h
  | cons name names ih =>
    have hnodup : (taken ++ [fresh taken name]).Nodup := by
      rw [List.nodup_append_comm, List.singleton_append, List.nodup_cons]
      exact ⟨fresh_not_mem taken name, h⟩
    have hrest := ih hnodup
    rwa [List.append_assoc] at hrest

theorem length_allocate (definitions : List Definition) :
    (allocate definitions).length = definitions.length := by
  rw [allocate, length_allocateFrom, List.length_map]

/-- **No two definitions are given one name.** -/
theorem nodup_allocate (definitions : List Definition) : (allocate definitions).Nodup :=
  nodup_append_allocateFrom List.nodup_nil _

/-! ### Identifiers of groups -/

/-- The characters that words are made of. -/
def isWordChar (c : Char) : Bool :=
  isCapital c || isSmall c || Text.isAsciiDigit c

/-- The characters of identifiers of groups. -/
def isSnakeChar (c : Char) : Bool :=
  isSmall c || Text.isAsciiDigit c || c == '_'

theorem isWordChar_of_mem_splitWord {cs : List Char} {c : Char} (h : c ∈ (splitWord cs).1) :
    isWordChar c = true := by
  have hcapital : c ∈ cs.takeWhile isCapital → isWordChar c = true := fun hc => by
    simp [isWordChar, List.mem_takeWhile_imp hc]
  have hsmall : c ∈ (cs.dropWhile isCapital).takeWhile isSmall → isWordChar c = true := fun hc => by
    simp [isWordChar, List.mem_takeWhile_imp hc]
  unfold splitWord at h
  dsimp only at h
  split_ifs at h
  · simp [isWordChar, List.mem_takeWhile_imp h]
  · exact hcapital h
  · exact hcapital (List.dropLast_subset _ h)
  · exact (List.mem_append.mp h).elim hcapital hsmall

/-- A word is made of letters and digits, and it has one of them at least. -/
theorem word_of_mem_words {s : String} {word : List Char} (h : word ∈ words s) :
    word ≠ [] ∧ ∀ c ∈ word, isWordChar c = true := by
  unfold words at h
  generalize s.toList.length = fuel at h
  generalize s.toList = cs at h
  induction fuel generalizing cs with
  | zero => simp [wordsWithin] at h
  | succ fuel ih =>
    cases cs with
    | nil => simp [wordsWithin] at h
    | cons c cs =>
      rw [wordsWithin] at h
      dsimp only at h
      split_ifs at h with hempty
      · exact ih _ h
      · rcases List.mem_cons.mp h with rfl | h
        · exact ⟨by simpa using hempty, fun d hd => isWordChar_of_mem_splitWord hd⟩
        · exact ih _ h

theorem lt_of_isWordChar {c : Char} (h : isWordChar c = true) : c.toNat < 128 := by
  have hle : ∀ d : Char, c ≤ d → c.toNat ≤ d.toNat := fun d hd => by
    rwa [Char.le_def, UInt32.le_iff_toNat_le] at hd
  simp only [isWordChar, isCapital, isSmall, Text.isAsciiDigit, Bool.or_eq_true, Bool.and_eq_true,
    decide_eq_true_eq] at h
  rcases h with (⟨-, h⟩ | ⟨-, h⟩) | ⟨-, h⟩
  · exact (hle _ h).trans_lt (by decide)
  · exact (hle _ h).trans_lt (by decide)
  · exact (hle _ h).trans_lt (by decide)

/-- What holds of the ASCII characters one by one holds of all of them. -/
theorem forall_of_lt {P : Char → Prop} (h : ∀ n < 128, P (Char.ofNat n)) {c : Char}
    (hc : c.toNat < 128) : P c := by
  rw [← Char.ofNat_toNat c]
  exact h _ hc

/-- A letter that is made small is a small letter, and a digit stays the same. -/
theorem lowerAscii_of_isWordChar {c : Char} (h : isWordChar c = true) :
    isSmall (Text.lowerAscii c) = true ∨
      Text.isAsciiDigit c = true ∧ Text.lowerAscii c = c := by
  refine forall_of_lt (P := fun c => isWordChar c = true → isSmall (Text.lowerAscii c) = true ∨
    Text.isAsciiDigit c = true ∧ Text.lowerAscii c = c) ?_ (lt_of_isWordChar h) h
  decide

/-- A small letter is neither a digit nor a capital, and comes back from its capital. -/
theorem small_facts {c : Char} (h : isSmall c = true) :
    Text.isAsciiDigit c = false ∧ isCapital c = false ∧ isCapital (Text.upperAscii c) = true ∧
      Text.lowerAscii (Text.upperAscii c) = c := by
  have hword : isWordChar c = true := by simp [isWordChar, h]
  refine forall_of_lt (P := fun c => isSmall c = true → Text.isAsciiDigit c = false ∧
    isCapital c = false ∧ isCapital (Text.upperAscii c) = true ∧
      Text.lowerAscii (Text.upperAscii c) = c) ?_ (lt_of_isWordChar hword) h
  decide

/-- A digit is no capital and keeps its form. -/
theorem digit_facts {c : Char} (h : Text.isAsciiDigit c = true) :
    isCapital c = false ∧ Text.upperAscii c = c ∧ Text.lowerAscii c = c := by
  have hword : isWordChar c = true := by simp [isWordChar, h]
  refine forall_of_lt (P := fun c => Text.isAsciiDigit c = true →
    isCapital c = false ∧ Text.upperAscii c = c ∧ Text.lowerAscii c = c) ?_
    (lt_of_isWordChar hword) h
  decide

/-- The characters of a text of words are those of the words, put into small letters, with
underscores between them. -/
theorem toList_snakeCase (s : String) :
    (snakeCase s).toList = ['_'].intercalate ((words s).map fun w => w.map Text.lowerAscii) := by
  rw [snakeCase, String.toList_intercalate, List.map_map]
  congr 1
  exact List.map_congr_left fun w _ => String.toList_ofList

theorem isSnakeChar_lowerAscii {c : Char} (h : isWordChar c = true) :
    isSnakeChar (Text.lowerAscii c) = true := by
  rcases lowerAscii_of_isWordChar h with hsmall | ⟨hdigit, hsame⟩
  · simp [isSnakeChar, hsmall]
  · simp [isSnakeChar, hsame, hdigit]

theorem isSnakeChar_of_mem_snakeCase {s : String} {c : Char} (h : c ∈ (snakeCase s).toList) :
    isSnakeChar c = true := by
  rw [toList_snakeCase] at h
  have hwords : ∀ w ∈ words s, ∀ c ∈ w, isWordChar c = true := fun w hw =>
    (word_of_mem_words hw).2
  generalize words s = ws at h hwords
  induction ws with
  | nil => simp at h
  | cons w ws ih =>
    have hfirst : c ∈ w.map Text.lowerAscii → isSnakeChar c = true := by
      intro hc
      obtain ⟨d, hd, rfl⟩ := List.mem_map.mp hc
      exact isSnakeChar_lowerAscii (hwords w List.mem_cons_self d hd)
    cases ws with
    | nil => exact hfirst (by simpa using h)
    | cons w' ws =>
      rw [List.map_cons, List.map_cons, List.intercalate_cons_cons, ← List.map_cons] at h
      rcases List.mem_append.mp h with h | h
      · rcases List.mem_append.mp h with h | h
        · exact hfirst h
        · rw [List.mem_singleton.mp h]
          decide
      · exact ih h fun w'' hw'' => hwords w'' (List.mem_cons_of_mem _ hw'')

/-- A text of words starts with a letter or digit. -/
theorem head_snakeCase {s : String} {c : Char} {cs : List Char}
    (h : (snakeCase s).toList = c :: cs) : isSmall c = true ∨ Text.isAsciiDigit c = true := by
  rw [toList_snakeCase] at h
  have hwords : ∀ w ∈ words s, w ≠ [] ∧ ∀ c ∈ w, isWordChar c = true := fun w hw =>
    word_of_mem_words hw
  generalize words s = ws at h hwords
  cases ws with
  | nil => simp at h
  | cons w ws =>
    obtain ⟨hne, hchars⟩ := hwords w List.mem_cons_self
    obtain ⟨d, ds, rfl⟩ := List.exists_cons_of_ne_nil hne
    have hc : Text.lowerAscii d = c := by
      rw [List.map_cons, List.map_cons] at h
      cases ws with
      | nil => exact (List.cons.inj h).1
      | cons w' ws => exact (List.cons.inj h).1
    rcases lowerAscii_of_isWordChar (hchars d List.mem_cons_self) with hsmall | ⟨hdigit, hsame⟩
    · exact .inl (hc ▸ hsmall)
    · exact .inr (by rw [← hc, hsame, hdigit])

/-- **An identifier of a group** is empty, or starts with a small letter and goes on with small
letters, digits and underscores. -/
theorem groupIdentifier_cases (group : String) :
    groupIdentifier group = "" ∨ ∃ c cs, (groupIdentifier group).toList = c :: cs ∧
      isSmall c = true ∧ ∀ d ∈ cs, isSnakeChar d = true := by
  have hchars : ∀ c ∈ (snakeCase (stem group)).toList, isSnakeChar c = true :=
    fun c hc => isSnakeChar_of_mem_snakeCase hc
  unfold groupIdentifier
  dsimp only
  cases hlist : (snakeCase (stem group)).toList with
  | nil => exact .inl rfl
  | cons c cs =>
    rw [hlist] at hchars
    dsimp only [List.head?_cons]
    split_ifs with hdigit
    · refine .inr ⟨'t', c :: cs, ?_, by decide, hchars⟩
      rw [String.toList_append, hlist]
      rfl
    · refine .inr ⟨c, cs, hlist, (head_snakeCase hlist).resolve_right hdigit, ?_⟩
      exact fun d hd => hchars d (List.mem_cons_of_mem _ hd)

end FragmentRoutes.Naming
