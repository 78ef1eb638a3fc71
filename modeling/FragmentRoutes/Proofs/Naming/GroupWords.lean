import FragmentRoutes.Proofs.Naming.RouteName
import Mathlib.Data.List.Chain

/-!
# Words of group identifiers

The protocol of a group is named for the words of the identifier of the group, which are put
together with capitals.  A capital shows where a word of letters starts, and a digit after a letter
shows where a number starts, but nothing shows where a number starts after another one.  So two
identifiers make the same name exactly if they have the same words when neighbouring numbers are
joined (`pascalCase_eq_iff`).
-/

namespace FragmentRoutes.Naming

open Text

/-! ### Words of small letters and numbers -/

/-- The word is a number. -/
def isNumber (w : List Char) : Bool :=
  w.all isAsciiDigit

/-- A word of an identifier of a group: small letters or a number. -/
inductive IsSnakeWord (w : List Char) : Prop where
  | small (hne : w ≠ []) (hsmall : ∀ c ∈ w, isSmall c = true) : IsSnakeWord w
  | number (hne : w ≠ []) (hnumber : isNumber w = true) : IsSnakeWord w

theorem IsSnakeWord.ne_nil {w : List Char} (h : IsSnakeWord w) : w ≠ [] := by
  cases h <;> assumption

theorem isCapital_of_isSnakeChar {c : Char} (h : isSnakeChar c = true) : isCapital c = false := by
  simp only [isSnakeChar, Bool.or_eq_true, beq_iff_eq] at h
  rcases h with (h | h) | rfl
  · exact (small_facts h).2.1
  · exact (digit_facts h).1
  · decide

/-- Without capitals, a word is a run of small letters or of digits. -/
theorem splitWord_of_isSnakeChar {cs : List Char} (h : ∀ c ∈ cs, isSnakeChar c = true) :
    splitWord cs = if (cs.takeWhile isSmall).isEmpty then
        (cs.takeWhile isAsciiDigit, cs.dropWhile isAsciiDigit)
      else (cs.takeWhile isSmall, cs.dropWhile isSmall) := by
  have hcapitals : cs.takeWhile isCapital = [] ∧ cs.dropWhile isCapital = cs := by
    cases cs with
    | nil => exact ⟨rfl, rfl⟩
    | cons c cs =>
      have hc := isCapital_of_isSnakeChar (h c List.mem_cons_self)
      simp [hc]
  unfold splitWord
  rw [hcapitals.1, hcapitals.2]
  rfl

/-- The word at the start of such a text, if there is one, and the characters behind it. -/
theorem isSnakeWord_splitWord {cs : List Char} (h : ∀ c ∈ cs, isSnakeChar c = true) :
    ((splitWord cs).1 ≠ [] → IsSnakeWord (splitWord cs).1) ∧
      ∀ c ∈ (splitWord cs).2, isSnakeChar c = true := by
  rw [splitWord_of_isSnakeChar h]
  split_ifs
  · exact ⟨fun hne => .number hne (List.all_takeWhile),
      fun c hc => h c ((List.dropWhile_suffix _).subset hc)⟩
  · exact ⟨fun hne => .small hne fun c hc => List.mem_takeWhile_imp hc,
      fun c hc => h c ((List.dropWhile_suffix _).subset hc)⟩

/-- The words of an identifier of a group. -/
theorem isSnakeWord_of_mem_words {s : String} (hs : ∀ c ∈ s.toList, isSnakeChar c = true)
    {w : List Char} (h : w ∈ words s) : IsSnakeWord w := by
  unfold words at h
  generalize s.toList.length = fuel at h
  generalize s.toList = cs at h hs
  induction fuel generalizing cs with
  | zero => simp [wordsWithin] at h
  | succ fuel ih =>
    cases cs with
    | nil => simp [wordsWithin] at h
    | cons c cs =>
      obtain ⟨hword, hrest⟩ := isSnakeWord_splitWord hs
      rw [wordsWithin] at h
      dsimp only at h
      split_ifs at h with hempty
      · exact ih _ h (List.forall_mem_cons.mp hs).2
      · rcases List.mem_cons.mp h with rfl | h
        · exact hword (by simpa using hempty)
        · exact ih _ h hrest

/-- An identifier that starts with a small letter has a word. -/
theorem words_ne_nil {s : String} {c : Char} {cs : List Char} (hs : s.toList = c :: cs)
    (hc : isSmall c = true) : words s ≠ [] := by
  have hword : (splitWord (c :: cs)).1 ≠ [] := by
    unfold splitWord
    simp [(small_facts hc).2.1, hc]
  rw [words, hs, List.length_cons, wordsWithin]
  dsimp only
  rw [if_neg (by simpa using hword)]
  simp

/-! ### Words put together -/

/-- The words with capitals and nothing between them. -/
def glued (ws : List (List Char)) : List Char :=
  (ws.map capitalized).flatten

theorem glued_cons (w : List Char) (ws : List (List Char)) :
    glued (w :: ws) = capitalized w ++ glued ws :=
  rfl

/-- A word in front of others, joined with the first of them if both are numbers. -/
def joinWord (w : List Char) : List (List Char) → List (List Char)
  | [] => [w]
  | w' :: ws => if isNumber w && isNumber w' then (w ++ w') :: ws else w :: w' :: ws

/-- The words with neighbouring numbers joined. -/
def joinNumbers (ws : List (List Char)) : List (List Char) :=
  ws.foldr joinWord []

/-- A digit is its own capital. -/
theorem capitalized_of_isNumber {w : List Char} (h : isNumber w = true) : capitalized w = w := by
  cases w with
  | nil => rfl
  | cons c cs =>
    rw [isNumber, List.all_cons, Bool.and_eq_true] at h
    rw [capitalized, (digit_facts h.1).2.1]

theorem capitalized_append {w : List Char} (h : w ≠ []) (w' : List Char) :
    capitalized (w ++ w') = capitalized w ++ w' := by
  cases w with
  | nil => exact absurd rfl h
  | cons c cs => rfl

theorem isNumber_append {w w' : List Char} (h : isNumber w = true) (h' : isNumber w' = true) :
    isNumber (w ++ w') = true := by
  rw [isNumber, List.all_append, Bool.and_eq_true]
  exact ⟨h, h'⟩

theorem glued_joinWord {w : List Char} (h : w ≠ []) (ws : List (List Char)) :
    glued (joinWord w ws) = capitalized w ++ glued ws := by
  cases ws with
  | nil => rfl
  | cons w' ws =>
    rw [joinWord]
    split_ifs with hnumbers
    · rw [Bool.and_eq_true] at hnumbers
      rw [glued_cons, glued_cons, capitalized_append h, capitalized_of_isNumber hnumbers.2,
        List.append_assoc]
    · rfl

/-- **Joining numbers** leaves what the words put together are. -/
theorem glued_joinNumbers {ws : List (List Char)} (h : ∀ w ∈ ws, IsSnakeWord w) :
    glued (joinNumbers ws) = glued ws := by
  induction ws with
  | nil => rfl
  | cons w ws ih =>
    obtain ⟨hw, hws⟩ := List.forall_mem_cons.mp h
    rw [joinNumbers, List.foldr_cons, glued_joinWord hw.ne_nil, ← joinNumbers, ih hws, glued_cons]

/-! ### Words without neighbouring numbers -/

/-- The words are words of identifiers of groups, and no two numbers are neighbours. -/
structure Apart (ws : List (List Char)) : Prop where
  words : ∀ w ∈ ws, IsSnakeWord w
  chain : ws.IsChain fun w w' => (isNumber w && isNumber w') = false

theorem Apart.tail {w : List Char} {ws : List (List Char)} (h : Apart (w :: ws)) : Apart ws :=
  ⟨(List.forall_mem_cons.mp h.words).2, h.chain.tail⟩

theorem apart_joinWord {w : List Char} {ws : List (List Char)} (hw : IsSnakeWord w)
    (h : Apart ws) : Apart (joinWord w ws) := by
  cases ws with
  | nil => exact ⟨by simpa [joinWord] using hw, by simp [joinWord]⟩
  | cons w' ws =>
    rw [joinWord]
    split_ifs with hnumbers
    · rw [Bool.and_eq_true] at hnumbers
      have hjoined := isNumber_append hnumbers.1 hnumbers.2
      refine ⟨List.forall_mem_cons.mpr ⟨.number (by simp [hw.ne_nil]) hjoined, h.tail.words⟩, ?_⟩
      cases ws with
      | nil => exact List.isChain_singleton _
      | cons w'' ws =>
        have hnext := (List.isChain_cons_cons.mp h.chain).1
        rw [hnumbers.2, Bool.true_and] at hnext
        exact List.isChain_cons_cons.mpr ⟨by rw [hnext, Bool.and_false], h.tail.chain⟩
    · exact ⟨List.forall_mem_cons.mpr ⟨hw, h.words⟩,
        List.isChain_cons_cons.mpr ⟨by simpa using hnumbers, h.chain⟩⟩

theorem apart_joinNumbers {ws : List (List Char)} (h : ∀ w ∈ ws, IsSnakeWord w) :
    Apart (joinNumbers ws) := by
  induction ws with
  | nil => exact ⟨by simp [joinNumbers], List.isChain_nil⟩
  | cons w ws ih =>
    obtain ⟨hw, hws⟩ := List.forall_mem_cons.mp h
    exact apart_joinWord hw (ih hws)

/-! ### Reading the words back -/

/-- A number or a capital, with which each of the words put together starts. -/
def startsWord (c : Char) : Bool :=
  isAsciiDigit c || isCapital c

theorem isSmall_of_startsWord {c : Char} (h : startsWord c = true) : isSmall c = false := by
  rw [startsWord, Bool.or_eq_true] at h
  cases hc : isSmall c
  · rfl
  · simp [(small_facts hc).1, (small_facts hc).2.1] at h

/-- A word starts with a digit or becomes one with a capital. -/
theorem IsSnakeWord.capitalized_cases {w : List Char} (h : IsSnakeWord w) :
    (isNumber w = true ∧ capitalized w = w ∧ ∃ c cs, w = c :: cs ∧ isAsciiDigit c = true) ∨
      isNumber w = false ∧ ∃ c cs, w = c :: cs ∧ isSmall c = true ∧
        (∀ d ∈ cs, isSmall d = true) ∧ isCapital (upperAscii c) = true := by
  cases h with
  | small hne hsmall =>
    cases w with
    | nil => exact absurd rfl hne
    | cons c cs =>
      obtain ⟨hc, hcs⟩ := List.forall_mem_cons.mp hsmall
      exact .inr ⟨by simp [isNumber, (small_facts hc).1], c, cs, rfl, hc, hcs,
        (small_facts hc).2.2.1⟩
  | number hne hnumber =>
    cases w with
    | nil => exact absurd rfl hne
    | cons c cs =>
      refine .inl ⟨hnumber, capitalized_of_isNumber hnumber, c, cs, rfl, ?_⟩
      exact List.all_eq_true.mp hnumber c List.mem_cons_self

/-- Words put together go on with a digit or a capital. -/
theorem startsWord_of_glued {ws : List (List Char)} (h : ∀ w ∈ ws, IsSnakeWord w) {c : Char}
    {cs : List Char} (hc : glued ws = c :: cs) :
    startsWord c = true ∧ ∃ w rest, ws = w :: rest ∧ isNumber w = isAsciiDigit c := by
  cases ws with
  | nil => exact absurd hc (by simp [glued])
  | cons w ws =>
    rw [glued_cons] at hc
    rcases (h w List.mem_cons_self).capitalized_cases with
      ⟨hnumber, hsame, d, ds, rfl, hd⟩ | ⟨hnumber, d, ds, rfl, hd, -, hcapital⟩
    · rw [hsame, List.cons_append, List.cons.injEq] at hc
      obtain ⟨rfl, -⟩ := hc
      exact ⟨by rw [startsWord, hd, Bool.true_or], _, _, rfl, by rw [hnumber, hd]⟩
    · rw [capitalized, List.cons_append, List.cons.injEq] at hc
      obtain ⟨rfl, -⟩ := hc
      refine ⟨by rw [startsWord, hcapital, Bool.or_true], _, _, rfl, ?_⟩
      rw [hnumber]
      cases hdigit : isAsciiDigit (upperAscii d)
      · rfl
      · exact absurd hcapital (by simp [(digit_facts hdigit).1])

/-- The first word of a text, read back up to the next capital or, for a number, the next
character that is no digit. -/
def firstWord : List Char → List Char
  | [] => []
  | c :: cs =>
    if isAsciiDigit c then c :: cs.takeWhile isAsciiDigit else c :: cs.takeWhile isSmall

/-- A run of characters ends at one that is not of its kind. -/
theorem takeWhile_append_of_head {p : Char → Bool} {run rest : List Char}
    (hrun : ∀ c ∈ run, p c = true) (hrest : ∀ c cs, rest = c :: cs → p c = false) :
    (run ++ rest).takeWhile p = run := by
  rw [List.takeWhile_append_of_pos hrun]
  cases rest with
  | nil => simp
  | cons c cs => simp [hrest c cs rfl]

/-- **The first word read back** from words put together. -/
theorem firstWord_glued {w : List Char} {ws : List (List Char)} (h : Apart (w :: ws)) :
    firstWord (glued (w :: ws)) = capitalized w := by
  obtain ⟨hw, hws⟩ := List.forall_mem_cons.mp h.words
  rw [glued_cons]
  rcases hw.capitalized_cases with
    ⟨hnumber, hsame, c, cs, rfl, hc⟩ | ⟨-, c, cs, rfl, hc, hcs, hcapital⟩
  · have hdigits := (List.forall_mem_cons.mp (List.all_eq_true.mp hnumber)).2
    rw [hsame, List.cons_append, firstWord, if_pos hc, takeWhile_append_of_head hdigits]
    intro d ds hd
    obtain ⟨-, w', rest, rfl, hnext⟩ := startsWord_of_glued hws hd
    have hpair := (List.isChain_cons_cons.mp h.chain).1
    rwa [hnumber, Bool.true_and, hnext] at hpair
  · have hdigit : isAsciiDigit (upperAscii c) = false := by
      cases hdigit : isAsciiDigit (upperAscii c)
      · rfl
      · exact absurd hcapital (by simp [(digit_facts hdigit).1])
    rw [capitalized, List.cons_append, firstWord, if_neg (by simp [hdigit]),
      takeWhile_append_of_head hcs]
    intro d ds hd
    exact isSmall_of_startsWord (startsWord_of_glued hws hd).1

theorem IsSnakeWord.exists_cons {w : List Char} (h : IsSnakeWord w) :
    ∃ c cs, w = c :: cs ∧ lowerAscii (upperAscii c) = c := by
  rcases h.capitalized_cases with ⟨-, -, c, cs, rfl, hc⟩ | ⟨-, c, cs, rfl, hc, -, -⟩
  · exact ⟨c, cs, rfl, by rw [(digit_facts hc).2.1, (digit_facts hc).2.2]⟩
  · exact ⟨c, cs, rfl, (small_facts hc).2.2.2⟩

/-- Words with the same capitalized form are the same. -/
theorem IsSnakeWord.eq_of_capitalized {w w' : List Char} (h : IsSnakeWord w) (h' : IsSnakeWord w')
    (heq : capitalized w = capitalized w') : w = w' := by
  obtain ⟨c, cs, rfl, hc⟩ := h.exists_cons
  obtain ⟨c', cs', rfl, hc'⟩ := h'.exists_cons
  obtain ⟨hhead, rfl⟩ := List.cons.inj heq
  rw [← hc, hhead, hc']

theorem glued_ne_nil {w : List Char} {ws : List (List Char)} (h : IsSnakeWord w) :
    glued (w :: ws) ≠ [] := by
  obtain ⟨c, cs, rfl, -⟩ := h.exists_cons
  simp [glued_cons, capitalized]

/-- **Words put together** tell the words, if no two numbers are neighbours. -/
theorem eq_of_glued {ws ws' : List (List Char)} (h : Apart ws) (h' : Apart ws')
    (heq : glued ws = glued ws') : ws = ws' := by
  induction ws generalizing ws' with
  | nil =>
    cases ws' with
    | nil => rfl
    | cons w' ws' => exact absurd heq.symm (glued_ne_nil (h'.words w' List.mem_cons_self))
  | cons w ws ih =>
    cases ws' with
    | nil => exact absurd heq (glued_ne_nil (h.words w List.mem_cons_self))
    | cons w' ws' =>
      have hcapitalized : capitalized w = capitalized w' := by
        rw [← firstWord_glued h, heq, firstWord_glued h']
      have hw : w = w' := (h.words w List.mem_cons_self).eq_of_capitalized
        (h'.words w' List.mem_cons_self) hcapitalized
      subst hw
      rw [ih h.tail h'.tail (List.append_cancel_left heq)]

/-- **The words put together** are the same exactly for texts with the same words when
neighbouring numbers are joined. -/
theorem pascalCase_eq_iff {s t : String} (hs : ∀ c ∈ s.toList, isSnakeChar c = true)
    (ht : ∀ c ∈ t.toList, isSnakeChar c = true) :
    pascalCase s = pascalCase t ↔ joinNumbers (words s) = joinNumbers (words t) := by
  have hswords : ∀ w ∈ words s, IsSnakeWord w := fun _ => isSnakeWord_of_mem_words hs
  have htwords : ∀ w ∈ words t, IsSnakeWord w := fun _ => isSnakeWord_of_mem_words ht
  have hglued : pascalCase s = pascalCase t ↔ glued (words s) = glued (words t) := by
    rw [← String.toList_inj, toList_pascalCase, toList_pascalCase]
    rfl
  rw [hglued, ← glued_joinNumbers hswords, ← glued_joinNumbers htwords]
  exact ⟨eq_of_glued (apart_joinNumbers hswords) (apart_joinNumbers htwords), congrArg glued⟩

-- the underscore between two numbers is lost
example : pascalCase "t1_2" = "T12" ∧ pascalCase "t12" = "T12" := by decide

/-- The words put together of an identifier that starts with a small letter are not empty. -/
theorem pascalCase_ne_empty {s : String} {c : Char} {cs : List Char} (hs : s.toList = c :: cs)
    (hc : isSmall c = true) (hchars : ∀ d ∈ s.toList, isSnakeChar d = true) :
    pascalCase s ≠ "" := by
  obtain ⟨w, ws, hwords⟩ := List.exists_cons_of_ne_nil (words_ne_nil hs hc)
  have hw : IsSnakeWord w := isSnakeWord_of_mem_words hchars (hwords ▸ List.mem_cons_self)
  intro hempty
  have hglued : glued (words s) = [] := by
    rw [glued, ← toList_pascalCase, hempty]
    rfl
  exact glued_ne_nil hw (hwords ▸ hglued)

end FragmentRoutes.Naming
