import FragmentRoutes.Text.Blank
import Mathlib.Data.List.Basic
import Mathlib.Data.List.TakeWhile

/-!
# Words of a text

`words` cuts a text at its blanks and `unwords` joins words with single spaces.  What is cut
out are words (`isWord_of_mem_words`), blanks around a text change nothing
(`words_blanks_append`, `words_append_blanks`), the first word is found where it stands
(`exists_append_of_words_eq_cons`), and words that were joined are cut out again
(`words_unwords`).  So the collapsed form of a text is the one form of it with single spaces
(`collapse_ofList_unwords`): collapsing a text in this form changes nothing.
-/

namespace FragmentRoutes.Text

/-- A **word** is not empty and holds no blank. -/
structure IsWord (w : List Char) : Prop where
  ne_nil : w ≠ []
  not_blank : ∀ c ∈ w, isBlank c = false

/-! ### Cutting -/

/-- Characters that are not blank go to the run being read. -/
theorem wordsFrom_append {w : List Char} (hw : ∀ c ∈ w, isBlank c = false)
    (run rest : List Char) :
    wordsFrom run (w ++ rest) = wordsFrom (w.reverse ++ run) rest := by
  induction w generalizing run with
  | nil => rfl
  | cons c w ih =>
    have hc : isBlank c = false := hw c List.mem_cons_self
    have hw' : ∀ d ∈ w, isBlank d = false := fun d hd => hw d (List.mem_cons_of_mem _ hd)
    rw [List.cons_append, wordsFrom, if_neg (by rw [hc]; simp), ih hw', List.reverse_cons,
      List.append_assoc, List.singleton_append]

/-- A blank ends the run being read, and the text behind it is cut for itself. -/
theorem wordsFrom_append_blank {c : Char} (hc : isBlank c = true) (run cs rest : List Char) :
    wordsFrom run (cs ++ c :: rest) = wordsFrom run cs ++ words rest := by
  induction cs generalizing run with
  | nil =>
    rw [List.nil_append, wordsFrom, wordsFrom, if_pos hc]
    split_ifs <;> rfl
  | cons d cs ih =>
    rw [List.cons_append, wordsFrom, wordsFrom, ih, ih]
    split_ifs <;> rfl

/-- Blanks in front of a text hold no words. -/
theorem words_blanks_append {gap : List Char} (hgap : ∀ c ∈ gap, isBlank c = true)
    (rest : List Char) : words (gap ++ rest) = words rest := by
  induction gap with
  | nil => rfl
  | cons c gap ih =>
    have hc : isBlank c = true := hgap c List.mem_cons_self
    rw [List.cons_append, words, ← List.nil_append (c :: (gap ++ rest)),
      wordsFrom_append_blank hc, ih fun d hd => hgap d (List.mem_cons_of_mem _ hd)]
    rfl

/-- Blanks behind a text hold no words. -/
theorem words_append_blanks {gap : List Char} (hgap : ∀ c ∈ gap, isBlank c = true)
    (cs : List Char) : words (cs ++ gap) = words cs := by
  cases gap with
  | nil => rw [List.append_nil]
  | cons c gap =>
    have hrest := words_blanks_append (fun d hd => hgap d (List.mem_cons_of_mem _ hd)) []
    rw [List.append_nil] at hrest
    rw [words, wordsFrom_append_blank (hgap c List.mem_cons_self), hrest]
    exact List.append_nil _

/-- What is cut out of a text are words, if the run being read holds no blank. -/
theorem isWord_of_mem_wordsFrom {run : List Char} (hrun : ∀ c ∈ run, isBlank c = false)
    {cs w : List Char} (h : w ∈ wordsFrom run cs) : IsWord w := by
  -- a run that is not empty is a word when it is closed
  have hclose : ∀ {run : List Char}, (∀ c ∈ run, isBlank c = false) → run.isEmpty = false →
      IsWord run.reverse := fun hrun hne =>
    ⟨by simpa using hne, fun c hc => hrun c (List.mem_reverse.mp hc)⟩
  induction cs generalizing run with
  | nil =>
    rw [wordsFrom] at h
    split_ifs at h with hne
    · cases h
    · obtain rfl := List.mem_singleton.mp h
      exact hclose hrun (by simpa using hne)
  | cons c cs ih =>
    rw [wordsFrom] at h
    split_ifs at h with hc hne
    · exact ih (by simp) h
    · rcases List.mem_cons.mp h with rfl | h
      · exact hclose hrun (by simpa using hne)
      · exact ih (by simp) h
    · -- the character goes to the run, which still holds no blank
      refine ih (fun d hd => ?_) h
      rcases List.mem_cons.mp hd with rfl | hd
      · simpa using hc
      · exact hrun d hd

/-- What is cut out of a text are words. -/
theorem isWord_of_mem_words {cs w : List Char} (h : w ∈ words cs) : IsWord w :=
  isWord_of_mem_wordsFrom (by simp) h

/-! ### Joining -/

/-- A text that is a word is cut into itself. -/
theorem words_of_isWord {w : List Char} (hw : IsWord w) : words w = [w] := by
  have h := wordsFrom_append hw.not_blank [] []
  rw [List.append_nil, List.append_nil] at h
  rw [words, h, wordsFrom, if_neg (by simpa using hw.ne_nil), List.reverse_reverse]

/-- **A word is cut off** at the blank behind it or at the end of the text. -/
theorem words_isWord_append {w : List Char} (hw : IsWord w) {rest : List Char}
    (hrest : ∀ c ∈ rest.head?, isBlank c = true) : words (w ++ rest) = w :: words rest := by
  cases rest with
  | nil => rw [List.append_nil, words_of_isWord hw]; rfl
  | cons c rest =>
    have hc : isBlank c = true := hrest c rfl
    have hskip : words ([c] ++ rest) = words rest := words_blanks_append (by simpa using hc) rest
    rw [words, wordsFrom_append_blank hc, ← words, words_of_isWord hw, ← hskip]
    rfl

/-- What is not blank ends at a blank or at the end of the text. -/
theorem isBlank_of_mem_head?_dropWhile {cs : List Char} :
    ∀ c ∈ (cs.dropWhile (!isBlank ·)).head?, isBlank c = true := by
  intro c hc
  have hnot := List.head?_dropWhile_not (!isBlank ·) cs
  rw [hc] at hnot
  simpa using hnot

/-- A word that is started reaches up to the next blank. -/
theorem words_started {w : List Char} (hw : IsWord w) (cs : List Char) :
    words (w ++ cs) = (w ++ cs.takeWhile (!isBlank ·)) :: words (cs.dropWhile (!isBlank ·)) := by
  have hword : IsWord (w ++ cs.takeWhile (!isBlank ·)) := by
    refine ⟨List.append_ne_nil_of_left_ne_nil hw.ne_nil _, List.forall_mem_append.mpr
      ⟨hw.not_blank, fun c hc => ?_⟩⟩
    simpa using List.mem_takeWhile_imp hc
  rw [← words_isWord_append hword isBlank_of_mem_head?_dropWhile, List.append_assoc,
    List.takeWhile_append_dropWhile]

/-- **The first word of a text** stands behind blanks and reaches to a blank or to the end. -/
theorem exists_append_of_words_eq_cons {cs w : List Char} {ws : List (List Char)}
    (h : words cs = w :: ws) : ∃ gap rest, cs = gap ++ (w ++ rest) ∧
      (∀ c ∈ gap, isBlank c = true) ∧ (∀ c ∈ rest.head?, isBlank c = true) ∧ words rest = ws := by
  have hgap : ∀ c ∈ cs.takeWhile isBlank, isBlank c = true := fun c hc => List.mem_takeWhile_imp hc
  have hcut := List.takeWhile_append_dropWhile (p := isBlank) (l := cs)
  rw [← hcut, words_blanks_append hgap] at h
  cases htext : cs.dropWhile isBlank with
  | nil =>
    rw [htext] at h
    cases h
  | cons c text =>
    have hc : IsWord [c] := by
      have hnot := List.head?_dropWhile_not isBlank cs
      rw [htext] at hnot
      exact ⟨List.cons_ne_nil _ _, List.forall_mem_singleton.mpr hnot⟩
    rw [htext, ← List.singleton_append, words_started hc, List.cons.injEq] at h
    obtain ⟨rfl, rfl⟩ := h
    refine ⟨_, text.dropWhile (!isBlank ·), ?_, hgap, isBlank_of_mem_head?_dropWhile, rfl⟩
    rw [List.append_assoc, List.takeWhile_append_dropWhile, List.singleton_append, ← htext, hcut]

/-- **Words that were joined with single spaces are cut out again.** -/
theorem words_unwords {ws : List (List Char)} (h : ∀ w ∈ ws, IsWord w) :
    words (unwords ws) = ws := by
  induction ws with
  | nil => rfl
  | cons w ws ih =>
    have hw : IsWord w := h w List.mem_cons_self
    have hws : ∀ v ∈ ws, IsWord v := fun v hv => h v (List.mem_cons_of_mem _ hv)
    cases ws with
    | nil => rw [unwords, List.intercalate_singleton, words_of_isWord hw]
    | cons v vs =>
      have hspace : ∀ c ∈ (' ' :: unwords (v :: vs)).head?, isBlank c = true := by
        rintro c ⟨⟩
        decide
      have hrest : words (' ' :: unwords (v :: vs)) = words (unwords (v :: vs)) :=
        words_blanks_append (List.forall_mem_singleton.mpr rfl) _
      rw [unwords, List.intercalate_cons_cons, List.append_assoc, List.singleton_append, ← unwords,
        words_isWord_append hw hspace, hrest, ih hws]

/-- One more word comes behind one more space. -/
theorem unwords_append_singleton {ws : List (List Char)} (hne : ws ≠ []) (w : List Char) :
    unwords (ws ++ [w]) = unwords ws ++ ' ' :: w := by
  induction ws with
  | nil => exact absurd rfl hne
  | cons v ws ih =>
    cases ws with
    | nil => simp [unwords]
    | cons u ws =>
      rw [unwords, List.cons_append, List.cons_append, List.intercalate_cons_cons,
        ← List.cons_append, ← unwords, ih (List.cons_ne_nil u ws), unwords, unwords,
        List.intercalate_cons_cons, ← List.append_assoc]

/-- Collapsing changes nothing in words that are joined with single spaces. -/
theorem collapse_ofList_unwords {ws : List (List Char)} (h : ∀ w ∈ ws, IsWord w) :
    collapse (String.ofList (unwords ws)) = String.ofList (unwords ws) := by
  rw [collapse, String.toList_ofList, words_unwords h]

end FragmentRoutes.Text
