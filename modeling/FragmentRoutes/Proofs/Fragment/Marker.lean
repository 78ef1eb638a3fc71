import FragmentRoutes.Fragment.Block
import Mathlib.Data.List.Infix
import Mathlib.Data.List.TakeWhile
import Mathlib.Tactic.Common

/-!
# Markers of blocks

A marker is a comment around a word, with a hyphen and blanks at either end if its author likes
(`Frame`): `end` closes a block, and `define` with a quoted name opens one (`IsClosing`,
`IsOpening`).  What the reader takes for a marker is one (`openMarker?_eq_some`,
`closeMarker?_eq_some`), and it takes every marker for one (`isSome_openMarker?`,
`closeMarker?_append`).  It reads the name that was written if the name does not hold the quote
that it is written in (`openMarker?_append`); otherwise the name may end earlier.
-/

namespace FragmentRoutes.Block

open Text

/-! ### What markers are -/

/-- An optional hyphen. -/
def hyphen (isThere : Bool) : List Char :=
  if isThere then ['-'] else []

/-- How a comment is set around a word. -/
structure Frame where
  startHyphen : Bool
  before : List Char
  after : List Char
  endHyphen : Bool
  before_blank : ∀ c ∈ before, isBlank c = true
  after_blank : ∀ c ∈ after, isBlank c = true

/-- The characters of a comment around a word. -/
def Frame.around (frame : Frame) (word : List Char) : List Char :=
  ['\x7b', '#'] ++ (hyphen frame.startHyphen ++ frame.before) ++ word ++
    (frame.after ++ hyphen frame.endHyphen ++ ['#', '\x7d'])

/-- The characters are a marker that opens a block: a comment with a name of one line in quotes. -/
def IsOpening (quote : Char) (name : String) (marker : List Char) : Prop :=
  (quote = '"' ∨ quote = '\'') ∧ name.toList ≠ [] ∧ '\n' ∉ name.toList ∧
    ∃ frame : Frame, ∃ blanks, blanks ≠ [] ∧ (∀ c ∈ blanks, isBlank c = true) ∧
      marker = frame.around ("define".toList ++ blanks ++ quote :: (name.toList ++ [quote]))

/-- The characters are a marker that closes a block. -/
def IsClosing (marker : List Char) : Prop :=
  ∃ frame : Frame, marker = frame.around "end".toList

/-- No marker that opens a block stands anywhere in the characters. -/
def HasNoOpening (cs : List Char) : Prop :=
  ∀ quote name marker, IsOpening quote name marker → ¬marker <:+: cs

/-- No marker that closes a block stands anywhere in the characters. -/
def HasNoClosing (cs : List Char) : Prop :=
  ∀ marker, IsClosing marker → ¬marker <:+: cs

theorem Frame.around_eq_cons (frame : Frame) (word : List Char) :
    ∃ tail, frame.around word = '\x7b' :: tail :=
  ⟨_, rfl⟩

theorem IsOpening.eq_cons {quote : Char} {name : String} {marker : List Char}
    (h : IsOpening quote name marker) : ∃ tail, marker = '\x7b' :: tail := by
  obtain ⟨-, -, -, frame, blanks, -, -, rfl⟩ := h
  exact frame.around_eq_cons _

theorem IsClosing.eq_cons {marker : List Char} (h : IsClosing marker) :
    ∃ tail, marker = '\x7b' :: tail := by
  obtain ⟨frame, rfl⟩ := h
  exact frame.around_eq_cons _

/-! ### Blanks and hyphens -/

theorem isBlank_hyphen : isBlank '-' = false := by decide

theorem dropWhile_isBlank_append {blanks rest : List Char} (h : ∀ c ∈ blanks, isBlank c = true) :
    (blanks ++ rest).dropWhile isBlank = rest.dropWhile isBlank :=
  List.dropWhile_append_of_pos h

theorem dropWhile_isBlank_of_head {c : Char} {cs : List Char} (h : isBlank c = false) :
    (c :: cs).dropWhile isBlank = c :: cs := by
  rw [List.dropWhile_cons_of_neg (by rw [h]; exact Bool.false_ne_true)]

/-- Characters are the blanks at their start and what follows these. -/
theorem exists_eq_blanks_append (cs : List Char) :
    ∃ blanks, (∀ c ∈ blanks, isBlank c = true) ∧ cs = blanks ++ cs.dropWhile isBlank :=
  ⟨cs.takeWhile isBlank, fun _ hc => List.mem_takeWhile_imp hc,
    (List.takeWhile_append_dropWhile).symm⟩

theorem afterHyphen_hyphen_append (isThere : Bool) {c : Char} {cs : List Char} (h : c ≠ '-') :
    afterHyphen (hyphen isThere ++ c :: cs) = c :: cs := by
  cases isThere with
  | true => rfl
  | false =>
    rw [hyphen, if_neg Bool.false_ne_true, List.nil_append, afterHyphen]
    intro cs' hcs
    exact h (List.cons.inj hcs).1

/-- Characters are an optional hyphen and what follows it. -/
theorem exists_eq_hyphen_append (cs : List Char) :
    ∃ isThere, cs = hyphen isThere ++ afterHyphen cs := by
  unfold afterHyphen
  split
  · exact ⟨true, rfl⟩
  · exact ⟨false, rfl⟩

theorem afterWord_eq_some {word cs rest : List Char} :
    afterWord word cs = some rest ↔ cs = word ++ rest := by
  rw [afterWord]
  split_ifs with h
  · obtain ⟨more, rfl⟩ := List.isPrefixOf_iff_prefix.mp h
    simp [eq_comm]
  · refine iff_of_false (by simp) ?_
    rintro rfl
    exact h (List.isPrefixOf_iff_prefix.mpr (List.prefix_append _ _))

/-! ### The two ends of a comment -/

/-- What is read as the start of a comment with a word is one. -/
theorem afterKeyword_eq_some {word : String} {cs rest : List Char}
    (h : afterKeyword word cs = some rest) :
    ∃ isThere blanks, (∀ c ∈ blanks, isBlank c = true) ∧
      cs = ['\x7b', '#'] ++ (hyphen isThere ++ blanks) ++ word.toList ++ rest := by
  rw [afterKeyword] at h
  obtain ⟨inside, hinside, hword⟩ := Option.bind_eq_some_iff.mp h
  rw [afterWord_eq_some] at hinside hword
  obtain ⟨isThere, hhyphen⟩ := exists_eq_hyphen_append inside
  obtain ⟨blanks, hblanks, hafter⟩ := exists_eq_blanks_append (afterHyphen inside)
  refine ⟨isThere, blanks, hblanks, ?_⟩
  calc cs = ['\x7b', '#'] ++ (hyphen isThere ++ (blanks ++ (word.toList ++ rest))) := by
        rw [hinside, hhyphen, hafter, hword]
    _ = _ := by simp only [List.append_assoc]

/-- The start of a comment with a word is read as one. -/
theorem afterKeyword_append {word : String} {c : Char} {letters : List Char}
    (hword : word.toList = c :: letters) (hblank : isBlank c = false) (hhyphen : c ≠ '-')
    (isThere : Bool) {blanks : List Char} (hblanks : ∀ c ∈ blanks, isBlank c = true)
    (rest : List Char) :
    afterKeyword word (['\x7b', '#'] ++ (hyphen isThere ++ blanks) ++ word.toList ++ rest) =
      some rest := by
  have hinside : afterHyphen (hyphen isThere ++ (blanks ++ (word.toList ++ rest))) =
      blanks ++ (word.toList ++ rest) := by
    cases blanks with
    | nil =>
      rw [List.nil_append, hword, List.cons_append]
      exact afterHyphen_hyphen_append isThere hhyphen
    | cons b blanks =>
      refine afterHyphen_hyphen_append isThere ?_
      rintro rfl
      exact Bool.false_ne_true (isBlank_hyphen.symm.trans (hblanks _ List.mem_cons_self))
  have hdrop : (blanks ++ (word.toList ++ rest)).dropWhile isBlank = word.toList ++ rest := by
    rw [dropWhile_isBlank_append hblanks, hword, List.cons_append, dropWhile_isBlank_of_head hblank]
  rw [afterKeyword]
  refine Option.bind_eq_some_iff.mpr ⟨hyphen isThere ++ (blanks ++ (word.toList ++ rest)), ?_, ?_⟩
  · rw [afterWord_eq_some]
    simp only [List.append_assoc]
  · rw [hinside, hdrop, afterWord_eq_some]

/-- **What is read as the end of a comment is one, and the other way round.** -/
theorem afterComment_eq_some {cs rest : List Char} :
    afterComment cs = some rest ↔ ∃ blanks isThere, (∀ c ∈ blanks, isBlank c = true) ∧
      cs = blanks ++ hyphen isThere ++ ['#', '\x7d'] ++ rest := by
  rw [afterComment, afterWord_eq_some]
  constructor
  · intro h
    obtain ⟨blanks, hblanks, hcs⟩ := exists_eq_blanks_append cs
    obtain ⟨isThere, hhyphen⟩ := exists_eq_hyphen_append (cs.dropWhile isBlank)
    refine ⟨blanks, isThere, hblanks, ?_⟩
    rw [List.append_assoc, List.append_assoc, ← h, ← hhyphen, ← hcs]
  · rintro ⟨blanks, isThere, hblanks, rfl⟩
    have hdrop : (hyphen isThere ++ '#' :: '\x7d' :: rest).dropWhile isBlank =
        hyphen isThere ++ '#' :: '\x7d' :: rest := by
      cases isThere with
      | true => exact dropWhile_isBlank_of_head isBlank_hyphen
      | false => exact dropWhile_isBlank_of_head (by decide)
    rw [List.append_assoc, List.append_assoc, dropWhile_isBlank_append hblanks]
    change afterHyphen ((hyphen isThere ++ '#' :: '\x7d' :: rest).dropWhile isBlank) = _
    rw [hdrop]
    exact afterHyphen_hyphen_append isThere (by decide)

/-! ### Markers that close a block -/

/-- What is read as a marker that closes a block is one. -/
theorem closeMarker?_eq_some {cs rest : List Char} (h : closeMarker? cs = some rest) :
    ∃ marker, IsClosing marker ∧ cs = marker ++ rest := by
  rw [closeMarker?] at h
  obtain ⟨inside, hinside, hend⟩ := Option.bind_eq_some_iff.mp h
  obtain ⟨startHyphen, before, hbefore, rfl⟩ := afterKeyword_eq_some hinside
  obtain ⟨after, endHyphen, hafter, rfl⟩ := afterComment_eq_some.mp hend
  refine ⟨_, ⟨⟨startHyphen, before, after, endHyphen, hbefore, hafter⟩, rfl⟩, ?_⟩
  simp only [Frame.around, List.append_assoc]

/-- **A marker that closes a block is read as one.** -/
theorem closeMarker?_append {marker : List Char} (h : IsClosing marker) (rest : List Char) :
    closeMarker? (marker ++ rest) = some rest := by
  obtain ⟨frame, rfl⟩ := h
  have hkeyword : "end".toList = 'e' :: ['n', 'd'] := rfl
  have hinside := afterKeyword_append hkeyword (by decide) (by decide) frame.startHyphen
    frame.before_blank (frame.after ++ hyphen frame.endHyphen ++ ['#', '\x7d'] ++ rest)
  rw [closeMarker?]
  refine Option.bind_eq_some_iff.mpr ⟨_, ?_, afterComment_eq_some.mpr
    ⟨frame.after, frame.endHyphen, frame.after_blank, rfl⟩⟩
  simpa only [Frame.around, List.append_assoc] using hinside

/-! ### Quoted names -/

/-- The name that is read goes on with what stands before a quote that the end of the comment
follows. -/
theorem closeName_eq_some {quote : Char} (hquote : quote ≠ '\n') {name cs rest : List Char}
    {whole : String} (h : closeName quote name cs = some (whole, rest)) :
    ∃ more tail, cs = more ++ quote :: tail ∧ whole = String.ofList (name.reverse ++ more) ∧
      name.reverse ++ more ≠ [] ∧ '\n' ∉ more ∧ afterComment tail = some rest := by
  induction cs generalizing name with
  | nil => cases h
  | cons c cs ih =>
    -- the character belongs to the name
    have hgo : ∀ {n}, n = c :: name → c ≠ '\n' → closeName quote n cs = some (whole, rest) →
        ∃ more tail, c :: cs = more ++ quote :: tail ∧
          whole = String.ofList (name.reverse ++ more) ∧ name.reverse ++ more ≠ [] ∧
            '\n' ∉ more ∧ afterComment tail = some rest := by
      rintro n rfl hline h
      obtain ⟨more, tail, rfl, hwhole, -, hmore, htail⟩ := ih h
      refine ⟨c :: more, tail, rfl, ?_, by simp, ?_, htail⟩
      · rw [hwhole, List.reverse_cons, List.append_assoc, List.singleton_append]
      · rw [List.mem_cons, not_or]
        exact ⟨hline.symm, hmore⟩
    rw [closeName] at h
    split_ifs at h with hend hline
    · rw [Bool.and_eq_true, beq_iff_eq] at hend
      obtain ⟨rfl, hname⟩ := hend
      split at h
      · rename_i tail htail
        simp only [Option.some.injEq, Prod.mk.injEq] at h
        obtain ⟨rfl, rfl⟩ := h
        refine ⟨[], cs, rfl, by rw [List.append_nil], ?_, List.not_mem_nil, htail⟩
        simpa using hname
      · exact hgo rfl hquote h
    · exact hgo rfl (by simpa using hline) h

/-- A name is read as it stands if it does not hold its quote. -/
theorem closeName_append {quote : Char} {name more tail rest : List Char}
    (hne : name.reverse ++ more ≠ []) (hquote : quote ∉ more) (hline : '\n' ∉ more)
    (htail : afterComment tail = some rest) :
    closeName quote name (more ++ quote :: tail) =
      some (String.ofList (name.reverse ++ more), rest) := by
  induction more generalizing name with
  | nil =>
    have hname : name.isEmpty = false := by simpa using hne
    rw [List.nil_append, closeName, if_pos (by simp [hname]), htail, List.append_nil]
  | cons c more ih =>
    rw [List.mem_cons, not_or] at hquote hline
    have hc : ¬(c == quote && !name.isEmpty) = true := by simp [Ne.symm hquote.1]
    have hc' : ¬(c == '\n') = true := by simpa using Ne.symm hline.1
    rw [List.cons_append, closeName, if_neg hc, if_neg hc', ih (by simp) hquote.2 hline.2,
      List.reverse_cons, List.append_assoc, List.singleton_append]

/-- Some name is read if a quote follows that the end of the comment follows. -/
theorem isSome_closeName {quote : Char} {name more tail rest : List Char}
    (hne : name.reverse ++ more ≠ []) (hline : '\n' ∉ more)
    (htail : afterComment tail = some rest) :
    (closeName quote name (more ++ quote :: tail)).isSome = true := by
  induction more generalizing name with
  | nil =>
    rw [closeName_append hne List.not_mem_nil List.not_mem_nil htail]
    rfl
  | cons c more ih =>
    rw [List.mem_cons, not_or] at hline
    have hc' : ¬(c == '\n') = true := by simpa using Ne.symm hline.1
    have hmore : (closeName quote (c :: name) (more ++ quote :: tail)).isSome = true :=
      ih (by simp) hline.2
    rw [List.cons_append, closeName]
    split_ifs
    · split
      · rfl
      · exact hmore
    · exact hmore

/-! ### Markers that open a block -/

/-- What a marker that opens a block is read by: what follows its word. -/
theorem openMarker?_eq_bind (cs : List Char) : openMarker? cs =
    (afterKeyword "define" cs).bind fun rest =>
      match rest.dropWhile isBlank with
      | q :: name =>
        if (q == '"' || q == '\'') && rest.head?.any isBlank then closeName q [] name else none
      | [] => none :=
  rfl

theorem ne_newline_of_isQuote {q : Char} (h : q = '"' ∨ q = '\'') : q ≠ '\n' := by
  rcases h with rfl | rfl <;> decide

theorem isBlank_of_isQuote {q : Char} (h : q = '"' ∨ q = '\'') : isBlank q = false := by
  rcases h with rfl | rfl <;> decide

/-- What is read as a marker that opens a block is one. -/
theorem openMarker?_eq_some {cs rest : List Char} {name : String}
    (h : openMarker? cs = some (name, rest)) :
    ∃ quote marker, IsOpening quote name marker ∧ cs = marker ++ rest := by
  rw [openMarker?_eq_bind] at h
  obtain ⟨inside, hinside, hname⟩ := Option.bind_eq_some_iff.mp h
  obtain ⟨startHyphen, before, hbefore, rfl⟩ := afterKeyword_eq_some hinside
  obtain ⟨blanks, hblanks, hrest⟩ := exists_eq_blanks_append inside
  split at hname
  · rename_i q text hq
    split_ifs at hname with hcond
    rw [Bool.and_eq_true, Bool.or_eq_true, beq_iff_eq, beq_iff_eq] at hcond
    obtain ⟨hquote, hblank⟩ := hcond
    obtain ⟨more, tail, rfl, rfl, hne, hline, htail⟩ :=
      closeName_eq_some (ne_newline_of_isQuote hquote) hname
    obtain ⟨after, endHyphen, hafter, rfl⟩ := afterComment_eq_some.mp htail
    have hblanks_ne : blanks ≠ [] := by
      rintro rfl
      rw [List.nil_append] at hrest
      rw [hrest, hq] at hblank
      exact Bool.false_ne_true ((isBlank_of_isQuote hquote).symm.trans hblank)
    refine ⟨q, _, ⟨hquote, ?_, ?_,
      ⟨startHyphen, before, after, endHyphen, hbefore, hafter⟩, blanks, hblanks_ne, hblanks, rfl⟩, ?_⟩
    · simpa using hne
    · simpa using hline
    · rw [hq] at hrest
      rw [hrest]
      simp [Frame.around]
  · cases hname

/-- A marker that opens a block is read up to its name. -/
theorem openMarker?_append_eq {quote : Char} {name : String} (hquote : quote = '"' ∨ quote = '\'')
    (frame : Frame) {blanks : List Char} (hne : blanks ≠ [])
    (hblanks : ∀ c ∈ blanks, isBlank c = true) (rest : List Char) :
    openMarker? (frame.around ("define".toList ++ blanks ++ quote :: (name.toList ++ [quote])) ++
      rest) = closeName quote [] (name.toList ++ quote ::
        (frame.after ++ hyphen frame.endHyphen ++ ['#', '\x7d'] ++ rest)) := by
  have hkeyword : "define".toList = 'd' :: ['e', 'f', 'i', 'n', 'e'] := rfl
  have hinside := afterKeyword_append hkeyword (by decide) (by decide) frame.startHyphen
    frame.before_blank (blanks ++ quote :: (name.toList ++ quote ::
      (frame.after ++ hyphen frame.endHyphen ++ ['#', '\x7d'] ++ rest)))
  have hhead : (blanks ++ quote :: (name.toList ++ quote :: (frame.after ++
      hyphen frame.endHyphen ++ ['#', '\x7d'] ++ rest))).head?.any isBlank = true := by
    obtain ⟨b, blanks, rfl⟩ := List.exists_cons_of_ne_nil hne
    exact hblanks b List.mem_cons_self
  have hquoteMark : (quote == '"' || quote == '\'') = true := by
    rcases hquote with rfl | rfl <;> rfl
  rw [openMarker?_eq_bind]
  have hcs : frame.around ("define".toList ++ blanks ++ quote :: (name.toList ++ [quote])) ++ rest =
      ['\x7b', '#'] ++ (hyphen frame.startHyphen ++ frame.before) ++ "define".toList ++
        (blanks ++ quote :: (name.toList ++ quote ::
          (frame.after ++ hyphen frame.endHyphen ++ ['#', '\x7d'] ++ rest))) := by
    simp [Frame.around]
  rw [hcs, hinside, Option.bind_some, dropWhile_isBlank_append hblanks,
    dropWhile_isBlank_of_head (isBlank_of_isQuote hquote)]
  dsimp only
  rw [hhead, hquoteMark, Bool.and_self, if_pos rfl]

/-- **A marker that opens a block is read with the name in it**, if the name does not hold its
quote. -/
theorem openMarker?_append {quote : Char} {name : String} {marker : List Char}
    (h : IsOpening quote name marker) (hname : quote ∉ name.toList) (rest : List Char) :
    openMarker? (marker ++ rest) = some (name, rest) := by
  obtain ⟨hquote, hne, hline, frame, blanks, hblanks_ne, hblanks, rfl⟩ := h
  rw [openMarker?_append_eq hquote frame hblanks_ne hblanks, closeName_append hne hname hline
    (afterComment_eq_some.mpr ⟨frame.after, frame.endHyphen, frame.after_blank, rfl⟩)]
  simp

/-- Every marker that opens a block is read as one. -/
theorem isSome_openMarker? {quote : Char} {name : String} {marker : List Char}
    (h : IsOpening quote name marker) (rest : List Char) :
    (openMarker? (marker ++ rest)).isSome = true := by
  obtain ⟨hquote, hne, hline, frame, blanks, hblanks_ne, hblanks, rfl⟩ := h
  rw [openMarker?_append_eq hquote frame hblanks_ne hblanks]
  exact isSome_closeName hne hline
    (afterComment_eq_some.mpr ⟨frame.after, frame.endHyphen, frame.after_blank, rfl⟩)

end FragmentRoutes.Block
