import FragmentRoutes.Proofs.Route.LabelReading

/-!
# What a label starts with

Whether a name is a label is decided by the text before its first slash: it is the *front* of a
label, which is blanks, perhaps a word of letters with blanks behind it, and a host or nothing
(`IsFront`).  The letters need not name a method and the text behind the slash need not spell a
path: such a name is a malformed label and no ordinary name (`parse_eq_ok_none_iff`).

Reading the words of a name backwards gives its front (`exists_isFront_of_parts?`), and a front is
cut into the words of a label (`IsFront.isSome_parts?`).
-/

namespace FragmentRoutes.Route.Label

/-! ### Hosts are of the grammar -/

theorem splitDots_ne_nil (cs : List Char) : splitDots cs ≠ [] := by
  cases cs with
  | nil => exact List.cons_ne_nil _ _
  | cons c cs =>
    rw [splitDots]
    split_ifs
    · exact List.cons_ne_nil _ _
    · split <;> exact List.cons_ne_nil _ _

/-- The parts between the dots make up the text. -/
theorem intercalate_splitDots (cs : List Char) : ['.'].intercalate (splitDots cs) = cs := by
  induction cs with
  | nil => rfl
  | cons c cs ih =>
    obtain ⟨part, parts, hparts⟩ := List.exists_cons_of_ne_nil (splitDots_ne_nil cs)
    rw [hparts] at ih
    rw [splitDots, hparts]
    split_ifs with hc
    · rw [List.intercalate_cons_cons, ih, hc]
      rfl
    · -- the character goes in front of the first part
      cases parts with
      | nil =>
        rw [List.intercalate_singleton] at ih ⊢
        rw [ih]
      | cons next parts =>
        rw [List.intercalate_cons_cons] at ih ⊢
        rw [List.cons_append, List.cons_append, ih]

/-- **A host is a text of the grammar of hosts.** -/
theorem matchesHost_of_isHost {cs : List Char} (h : isHost cs = true) : MatchesHost cs := by
  rw [isHost, Bool.and_eq_true] at h
  obtain ⟨hnamed, hlength⟩ := h
  have hnames : ∀ name ∈ splitDots (cs.takeWhile (· != ':')), IsHostName name := by
    intro name hname
    have hname := List.all_eq_true.mp hnamed name hname
    rw [Bool.and_eq_true, List.all_eq_true] at hname
    exact ⟨by simpa using hname.1, hname.2⟩
  have hcut := List.takeWhile_append_dropWhile (p := (· != ':')) (l := cs)
  cases hport : cs.dropWhile (· != ':') with
  | nil =>
    rw [hport, List.append_nil] at hcut
    rw [hport, if_pos List.isEmpty_nil] at hlength
    have hhost := MatchesHost.names hnames (by simpa using hlength)
    rwa [intercalate_splitDots, hcut] at hhost
  | cons c digits =>
    -- what stands behind the names starts with a colon
    obtain rfl : c = ':' := by
      have hnot := List.head?_dropWhile_not (· != ':') cs
      rw [hport] at hnot
      simpa using hnot
    rw [hport, if_neg (by simp), Bool.and_eq_true, List.all_eq_true] at hlength
    rw [hport] at hcut
    have hhost := MatchesHost.port hnames (List.length_pos_of_ne_nil (splitDots_ne_nil _))
      (.digits (by simpa using hlength.1) hlength.2)
    rwa [intercalate_splitDots, hcut] at hhost

/-- A text that is read as a host spells one. -/
theorem spellsHost_of_valid {text : List Char}
    (h : (text.isEmpty || isHost (lowerHost text)) = true) :
    SpellsHost (String.ofList (lowerHost text)) text := by
  refine ⟨String.toList_ofList.symm, ?_⟩
  rw [Bool.or_eq_true, List.isEmpty_iff] at h
  rcases h with rfl | h
  · exact .inl rfl
  · rw [String.toList_ofList]
    exact .inr (matchesHost_of_isHost h)

/-! ### Fronts -/

/-- The texts in front of the path of a label: a host or nothing, and in front of it perhaps a
word of letters, with blanks before the first of them and between the two. -/
inductive IsFront : List Char → Prop
  | host {lead text : List Char} {host : String} (hlead : ∀ c ∈ lead, Text.isBlank c = true)
      (hhost : SpellsHost host text) : IsFront (lead ++ text)
  | letters {lead letters gap text : List Char} {host : String}
      (hlead : ∀ c ∈ lead, Text.isBlank c = true) (hne : letters ≠ [])
      (hletters : ∀ c ∈ letters, Text.isAsciiLetter c = true) (hgap : IsGap gap)
      (hhost : SpellsHost host text) : IsFront (lead ++ (letters ++ (gap ++ text)))

theorem ne_slash_of_isBlank {c : Char} (h : Text.isBlank c = true) : c ≠ '/' := by
  rintro rfl
  revert h
  decide

theorem IsFront.ne_slash {front : List Char} (h : IsFront front) : ∀ c ∈ front, c ≠ '/' := by
  cases h with
  | host hlead hhost =>
    exact List.forall_mem_append.mpr
      ⟨fun c hc => ne_slash_of_isBlank (hlead c hc), fun c hc => (hhost.plain hc).2⟩
  | letters hlead hne hletters hgap hhost =>
    refine List.forall_mem_append.mpr ⟨fun c hc => ne_slash_of_isBlank (hlead c hc),
      List.forall_mem_append.mpr ⟨fun c hc => ne_slash_of_isAsciiLetter (hletters c hc),
        List.forall_mem_append.mpr ⟨fun c hc => ne_slash_of_isBlank (hgap.blank c hc),
          fun c hc => (hhost.plain hc).2⟩⟩⟩

/-- Host and path are cut out in one word. -/
theorem SpellsHost.exists_words_append {host : String} {text : List Char}
    (h : SpellsHost host text) (rest : List Char) :
    ∃ path ws, Text.words (text ++ '/' :: rest) = (text ++ '/' :: path) :: ws := by
  have hword : Text.IsWord (text ++ ['/']) := by
    refine ⟨by simp, List.forall_mem_append.mpr ⟨fun c hc => (h.plain hc).1, ?_⟩⟩
    exact List.forall_mem_singleton.mpr rfl
  have hwords := Text.words_started hword rest
  rw [List.append_assoc, List.append_assoc, List.singleton_append, List.singleton_append] at hwords
  exact ⟨_, _, hwords⟩

/-- A name whose words are perhaps a word of letters and then host and path is a label. -/
theorem SpellsHost.isSome_parts? {name host : String} {text path : List Char}
    {letters? : Option (List Char)} {ws : List (List Char)} (h : SpellsHost host text)
    (hletters : ∀ letters ∈ letters?, letters.contains '/' = false ∧
      letters.all Text.isAsciiLetter = true)
    (hwords : Text.words name.toList = letters?.toList ++ (text ++ '/' :: path) :: ws) :
    (parts? name).isSome = true := by
  rw [parts?, hwords, partsOfWords_target hletters (fun c hc => (h.plain hc).2)]
  dsimp only
  rw [if_pos h.valid, Option.isSome_some]

/-- A name that starts with a front and a slash is a label. -/
theorem IsFront.isSome_parts? {name : String} {front rest : List Char} (h : IsFront front)
    (hname : name.toList = front ++ '/' :: rest) : (parts? name).isSome = true := by
  cases h with
  | @host lead text host hlead hhost =>
    obtain ⟨path, ws, hwords⟩ := hhost.exists_words_append rest
    have hall : Text.words name.toList =
        (none : Option (List Char)).toList ++ (text ++ '/' :: path) :: ws := by
      rw [hname, List.append_assoc, Text.words_blanks_append hlead, hwords]
      rfl
    exact hhost.isSome_parts? (by simp) hall
  | @letters lead letters gap text host hlead hne hletters hgap hhost =>
    obtain ⟨path, ws, hwords⟩ := hhost.exists_words_append rest
    have hword : Text.IsWord letters :=
      ⟨hne, fun c hc => isBlank_of_isAsciiLetter (hletters c hc)⟩
    have hplain : ∀ found ∈ some letters, found.contains '/' = false ∧
        found.all Text.isAsciiLetter = true := by
      rintro _ ⟨⟩
      exact letters_of_forall hletters
    have hall : Text.words name.toList =
        (some letters).toList ++ (text ++ '/' :: path) :: ws := by
      rw [hname, List.append_assoc, Text.words_blanks_append hlead, List.append_assoc,
        List.append_assoc, Text.words_isWord_append hword (hgap.endsWord _),
        Text.words_blanks_append hgap.blank, hwords]
      rfl
    exact hhost.isSome_parts? hplain hall

/-! ### Finding the front -/

/-- The words of a label are perhaps a word of letters, and then host and path. -/
theorem exists_target_of_partsOfWords {ws : List (List Char)} {parts : Parts}
    (h : partsOfWords ws = some parts) : ∃ (letters? : Option (List Char)) (path : List Char)
      (more : List (List Char)), ws = letters?.toList ++ (parts.host ++ '/' :: path) :: more ∧
        ∀ letters ∈ letters?, ∀ c ∈ letters, Text.isAsciiLetter c = true := by
  have htarget : ∀ {method : Option (List Char)} {ws : List (List Char)},
      partsAfterMethod method ws = some parts →
        ∃ path more, ws = (parts.host ++ '/' :: path) :: more := by
    intro method ws h
    cases ws with
    | nil => cases h
    | cons target more =>
      rw [partsAfterMethod] at h
      split_ifs at h with hslash
      obtain rfl := Option.some.inj h
      obtain ⟨path, hpath⟩ := exists_dropWhile_slash_eq (List.contains_iff_mem.mp hslash)
      have hcut := List.takeWhile_append_dropWhile (p := (· != '/')) (l := target)
      rw [hpath] at hcut
      exact ⟨path, more, congrArg (· :: more) hcut.symm⟩
  cases ws with
  | nil => cases h
  | cons word ws =>
    rw [partsOfWords] at h
    split_ifs at h with hslash hletters
    · obtain ⟨path, more, hws⟩ := htarget h
      exact ⟨none, path, more, hws, by simp⟩
    · obtain ⟨path, more, hws⟩ := htarget h
      refine ⟨some word, path, more, by rw [hws]; rfl, ?_⟩
      rintro _ ⟨⟩
      exact List.all_eq_true.mp hletters

/-- A label starts with a front and a slash. -/
theorem exists_isFront_of_parts? {name : String} {parts : Parts} (h : parts? name = some parts) :
    ∃ front rest, name.toList = front ++ '/' :: rest ∧ IsFront front := by
  have hvalid := spellsHost_of_valid (parts?_eq_some h).1
  rw [parts?] at h
  split at h
  · cases h
  rename_i found hfound
  split_ifs at h
  obtain rfl := Option.some.inj h
  obtain ⟨letters?, path, more, hwords, hletters⟩ := exists_target_of_partsOfWords hfound
  cases letters? with
  | none =>
    obtain ⟨lead, rest, hname, hlead, -⟩ := Text.exists_append_of_words_eq_cons hwords
    exact ⟨lead ++ found.host, path ++ rest, by simp [hname], .host hlead hvalid⟩
  | some letters =>
    obtain ⟨lead, behind, hname, hlead, hends, hbehind⟩ :=
      Text.exists_append_of_words_eq_cons hwords
    obtain ⟨gap, rest, hrest, hgap, -⟩ := Text.exists_append_of_words_eq_cons hbehind
    have hmem : letters ∈ Text.words name.toList := by
      rw [hwords]
      exact List.mem_cons_self
    have hmem' : found.host ++ '/' :: path ∈ Text.words behind := by
      rw [hbehind]
      exact List.mem_cons_self
    have hword : Text.IsWord letters := Text.isWord_of_mem_words hmem
    have htarget : Text.IsWord (found.host ++ '/' :: path) := Text.isWord_of_mem_words hmem'
    -- the letters end at a blank, which is not of the host
    have hne : gap ≠ [] := by
      rintro rfl
      obtain ⟨c, cs, hcons⟩ := List.exists_cons_of_ne_nil htarget.ne_nil
      have hblank := hends c (by rw [hrest, hcons]; rfl)
      rw [htarget.not_blank c (hcons ▸ List.mem_cons_self)] at hblank
      cases hblank
    refine ⟨lead ++ (letters ++ (gap ++ found.host)), path ++ rest, by simp [hname, hrest], ?_⟩
    exact .letters hlead hword.ne_nil (hletters letters rfl) ⟨hne, hgap⟩ hvalid

/-- A name without a slash is an ordinary name. -/
theorem parts?_eq_none_of_notMem {name : String} (h : '/' ∉ name.toList) : parts? name = none := by
  cases hparts : parts? name with
  | none => rfl
  | some parts =>
    obtain ⟨front, rest, hname, -⟩ := exists_isFront_of_parts? hparts
    exact absurd (by simp [hname]) h

/-- **A name is a label by its front.** -/
theorem parts?_eq_none_iff {name : String} {front rest : List Char}
    (hname : name.toList = front ++ '/' :: rest) (hfront : ∀ c ∈ front, c ≠ '/') :
    parts? name = none ↔ ¬IsFront front := by
  rw [← Option.not_isSome_iff_eq_none, not_iff_not]
  refine ⟨fun hsome => ?_, fun h => h.isSome_parts? hname⟩
  obtain ⟨parts, hparts⟩ := Option.isSome_iff_exists.mp hsome
  obtain ⟨front', rest', hname', hfront'⟩ := exists_isFront_of_parts? hparts
  -- both are the text before the first slash
  have hsame : ∀ {front rest : List Char}, name.toList = front ++ '/' :: rest →
      (∀ c ∈ front, c ≠ '/') → name.toList.takeWhile (· != '/') = front := by
    intro front rest hname hfront
    rw [hname, List.takeWhile_append_of_pos fun c hc => bne_iff_ne.mpr (hfront c hc)]
    simp
  rwa [← hsame hname hfront, hsame hname' hfront'.ne_slash]

/-- A name that is no label is read as none, and nothing else is. -/
theorem parse_eq_ok_none_iff {name : String} :
    Label.parse name = .ok none ↔ parts? name = none := by
  rw [Label.parse]
  split
  · rename_i hnone
    simp [hnone]
  · rename_i parts hparts
    rw [hparts, Except.map_eq_ok]
    simp

end FragmentRoutes.Route.Label
