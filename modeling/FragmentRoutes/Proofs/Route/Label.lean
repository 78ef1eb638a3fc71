import FragmentRoutes.Route.Label
import FragmentRoutes.Proofs.Route.Path
import FragmentRoutes.Proofs.Text.Words
import Mathlib.Data.List.TakeWhile

/-!
# The form of a label

A label that was read has a host in small letters, a path in the form of a path, and neither
holds a blank (`Label.Normal`, `normal_of_parse`).  Nothing else is needed for its pattern to be
a label again: reading the pattern gives the same method, host, path and segments, and neither
status nor call (`Normal.parse_pattern`).  So the pattern stands for the whole label as far as
requests are concerned (`pattern_normalForm`).
-/

namespace FragmentRoutes.Route.Label

/-! ### Hosts in small letters -/

/-- A character in small letters is a small ASCII letter, or it was not changed. -/
theorem lowerHostChar_cases (c : Char) :
    (97 ≤ (lowerHostChar c).toNat ∧ (lowerHostChar c).toNat ≤ 122) ∨ lowerHostChar c = c := by
  rw [lowerHostChar]
  split_ifs with hk
  · exact Or.inl (by decide)
  · rw [Text.lowerAscii]
    split_ifs with hcap
    · -- a capital stands 32 places before its small letter
      left
      rw [Bool.and_eq_true, decide_eq_true_eq, decide_eq_true_eq, Char.le_def, Char.le_def,
        UInt32.le_iff_toNat_le, UInt32.le_iff_toNat_le] at hcap
      have hA : 'A'.val.toNat = 65 := rfl
      have hZ : 'Z'.val.toNat = 90 := rfl
      have hc : c.toNat = c.val.toNat := rfl
      have hvalid : (c.toNat + 32).isValidChar := Or.inl (by omega)
      rw [Char.ofNat, dif_pos hvalid]
      change 97 ≤ c.toNat + 32 ∧ c.toNat + 32 ≤ 122
      omega
    · exact Or.inr rfl

/-- A small ASCII letter stays as it is. -/
theorem lowerHostChar_of_small {c : Char} (h : 97 ≤ c.toNat ∧ c.toNat ≤ 122) :
    lowerHostChar c = c := by
  have hk : (c == '\u212a') = false := by
    rw [beq_eq_false_iff_ne]
    rintro rfl
    exact absurd h (by decide)
  -- nor is it a capital, all of which come before
  have hcap : ¬('A' ≤ c && c ≤ 'Z') = true := by
    rw [Bool.and_eq_true, decide_eq_true_eq, decide_eq_true_eq, Char.le_def, Char.le_def,
      UInt32.le_iff_toNat_le, UInt32.le_iff_toNat_le]
    have hZ : 'Z'.val.toNat = 90 := rfl
    have hc : c.toNat = c.val.toNat := rfl
    omega
  rw [lowerHostChar, hk, if_neg Bool.false_ne_true, Text.lowerAscii, if_neg hcap]

theorem lowerHost_lowerHost (cs : List Char) : lowerHost (lowerHost cs) = lowerHost cs := by
  rw [lowerHost, lowerHost, List.map_map]
  refine List.map_congr_left fun c _ => ?_
  rw [Function.comp_apply]
  rcases lowerHostChar_cases c with hsmall | hsame
  · exact lowerHostChar_of_small hsmall
  · rw [hsame, hsame]

/-- A property of all characters that were read and of all small letters holds in small
letters too. -/
theorem forall_mem_lowerHost {P : Char → Prop} {cs : List Char} (h : ∀ c ∈ cs, P c)
    (hsmall : ∀ c : Char, 97 ≤ c.toNat → c.toNat ≤ 122 → P c) : ∀ c ∈ lowerHost cs, P c := by
  intro d hd
  obtain ⟨c, hc, rfl⟩ := List.mem_map.mp hd
  rcases lowerHostChar_cases c with hs | hsame
  · exact hsmall _ hs.1 hs.2
  · rw [hsame]
    exact h c hc

/-! ### Reading a label -/

/-- A text with a slash has a first one. -/
theorem exists_dropWhile_slash_eq {cs : List Char} (h : '/' ∈ cs) :
    ∃ rest, cs.dropWhile (· != '/') = '/' :: rest := by
  have hne : cs.dropWhile (· != '/') ≠ [] := by
    rw [ne_eq, List.dropWhile_eq_nil_iff]
    exact fun hall => by simpa using hall '/' h
  obtain ⟨c, rest, hcs⟩ := List.exists_cons_of_ne_nil hne
  have hc := List.head_dropWhile_not (· != '/') hne
  simp only [hcs, List.head_cons, bne_eq_false_iff_eq] at hc
  exact ⟨rest, by rw [hcs, hc]⟩

/-- Host and path of a label stand in one of its words, which the first slash divides. -/
theorem partsAfterMethod_eq_some {method : Option (List Char)} {ws : List (List Char)}
    {parts : Parts} (h : partsAfterMethod method ws = some parts) :
    ∃ target ∈ ws, '/' ∈ target ∧ parts.host = target.takeWhile (· != '/') ∧
      parts.path = target.dropWhile (· != '/') := by
  cases ws with
  | nil => cases h
  | cons target ws =>
    rw [partsAfterMethod] at h
    split_ifs at h with hslash
    obtain rfl := Option.some.inj h
    exact ⟨target, List.mem_cons_self, List.contains_iff_mem.mp hslash, rfl, rfl⟩

theorem partsOfWords_eq_some {ws : List (List Char)} {parts : Parts}
    (h : partsOfWords ws = some parts) :
    ∃ target ∈ ws, '/' ∈ target ∧ parts.host = target.takeWhile (· != '/') ∧
      parts.path = target.dropWhile (· != '/') := by
  cases ws with
  | nil => cases h
  | cons word ws =>
    rw [partsOfWords] at h
    split_ifs at h with hslash hletters
    · exact partsAfterMethod_eq_some h
    · obtain ⟨target, hmem, htarget⟩ := partsAfterMethod_eq_some h
      exact ⟨target, List.mem_cons_of_mem _ hmem, htarget⟩

/-- The parts of a label: host and path hold no blank, the host is a host or empty, and the
path starts with the first slash. -/
theorem parts?_eq_some {name : String} {parts : Parts} (h : parts? name = some parts) :
    (parts.host.isEmpty || isHost (lowerHost parts.host)) = true ∧
      (∀ c ∈ parts.host, Text.isBlank c = false ∧ c ≠ '/') ∧
      (∀ c ∈ parts.path, Text.isBlank c = false) ∧ ∃ cs, parts.path = '/' :: cs := by
  rw [parts?] at h
  split at h
  · cases h
  rename_i parts' hwords
  split_ifs at h with hhost
  obtain rfl := Option.some.inj h
  obtain ⟨target, hmem, hslash, htake, hdrop⟩ := partsOfWords_eq_some hwords
  have hword := Text.isWord_of_mem_words hmem
  refine ⟨hhost, fun c hc => ?_, fun c hc => ?_, ?_⟩
  · rw [htake] at hc
    refine ⟨hword.not_blank c (List.takeWhile_sublist _ |>.mem hc), ?_⟩
    simpa using List.mem_takeWhile_imp hc
  · rw [hdrop] at hc
    exact hword.not_blank c ((List.dropWhile_sublist _).mem hc)
  · rw [hdrop]
    exact exists_dropWhile_slash_eq hslash

/-- The **form of a label**: the host is in small letters, host and path hold no blank, the path
starts with the first slash and spells the segments. -/
structure Normal (label : Label) : Prop where
  lower_host : lowerHost label.host.toList = label.host.toList
  host_valid : (label.host.toList.isEmpty || isHost label.host.toList) = true
  host_plain : ∀ c ∈ label.host.toList, Text.isBlank c = false ∧ c ≠ '/'
  path_plain : ∀ c ∈ label.path.toList, Text.isBlank c = false
  path_slash : ∃ cs, label.path.toList = '/' :: cs
  parse_path : Path.parse label.path.toList = .ok label.segments

/-- **Every label that is read has the form of a label.** -/
theorem normal_of_parse {text : String} {label : Label}
    (h : Label.parse text = .ok (some label)) : label.Normal := by
  rw [Label.parse] at h
  split at h
  · cases h
  rename_i parts hparts
  obtain ⟨hvalid, hhost, hpath, hslash⟩ := parts?_eq_some hparts
  rw [Except.map_eq_ok] at h
  obtain ⟨l, h, hl⟩ := h
  obtain rfl := Option.some.inj hl
  rw [ofParts, Except.bind_eq_ok] at h
  obtain ⟨method, -, h⟩ := h
  rw [Except.bind_eq_ok] at h
  obtain ⟨segments, hsegments, h⟩ := h
  rw [Except.mapError_eq_ok] at hsegments
  rw [Except.bind_eq_ok] at h
  obtain ⟨⟨status, explicitStatus⟩, -, h⟩ := h
  obtain rfl := Except.ok.inj h
  refine ⟨?_, ?_, ?_, ?_, ?_, ?_⟩ <;> dsimp only <;> rw [String.toList_ofList]
  · exact lowerHost_lowerHost parts.host
  · simpa [lowerHost] using hvalid
  · -- a small letter is neither a blank nor a slash
    refine forall_mem_lowerHost hhost fun c hlo hhi => ⟨?_, ?_⟩
    · simp only [Text.isBlank, Bool.or_eq_false_iff, Bool.and_eq_false_iff,
        decide_eq_false_iff_not, beq_eq_false_iff_ne]
      omega
    · rintro rfl
      exact absurd hlo (by decide)
  · exact hpath
  · exact hslash
  · exact hsegments

/-! ### The text of the path -/

namespace Normal

variable {label : Label} (h : label.Normal)

include h

/-- The path has the form of a path. -/
theorem path_normal : Path.Normal label.path.toList label.segments := by
  obtain ⟨cs, hcs⟩ := h.path_slash
  have hparse := h.parse_path
  rw [hcs] at hparse ⊢
  -- the form of paths is that of texts on one line, and a line break is a blank
  refine Path.normal_of_parse (fun hline => ?_) hparse
  have hblank := h.path_plain '\n' (hcs ▸ List.mem_cons_of_mem _ hline)
  exact absurd hblank (by decide)

/-- The path is the written segments, each after a slash, with one more slash for a subtree. -/
theorem toList_path :
    label.path.toList = Path.slashed (label.segments.map (·.render.toList) ++
      if label.subtree then [[]] else []) := by
  have htext := h.path_normal.text
  by_cases hsub : label.path.toList.getLast? = some '/'
  · rw [if_pos hsub] at htext
    rw [if_pos (show label.subtree = true from decide_eq_true hsub), ← htext]
  · rw [if_neg hsub] at htext
    rw [if_neg (by simpa [subtree] using hsub), ← htext]

/-- A path without segments is the subtree of all paths. -/
theorem subtree_of_segments_eq_nil (hnil : label.segments = []) : label.subtree = true := by
  obtain ⟨cs, hcs⟩ := h.path_slash
  by_contra hsub
  have htext := h.toList_path
  rw [hnil, if_neg hsub, hcs] at htext
  cases htext

/-- **The path is written from its segments.** -/
theorem path_eq :
    label.path = "/" ++ "/".intercalate (label.segments.map Segment.render) ++
      if label.subtree && !label.segments.isEmpty then "/" else "" := by
  apply String.ext
  have htext := h.toList_path
  cases hsegs : label.segments with
  | nil =>
    -- the one slash is that of the subtree, not one in front of a segment
    rw [hsegs, if_pos (h.subtree_of_segments_eq_nil hsegs)] at htext
    rw [htext]
    simp [Path.slashed]
  | cons s segments =>
    have hne : (s :: segments).map (·.render.toList) ≠ [] := by simp
    rw [hsegs, Path.slashed_append, Path.slashed_eq_intercalate hne] at htext
    rw [htext, String.toList_append, String.toList_append, String.toList_intercalate,
      List.map_map]
    cases label.subtree <;> simp [Path.slashed, Function.comp_def]

/-- A path that ends in the end mark is no subtree. -/
theorem not_exact_and_subtree : ¬(label.exact = true ∧ label.subtree = true) := by
  rintro ⟨hexact, hsub⟩
  have hmem : Segment.finish ∈ label.segments := List.mem_of_getLast? (of_decide_eq_true hexact)
  exact h.path_normal.open_of_subtree (of_decide_eq_true hsub) _ hmem

end Normal

/-! ### Reading a pattern -/

/-- The words of the pattern: the method, if there is one, and host and path together. -/
def patternWords (label : Label) : List (List Char) :=
  (label.method.map (·.render.toList)).toList ++ [label.host.toList ++ label.path.toList]

theorem toList_pattern (label : Label) :
    label.pattern.toList = Text.unwords label.patternWords := by
  rw [pattern, patternWords]
  cases label.method with
  | none => simp [Text.unwords]
  | some m => simp [Text.unwords]

/-- The word of host and path is divided at the slash in front of the path. -/
theorem partsAfterMethod_target (method : Option (List Char)) {host : List Char}
    (hhost : ∀ c ∈ host, c ≠ '/') (cs : List Char) (ws : List (List Char)) :
    partsAfterMethod method ((host ++ '/' :: cs) :: ws) =
      some ⟨method, host, '/' :: cs, (statusAndCall ws).1, (statusAndCall ws).2⟩ := by
  have hhost : ∀ c ∈ host, (c != '/') = true := fun c hc => by simpa using hhost c hc
  have hslash : (host ++ '/' :: cs).contains '/' = true := by simp
  rw [partsAfterMethod, if_pos hslash, List.takeWhile_append_of_pos hhost,
    List.dropWhile_append_of_pos hhost]
  simp

/-- **The parts of the words of a label**: a word of letters in front is the method, and the
word with a slash is host and path. -/
theorem partsOfWords_target {letters? : Option (List Char)}
    (hletters : ∀ letters ∈ letters?, letters.contains '/' = false ∧
      letters.all Text.isAsciiLetter = true) {host : List Char} (hhost : ∀ c ∈ host, c ≠ '/')
    (cs : List Char) (ws : List (List Char)) :
    partsOfWords (letters?.toList ++ (host ++ '/' :: cs) :: ws) =
      some ⟨letters?, host, '/' :: cs, (statusAndCall ws).1, (statusAndCall ws).2⟩ := by
  cases letters? with
  | none =>
    -- the first word holds a slash, so it is no method
    have hslash : (host ++ '/' :: cs).contains '/' = true := by simp
    rw [Option.toList_none, List.nil_append, partsOfWords, if_pos hslash]
    exact partsAfterMethod_target none hhost cs ws
  | some letters =>
    obtain ⟨hslash, hall⟩ := hletters letters rfl
    rw [Option.toList_some, List.singleton_append, partsOfWords, hslash,
      if_neg Bool.false_ne_true, if_pos hall]
    exact partsAfterMethod_target (some letters) hhost cs ws

/-- The name of a method is a word of letters. -/
theorem isWord_render_method (m : Method) : Text.IsWord m.render.toList := by
  have hletters : m.render.toList.all (fun c => !Text.isBlank c) = true := by cases m <;> decide
  constructor
  · cases m <;> decide
  · intro c hc
    simpa using List.all_eq_true.mp hletters c hc

namespace Normal

variable {label : Label} (h : label.Normal)

include h

theorem isWord_of_mem_patternWords : ∀ w ∈ label.patternWords, Text.IsWord w := by
  intro w hw
  rcases List.mem_append.mp hw with hw | hw
  · obtain ⟨m, -, rfl⟩ : ∃ m, label.method = some m ∧ m.render.toList = w := by
      simpa using hw
    exact isWord_render_method m
  · obtain rfl := List.mem_singleton.mp hw
    obtain ⟨cs, hcs⟩ := h.path_slash
    refine ⟨by simp [hcs], fun c hc => ?_⟩
    rcases List.mem_append.mp hc with hc | hc
    · exact (h.host_plain c hc).1
    · exact h.path_plain c hc

/-- Collapsing blanks leaves the pattern as it is. -/
theorem collapse_pattern : Text.collapse label.pattern = label.pattern := by
  have hpattern : label.pattern = String.ofList (Text.unwords label.patternWords) := by
    rw [← toList_pattern, String.ofList_toList]
  rw [hpattern]
  exact Text.collapse_ofList_unwords h.isWord_of_mem_patternWords

/-- Behind the words of the pattern come those of status and call. -/
theorem partsOfWords_patternWords_append (ws : List (List Char)) :
    partsOfWords (label.patternWords ++ ws) =
      some ⟨label.method.map (·.render.toList), label.host.toList, label.path.toList,
        (statusAndCall ws).1, (statusAndCall ws).2⟩ := by
  obtain ⟨cs, hcs⟩ := h.path_slash
  rw [patternWords, hcs, List.append_assoc]
  refine partsOfWords_target ?_ (fun c hc => (h.host_plain c hc).2) cs ws
  intro letters hletters
  obtain ⟨m, -, rfl⟩ := Option.map_eq_some_iff.mp hletters
  cases m <;> decide

/-- **The pattern with a call behind it** is read as the same label with the call, without
status. -/
theorem parse_of_words_eq {text call : String} {ws : List (List Char)}
    (hwords : Text.words text.toList = label.patternWords ++ ws)
    (hcall : statusAndCall ws = (none, call.toList)) :
    Label.parse text = .ok (some { label with
      name := text, status := Status.ok, explicitStatus := false, callText := call }) := by
  have hmethod : parseMethod (label.method.map (·.render.toList)) = .ok label.method := by
    cases label.method with
    | none => rfl
    | some m => cases m <;> decide
  have hparts : parts? text =
      some ⟨label.method.map (·.render.toList), label.host.toList, label.path.toList, none,
        call.toList⟩ := by
    rw [parts?, hwords, h.partsOfWords_patternWords_append, hcall]
    dsimp only
    rw [h.lower_host, if_pos h.host_valid]
  rw [Label.parse, hparts]
  dsimp only
  rw [ofParts]
  dsimp only
  rw [hmethod, h.parse_path, h.lower_host, String.ofList_toList, String.ofList_toList,
    String.ofList_toList]
  rfl

/-- **The pattern is read as the same label**, without status and call. -/
theorem parse_pattern :
    Label.parse label.pattern = .ok (some { label with
      name := label.pattern, status := Status.ok, explicitStatus := false, callText := "" }) := by
  have hwords : Text.words label.pattern.toList = label.patternWords ++ [] := by
    rw [toList_pattern, Text.words_unwords h.isWord_of_mem_patternWords, List.append_nil]
  exact h.parse_of_words_eq hwords rfl

end Normal

/-- **Normal form of labels.** For every text that is a label: the path is written from the
segments, and it ends in the end mark or in a slash but not in both; the pattern is collapsed;
and the pattern is a label again, with the same method, host, path and segments, hence of the
same pattern, with status 200, which is not explicit, and without a call. -/
theorem pattern_normalForm {text : String} {label : Label}
    (h : Label.parse text = .ok (some label)) :
    (label.path = "/" ++ "/".intercalate (label.segments.map Segment.render) ++
        (if label.subtree && !label.segments.isEmpty then "/" else "") ∧
      ¬(label.exact = true ∧ label.subtree = true)) ∧
    Text.collapse label.pattern = label.pattern ∧
    ∃ label', Label.parse label.pattern = .ok (some label') ∧ label'.method = label.method ∧
      label'.host = label.host ∧ label'.path = label.path ∧ label'.segments = label.segments ∧
      label'.pattern = label.pattern ∧ label'.status = 200 ∧ label'.explicitStatus = false ∧
      label'.callText = "" := by
  have hnormal := normal_of_parse h
  refine ⟨⟨hnormal.path_eq, hnormal.not_exact_and_subtree⟩, hnormal.collapse_pattern, ?_⟩
  exact ⟨_, hnormal.parse_pattern, rfl, rfl, rfl, rfl, rfl, rfl, rfl, rfl⟩

/-- A subtree of a host in capitals, with a status and a call. -/
theorem pattern_normalForm_subtree :
    ∃ label, Label.parse "get\t a.\u212aELVIN:8/\x7bid\x7d/x/  201\n F(id)" = .ok (some label) ∧
      label.pattern = "GET a.kelvin:8/\x7bid\x7d/x/" ∧ label.subtree = true ∧
      ∃ label', Label.parse label.pattern = .ok (some label') ∧
        label'.segments = label.segments ∧ label'.callText = "" := by
  have h : Label.parse "get\t a.\u212aELVIN:8/\x7bid\x7d/x/  201\n F(id)" = .ok (some
      ⟨"get\t a.\u212aELVIN:8/\x7bid\x7d/x/  201\n F(id)", some .get, "a.kelvin:8",
        "/\x7bid\x7d/x/", [.param "id", .literal "x"], 201, true, "F(id)"⟩) := by rfl
  obtain ⟨-, -, label', hparse, -, -, -, hsegments, -, -, -, hcall⟩ := pattern_normalForm h
  exact ⟨_, h, by rfl, by decide, label', hparse, hsegments, hcall⟩

end FragmentRoutes.Route.Label
