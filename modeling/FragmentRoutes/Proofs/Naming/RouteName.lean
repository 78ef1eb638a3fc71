import FragmentRoutes.Proofs.Naming
import FragmentRoutes.Proofs.Text.Identifier

/-!
# The names of routes

The name of a route is made of words with capitals (`IsPascal`), so it is an identifier that starts
with a capital (`routeIdentifier_cases`).  Three such identifiers are reserved words, and they are
single words.  A route is named for one of them exactly if it has no method and its host and path
have this word and no other (`isReserved_routeIdentifier_iff`).
-/

namespace FragmentRoutes.Naming

/-! ### Words with capitals -/

/-- A word has letters and digits only, and one of them at least. -/
def IsWord (w : List Char) : Prop :=
  w ≠ [] ∧ ∀ c ∈ w, isWordChar c = true

instance (w : List Char) : Decidable (IsWord w) :=
  decidable_of_iff (w ≠ [] ∧ w.all isWordChar = true) (and_congr_right' List.all_eq_true)

/-- The text is made of words with capitals. -/
def IsPascal (s : String) : Prop :=
  ∃ ws : List (List Char), (∀ w ∈ ws, IsWord w) ∧ s.toList = (ws.map capitalized).flatten

theorem toList_pascalCase (s : String) :
    (pascalCase s).toList = ((words s).map capitalized).flatten :=
  String.toList_ofList

theorem isPascal_pascalCase (s : String) : IsPascal (pascalCase s) :=
  ⟨words s, fun _ hw => word_of_mem_words hw, toList_pascalCase s⟩

theorem isPascal_empty : IsPascal "" :=
  ⟨[], by simp, rfl⟩

theorem IsPascal.append {s t : String} (hs : IsPascal s) (ht : IsPascal t) : IsPascal (s ++ t) := by
  obtain ⟨ws, hws, hs⟩ := hs
  obtain ⟨ws', hws', ht⟩ := ht
  refine ⟨ws ++ ws', List.forall_mem_append.mpr ⟨hws, hws'⟩, ?_⟩
  rw [String.toList_append, hs, ht, List.map_append, List.flatten_append]

theorem isPascal_join {texts : List String} (h : ∀ s ∈ texts, IsPascal s) :
    IsPascal (String.join texts) := by
  induction texts with
  | nil => exact isPascal_empty
  | cons s texts ih =>
    obtain ⟨hs, htexts⟩ := List.forall_mem_cons.mp h
    rw [String.join_cons]
    exact hs.append (ih htexts)

/-- A word that starts with a capital is made of this word. -/
theorem isPascal_of_isWord {s : String} (hword : IsWord s.toList)
    (hcapital : capitalized s.toList = s.toList) : IsPascal s :=
  ⟨[s.toList], by simpa using hword, by simp [hcapital]⟩

/-- A word with its capital starts with a capital or a digit, and goes on as the word does. -/
theorem IsWord.capitalized_cases {w : List Char} (h : IsWord w) :
    ∃ c cs, capitalized w = c :: cs ∧ (isCapital c = true ∨ Text.isAsciiDigit c = true) ∧
      ∀ d ∈ cs, isWordChar d = true := by
  obtain ⟨hne, hchars⟩ := h
  obtain ⟨c, cs, rfl⟩ := List.exists_cons_of_ne_nil hne
  obtain ⟨hc, hcs⟩ := List.forall_mem_cons.mp hchars
  refine ⟨Text.upperAscii c, cs, rfl, ?_, hcs⟩
  refine forall_of_lt (P := fun c => isWordChar c = true →
    isCapital (Text.upperAscii c) = true ∨ Text.isAsciiDigit (Text.upperAscii c) = true) ?_
    (lt_of_isWordChar hc) hc
  decide

theorem isWordChar_of_capital_or_digit {c : Char}
    (h : isCapital c = true ∨ Text.isAsciiDigit c = true) : isWordChar c = true := by
  rcases h with h | h <;> simp [isWordChar, h]

theorem isWordChar_of_mem_capitalized {w : List Char} (h : IsWord w) {c : Char}
    (hc : c ∈ capitalized w) : isWordChar c = true := by
  obtain ⟨d, ds, heq, hd, hds⟩ := h.capitalized_cases
  rw [heq] at hc
  rcases List.mem_cons.mp hc with rfl | hc
  · exact isWordChar_of_capital_or_digit hd
  · exact hds c hc

/-- What is made of words is empty, or starts with a capital or a digit and goes on with letters and
digits. -/
theorem IsPascal.toList_cases {s : String} (h : IsPascal s) :
    s.toList = [] ∨ ∃ c cs, s.toList = c :: cs ∧
      (isCapital c = true ∨ Text.isAsciiDigit c = true) ∧ ∀ d ∈ cs, isWordChar d = true := by
  obtain ⟨ws, hws, hs⟩ := h
  cases ws with
  | nil => exact .inl hs
  | cons w ws =>
    obtain ⟨hw, hws⟩ := List.forall_mem_cons.mp hws
    obtain ⟨c, cs, heq, hc, hcs⟩ := hw.capitalized_cases
    refine .inr ⟨c, cs ++ (ws.map capitalized).flatten, ?_, hc, ?_⟩
    · rw [hs, List.map_cons, List.flatten_cons, heq, List.cons_append]
    · refine List.forall_mem_append.mpr ⟨hcs, fun d hd => ?_⟩
      obtain ⟨chars, hchars, hd⟩ := List.mem_flatten.mp hd
      obtain ⟨w', hw', rfl⟩ := List.mem_map.mp hchars
      exact isWordChar_of_mem_capitalized (hws w' hw') hd

/-- Each word brings a capital or a digit, so small letters after one character are all of one
word. -/
theorem exists_eq_singleton_of_flatten {ws : List (List Char)} (hws : ∀ w ∈ ws, IsWord w)
    {c : Char} {cs : List Char} (h : (ws.map capitalized).flatten = c :: cs)
    (hcs : ∀ d ∈ cs, isSmall d = true) : ∃ w, ws = [w] := by
  cases ws with
  | nil => cases h
  | cons w ws =>
    obtain ⟨hw, hws⟩ := List.forall_mem_cons.mp hws
    cases ws with
    | nil => exact ⟨w, rfl⟩
    | cons w' ws =>
      obtain ⟨c₁, cs₁, heq₁, -, -⟩ := hw.capitalized_cases
      obtain ⟨c₂, cs₂, heq₂, hc₂, -⟩ := (List.forall_mem_cons.mp hws).1.capitalized_cases
      rw [List.map_cons, List.map_cons, List.flatten_cons, List.flatten_cons, heq₁, heq₂] at h
      have hmem : c₂ ∈ cs := by
        rw [← (List.cons.inj h).2]
        simp
      obtain ⟨hdigit, hcapital, -⟩ := small_facts (hcs c₂ hmem)
      rw [hdigit, hcapital] at hc₂
      exact absurd hc₂ (by decide)

/-! ### The name of a route -/

/-- The words of method, host, path and parameters, as the name of a route has them. -/
def joinedName (label : Route.Label) : String :=
  (match label.method with
    | some m => verb m
    | none => "") ++ pascalCase label.host ++
  (if label.path = "/" then "Index" else String.join (label.segments.map segmentName)) ++
  String.join (if label.path = "/" then [] else parameterNames label.params)

theorem routeIdentifier_eq (label : Route.Label) :
    routeIdentifier label = match (joinedName label).toList.head? with
      | none => "Index"
      | some c => if Text.isAsciiDigit c then "Route" ++ joinedName label else joinedName label :=
  rfl

theorem isPascal_segmentName (s : Route.Segment) : IsPascal (segmentName s) := by
  cases s with
  | literal text => exact isPascal_pascalCase _
  | finish => exact isPascal_of_isWord (by decide) (by decide)
  | param name => exact isPascal_empty
  | wildcard name => exact isPascal_empty

theorem isPascal_of_mem_parameterNames {params : List String} {s : String}
    (h : s ∈ parameterNames params) : IsPascal s := by
  have hall : ∀ s ∈ params.map pascalCase, IsPascal s := by
    intro s hs
    obtain ⟨p, -, rfl⟩ := List.mem_map.mp hs
    exact isPascal_pascalCase p
  have hby : IsPascal "By" := isPascal_of_isWord (by decide) (by decide)
  have hand : IsPascal "And" := isPascal_of_isWord (by decide) (by decide)
  unfold parameterNames at h
  generalize params.map pascalCase = names at h hall
  split at h
  · cases h
  · rename_i p
    rcases List.mem_cons.mp h with rfl | h
    · exact hby
    · exact hall s h
  · have hlast : IsPascal (names.getLastD "") := by
      rw [List.getLastD_eq_getLast?]
      cases hl : names.getLast? with
      | none => exact isPascal_empty
      | some last => exact hall last (List.mem_of_getLast? hl)
    rcases List.mem_cons.mp h with rfl | h
    · exact hby
    rcases List.mem_append.mp h with h | h
    · exact hall s (List.dropLast_subset _ h)
    · rw [List.mem_singleton.mp h]
      exact hand.append hlast

theorem isPascal_joinedName (label : Route.Label) : IsPascal (joinedName label) := by
  have hverb : IsPascal (match label.method with | some m => verb m | none => "") := by
    cases label.method with
    | none => exact isPascal_empty
    | some m => cases m <;> exact isPascal_of_isWord (by decide) (by decide)
  refine ((hverb.append (isPascal_pascalCase _)).append ?_).append ?_
  · split_ifs
    · exact isPascal_of_isWord (by decide) (by decide)
    · refine isPascal_join fun s hs => ?_
      obtain ⟨segment, -, rfl⟩ := List.mem_map.mp hs
      exact isPascal_segmentName segment
  · split_ifs
    · exact isPascal_empty
    · exact isPascal_join fun s hs => isPascal_of_mem_parameterNames hs

/-- **The name of a route** starts with a capital and goes on with letters and digits. -/
theorem routeIdentifier_cases (label : Route.Label) :
    ∃ c cs, (routeIdentifier label).toList = c :: cs ∧ isCapital c = true ∧
      ∀ d ∈ cs, isWordChar d = true := by
  rw [routeIdentifier_eq]
  rcases (isPascal_joinedName label).toList_cases with hnil | ⟨c, cs, heq, hc, hcs⟩
  · rw [hnil]
    dsimp only [List.head?_nil]
    exact ⟨'I', "ndex".toList, by decide, by decide, List.all_eq_true.mp (by decide)⟩
  · rw [heq]
    dsimp only [List.head?_cons]
    split_ifs with hdigit
    · have hroute : ∀ d ∈ "oute".toList, isWordChar d = true := List.all_eq_true.mp (by decide)
      refine ⟨'R', "oute".toList ++ c :: cs, ?_, by decide, ?_⟩
      · rw [String.toList_append, heq]
        rfl
      · exact List.forall_mem_append.mpr ⟨hroute,
          List.forall_mem_cons.mpr ⟨isWordChar_of_capital_or_digit hc, hcs⟩⟩
    · exact ⟨c, cs, heq, hc.resolve_right hdigit, hcs⟩

theorem startsIdentifier_of_isCapital {c : Char} (h : isCapital c = true) :
    Text.startsIdentifier c = true := by
  have hletter : Text.isAsciiLetter c = true := by
    rw [Text.isAsciiLetter, Bool.or_eq_true]
    exact .inr h
  simp [Text.startsIdentifier, hletter]

theorem continuesIdentifier_of_isWordChar {c : Char} (h : isWordChar c = true) :
    Text.continuesIdentifier c = true := by
  simp only [isWordChar, Bool.or_eq_true] at h
  rcases h with (hcapital | hsmall) | hdigit
  · simp [Text.continuesIdentifier, startsIdentifier_of_isCapital hcapital]
  · have hletter : Text.isAsciiLetter c = true := by
      rw [Text.isAsciiLetter, Bool.or_eq_true]
      exact .inl hsmall
    simp [Text.continuesIdentifier, Text.startsIdentifier, hletter]
  · exact Text.continuesIdentifier_of_isAsciiDigit hdigit

theorem isIdentifier_routeIdentifier (label : Route.Label) :
    Text.isIdentifier (routeIdentifier label) = true := by
  obtain ⟨c, cs, heq, hc, hcs⟩ := routeIdentifier_cases label
  rw [Text.isIdentifier, heq, Text.isIdentifierChars, Bool.and_eq_true, List.all_eq_true]
  exact ⟨startsIdentifier_of_isCapital hc, fun d hd => continuesIdentifier_of_isWordChar (hcs d hd)⟩

/-! ### Reserved words -/

/-- The words of a literal segment. -/
def segmentWords : Route.Segment → List (List Char)
  | .literal text => words (dropLastDots text)
  | _ => []

/-- The label has no method, its path binds nothing, and its host and path have one word. -/
structure BareWord (label : Route.Label) (w : List Char) : Prop where
  method_eq : label.method = none
  path_ne : label.path ≠ "/"
  literal : ∀ s ∈ label.segments, ∃ text, s = .literal text
  words_eq : words label.host ++ label.segments.flatMap segmentWords = [w]

theorem params_eq_nil_of_literal {label : Route.Label}
    (h : ∀ s ∈ label.segments, ∃ text, s = .literal text) : label.params = [] := by
  refine List.filterMap_eq_nil_iff.mpr fun s hs => ?_
  obtain ⟨text, rfl⟩ := h s hs
  rfl

/-- Without a method and parameters, the name consists of the words of host and path. -/
theorem toList_joinedName_of_literal {label : Route.Label} (hmethod : label.method = none)
    (hpath : label.path ≠ "/") (hliteral : ∀ s ∈ label.segments, ∃ text, s = .literal text) :
    (joinedName label).toList = ((words label.host ++ label.segments.flatMap segmentWords).map
      capitalized).flatten := by
  have hsegments : (String.join (label.segments.map segmentName)).toList =
      ((label.segments.flatMap segmentWords).map capitalized).flatten := by
    generalize label.segments = segments at hliteral
    induction segments with
    | nil => rfl
    | cons s segments ih =>
      obtain ⟨⟨text, rfl⟩, hrest⟩ := List.forall_mem_cons.mp hliteral
      have hfirst : (segmentName (.literal text)).toList =
          ((segmentWords (.literal text)).map capitalized).flatten := toList_pascalCase _
      rw [List.map_cons, String.join_cons, String.toList_append, ih hrest, List.flatMap_cons,
        List.map_append, List.flatten_append, hfirst]
  rw [joinedName, hmethod, if_neg hpath, if_neg hpath, params_eq_nil_of_literal hliteral]
  simp only [String.toList_append, toList_pascalCase, hsegments, List.map_append,
    List.flatten_append]
  simp [parameterNames]

/-- The reserved words that start with a capital. -/
theorem mem_of_isReserved_of_isCapital {s : String} {c : Char} {cs : List Char}
    (h : Text.isReserved s = true) (hs : s.toList = c :: cs) (hc : isCapital c = true) :
    s ∈ ["False", "None", "True"] := by
  have hwords : ∀ word ∈ Text.reservedWords,
      word.toList.head?.any isCapital = true → word ∈ ["False", "None", "True"] := by decide
  refine hwords s (by simpa [Text.isReserved] using h) ?_
  rw [hs]
  exact hc

theorem by_mem_parameterNames {params : List String} (h : params ≠ []) :
    "By" ∈ parameterNames params := by
  unfold parameterNames
  split
  · rename_i hnil
    exact absurd (List.map_eq_nil_iff.mp hnil) h
  · exact List.mem_cons_self
  · exact List.mem_cons_self

/-- A name with a verb, an index or parameters has a capital that no reserved word has. -/
theorem bareWord_of_joinedName_mem {label : Route.Label}
    (h : joinedName label ∈ ["False", "None", "True"]) : ∃ w, BareWord label w := by
  have habsent : (joinedName label).toList.all
      (fun c => decide (c ∉ ['R', 'C', 'U', 'D', 'I', 'B'])) = true := by
    have hall : ∀ word ∈ ["False", "None", "True"], word.toList.all
        (fun c => decide (c ∉ ['R', 'C', 'U', 'D', 'I', 'B'])) = true := by decide
    exact hall _ h
  simp only [joinedName, String.toList_append, List.all_append, Bool.and_eq_true] at habsent
  obtain ⟨⟨⟨hverb, -⟩, hpath⟩, hparams⟩ := habsent
  have hmethod : label.method = none := by
    cases hm : label.method with
    | none => rfl
    | some m =>
      rw [hm] at hverb
      cases m <;> exact absurd hverb (by decide)
  have hne : label.path ≠ "/" := by
    intro heq
    rw [if_pos heq] at hpath
    exact absurd hpath (by decide)
  rw [if_neg hne] at hpath hparams
  have hnone : label.params = [] := by
    by_contra hsome
    have hmem : 'B' ∈ (String.join (parameterNames label.params)).toList := by
      rw [String.toList_join, List.mem_flatMap]
      exact ⟨"By", by_mem_parameterNames hsome, by decide⟩
    exact absurd (List.all_eq_true.mp hparams 'B' hmem) (by decide)
  have hliteral : ∀ s ∈ label.segments, ∃ text, s = .literal text := by
    intro s hs
    have hbound : s.bound? = none := List.filterMap_eq_nil_iff.mp hnone s hs
    cases s with
    | literal text => exact ⟨text, rfl⟩
    | finish =>
      have hmem : 'I' ∈ (String.join (label.segments.map segmentName)).toList := by
        rw [String.toList_join, List.mem_flatMap]
        exact ⟨"Index", List.mem_map.mpr ⟨.finish, hs, rfl⟩, by decide⟩
      exact absurd (List.all_eq_true.mp hpath 'I' hmem) (by decide)
    | param name => cases hbound
    | wildcard name => cases hbound
  have hname := toList_joinedName_of_literal hmethod hne hliteral
  have hword : ∃ w, words label.host ++ label.segments.flatMap segmentWords = [w] := by
    have hsmall : ∃ c cs, (joinedName label).toList = c :: cs ∧ cs.all isSmall = true := by
      simp only [List.mem_cons, List.not_mem_nil, or_false] at h
      rcases h with h | h | h <;> (rw [h]; exact ⟨_, _, by rfl, by decide⟩)
    obtain ⟨c, cs, heq, hcs⟩ := hsmall
    refine exists_eq_singleton_of_flatten ?_ (hname ▸ heq) (List.all_eq_true.mp hcs)
    refine List.forall_mem_append.mpr ⟨fun w hw => word_of_mem_words hw, fun w hw => ?_⟩
    obtain ⟨s, hs, hw⟩ := List.mem_flatMap.mp hw
    obtain ⟨text, rfl⟩ := hliteral s hs
    exact word_of_mem_words hw
  obtain ⟨w, hw⟩ := hword
  exact ⟨w, hmethod, hne, hliteral, hw⟩

theorem BareWord.joinedName_eq {label : Route.Label} {w : List Char} (h : BareWord label w) :
    joinedName label = String.ofList (capitalized w) := by
  rw [← String.toList_inj, String.toList_ofList,
    toList_joinedName_of_literal h.method_eq h.path_ne h.literal, h.words_eq]
  simp

/-- **The name of a route is reserved** exactly if its label has no method and no parameters, and
host and path have one word, which is reserved when it has a capital. -/
theorem isReserved_routeIdentifier_iff (label : Route.Label) :
    Text.isReserved (routeIdentifier label) = true ↔
      ∃ w, BareWord label w ∧ String.ofList (capitalized w) ∈ ["False", "None", "True"] := by
  constructor
  · intro h
    obtain ⟨c, cs, heq, hc, -⟩ := routeIdentifier_cases label
    have hmem := mem_of_isReserved_of_isCapital h heq hc
    -- neither the name of an empty label nor one with a word in front is reserved
    have hjoined : routeIdentifier label = joinedName label := by
      rw [routeIdentifier_eq] at hmem ⊢
      split
      · rename_i hnone
        rw [hnone] at hmem
        dsimp only at hmem
        exact absurd hmem (by decide)
      · rename_i d hd
        rw [hd] at hmem
        dsimp only at hmem ⊢
        split_ifs at hmem ⊢ with hdigit
        · have hroute : ∀ word ∈ ["False", "None", "True"], 'R' ∉ word.toList := by decide
          refine absurd ?_ (hroute _ hmem)
          rw [String.toList_append]
          exact List.mem_append_left _ (by decide)
        · rfl
    rw [hjoined] at hmem
    obtain ⟨w, hw⟩ := bareWord_of_joinedName_mem hmem
    exact ⟨w, hw, hw.joinedName_eq ▸ hmem⟩
  · rintro ⟨w, hw, hmem⟩
    have hname := hw.joinedName_eq
    have hhead : ∀ word ∈ ["False", "None", "True"],
        word.toList.head?.any (fun c => !Text.isAsciiDigit c) = true := by decide
    have hreserved : ∀ word ∈ ["False", "None", "True"], Text.isReserved word = true := by decide
    have hfirst := hhead _ hmem
    rw [routeIdentifier_eq, hname]
    split
    · rename_i hnone
      rw [hnone] at hfirst
      cases hfirst
    · rename_i d hd
      rw [hd] at hfirst
      rw [if_neg (by simpa using hfirst)]
      exact hreserved _ hmem

end FragmentRoutes.Naming
