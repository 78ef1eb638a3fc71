import FragmentRoutes.Proofs.Route.Label
import FragmentRoutes.Proofs.Route.PathReading
import FragmentRoutes.Proofs.Route.StatusReading

/-!
# Reading a written label

A label is written from its parts: the method in any case, the host in any case with the path
behind it, the status and the call, with blanks between them and around the whole
(`SpellsMethod`, `SpellsHost`, `Path.written`, `SpellsStatus`, `SpellsCall`).  Whatever the
parts, the label that is read is the label that was written (`parse_written_label`).  Two
conditions keep neighbours apart: a call in a label without a status does not itself start like
a status (`StartsLikeStatus`), and a numeral of a status is not too long (`Status.Denotes`);
`unreadable_of_long_digits` shows that the second is needed.

The proof follows the reader: the words of the text are the words of the parts, the method is
the word without a slash in front, and the first word behind the path is the status if it is
one.
-/

namespace FragmentRoutes.Route.Label

/-! ### The ways to write the parts -/

/-- Blanks, at least one. -/
structure IsGap (gap : List Char) : Prop where
  ne_nil : gap ≠ []
  blank : ∀ c ∈ gap, Text.isBlank c = true

/-- The texts of a method in front of the host: its letters in any case and a gap. -/
inductive SpellsMethod : Option Method → List Char → Prop
  | absent : SpellsMethod none []
  | named {m : Method} {letters gap : List Char}
      (hcase : letters.map Text.upperAscii = m.render.toList) (hgap : IsGap gap) :
      SpellsMethod (some m) (letters ++ gap)

/-- A name in a host. -/
structure IsHostName (name : List Char) : Prop where
  ne_nil : name ≠ []
  chars : ∀ c ∈ name, isHostChar c = true

/-- A port: a colon and decimal digits. -/
inductive IsPort : List Char → Prop
  | digits {ds : List Char} (hne : ds ≠ []) (hdigits : ∀ d ∈ ds, Text.isDecimal d = true) :
      IsPort (':' :: ds)

/-- The grammar of hosts: names with dots between them, perhaps with a port, or a single name
with a port. -/
inductive MatchesHost : List Char → Prop
  | names {names : List (List Char)} (hnames : ∀ name ∈ names, IsHostName name)
      (hlength : 2 ≤ names.length) : MatchesHost (['.'].intercalate names)
  | port {names : List (List Char)} {port : List Char} (hnames : ∀ name ∈ names, IsHostName name)
      (hlength : 1 ≤ names.length) (hport : IsPort port) :
      MatchesHost (['.'].intercalate names ++ port)

/-- The texts of a host, empty or of the grammar: its characters in any case. -/
structure SpellsHost (host : String) (text : List Char) : Prop where
  lower : lowerHost text = host.toList
  grammar : host = "" ∨ MatchesHost host.toList

/-- The texts of a status behind the path, empty for the one that is not explicit. -/
inductive SpellsStatus : Nat → Bool → List Char → Prop
  | implicit : SpellsStatus 200 false []
  | explicit {gap word : List Char} {code : Nat} (hgap : IsGap gap)
      (hword : Status.Denotes word code) : SpellsStatus code true (gap ++ word)

/-- A text that starts with a decimal digit or with something behind `HTTPStatus.` or
`http.HTTPStatus.`. -/
inductive StartsLikeStatus : List Char → Prop
  | decimal {c : Char} {cs : List Char} (hc : Text.isDecimal c = true) :
      StartsLikeStatus (c :: cs)
  | constant {c : Char} {cs : List Char} (hc : Text.isBlank c = false) :
      StartsLikeStatus ("HTTPStatus.".toList ++ c :: cs)
  | http_constant {c : Char} {cs : List Char} (hc : Text.isBlank c = false) :
      StartsLikeStatus ("http.HTTPStatus.".toList ++ c :: cs)

/-- The texts of a call behind a path and a status, which may be `explicit`: nothing for the
empty call, else a gap and the collapsed text. -/
inductive SpellsCall (explicit : Bool) : String → List Char → Prop
  | absent : SpellsCall explicit "" []
  | written {gap : List Char} {call : String} (hgap : IsGap gap) (hne : call ≠ "")
      (hcollapse : Text.collapse call = call)
      (hstart : explicit = false → ¬StartsLikeStatus call.toList) :
      SpellsCall explicit call (gap ++ call.toList)

/-! ### The method -/

theorem isAsciiLetter_of_upperAscii {c : Char} (h : Text.isAsciiLetter (Text.upperAscii c) = true) :
    Text.isAsciiLetter c = true := by
  rw [Text.upperAscii] at h
  split_ifs at h with hsmall
  · rw [Text.isAsciiLetter, hsmall, Bool.true_or]
  · exact h

/-- Letters that name a method in any case are ASCII letters. -/
theorem isAsciiLetter_of_spelled {m : Method} {letters : List Char}
    (h : letters.map Text.upperAscii = m.render.toList) {c : Char} (hc : c ∈ letters) :
    Text.isAsciiLetter c = true := by
  have hrender : m.render.toList.all Text.isAsciiLetter = true := by cases m <;> decide
  refine isAsciiLetter_of_upperAscii (List.all_eq_true.mp hrender _ ?_)
  rw [← h]
  exact List.mem_map_of_mem hc

theorem isBlank_of_isAsciiLetter {c : Char} (h : Text.isAsciiLetter c = true) :
    Text.isBlank c = false :=
  Text.not_blank_of_continuesIdentifier (by simp [Text.continuesIdentifier, Text.startsIdentifier, h])

theorem ne_slash_of_isAsciiLetter {c : Char} (h : Text.isAsciiLetter c = true) : c ≠ '/' := by
  rintro rfl
  revert h
  decide

/-- A word of letters is taken for a method. -/
theorem letters_of_forall {letters : List Char} (h : ∀ c ∈ letters, Text.isAsciiLetter c = true) :
    letters.contains '/' = false ∧ letters.all Text.isAsciiLetter = true := by
  refine ⟨?_, List.all_eq_true.mpr h⟩
  rw [← Bool.not_eq_true, List.contains_iff_mem]
  exact fun hslash => ne_slash_of_isAsciiLetter (h _ hslash) rfl

/-- Letters in any case are read as the method that they name. -/
theorem parseMethod_of_spelled {m : Method} {letters : List Char}
    (h : letters.map Text.upperAscii = m.render.toList) :
    parseMethod (some letters) = .ok (some m) := by
  rw [parseMethod, h, String.ofList_toList]
  cases m <;> rfl

/-! ### The host -/

theorem splitDots_of_dot_notMem {name : List Char} (h : '.' ∉ name) : splitDots name = [name] := by
  induction name with
  | nil => rfl
  | cons c cs ih =>
    have hc : c ≠ '.' := fun hc => h (hc ▸ List.mem_cons_self)
    rw [splitDots, if_neg hc, ih fun hmem => h (List.mem_cons_of_mem _ hmem)]

theorem splitDots_append_dot {name : List Char} (h : '.' ∉ name) (rest : List Char) :
    splitDots (name ++ '.' :: rest) = name :: splitDots rest := by
  induction name with
  | nil => rfl
  | cons c cs ih =>
    have hc : c ≠ '.' := fun hc => h (hc ▸ List.mem_cons_self)
    rw [List.cons_append, splitDots, if_neg hc, ih fun hmem => h (List.mem_cons_of_mem _ hmem)]

/-- Names with dots between them are cut out again. -/
theorem splitDots_intercalate {names : List (List Char)} (hne : names ≠ [])
    (h : ∀ name ∈ names, '.' ∉ name) : splitDots (['.'].intercalate names) = names := by
  induction names with
  | nil => exact absurd rfl hne
  | cons name names ih =>
    have hname : '.' ∉ name := h name List.mem_cons_self
    cases names with
    | nil => rw [List.intercalate_singleton, splitDots_of_dot_notMem hname]
    | cons next names =>
      rw [List.intercalate_cons_cons, List.append_assoc, List.singleton_append,
        splitDots_append_dot hname,
        ih (List.cons_ne_nil _ _) fun n hn => h n (List.mem_cons_of_mem _ hn)]

/-- A character of a host name is a hyphen or may stand in an identifier. -/
theorem isHostChar_cases {c : Char} (h : isHostChar c = true) :
    c = '-' ∨ Text.continuesIdentifier c = true := by
  rw [isHostChar, Bool.or_eq_true, Bool.or_eq_true, beq_iff_eq] at h
  rcases h with (h | h) | h
  · exact Or.inr (by simp [Text.continuesIdentifier, Text.startsIdentifier, Text.isAsciiLetter, h])
  · exact Or.inr (by simp [Text.continuesIdentifier, h])
  · exact Or.inl h

/-- Names with dots between them hold no other character than theirs. -/
theorem mem_intercalate_names {names : List (List Char)} (h : ∀ name ∈ names, IsHostName name)
    {c : Char} (hc : c ∈ ['.'].intercalate names) :
    c = '.' ∨ c = '-' ∨ Text.continuesIdentifier c = true := by
  induction names with
  | nil => cases hc
  | cons name names ih =>
    have hname : c ∈ name → c = '.' ∨ c = '-' ∨ Text.continuesIdentifier c = true := fun hc =>
      Or.inr (isHostChar_cases ((h name List.mem_cons_self).chars c hc))
    cases names with
    | nil =>
      rw [List.intercalate_singleton] at hc
      exact hname hc
    | cons next names =>
      rw [List.intercalate_cons_cons, List.append_assoc, List.singleton_append] at hc
      rcases List.mem_append.mp hc with hc | hc
      · exact hname hc
      rcases List.mem_cons.mp hc with rfl | hc
      · exact Or.inl rfl
      · exact ih (fun n hn => h n (List.mem_cons_of_mem _ hn)) hc

theorem splitDots_names {names : List (List Char)} (h : ∀ name ∈ names, IsHostName name)
    (hlength : 1 ≤ names.length) : splitDots (['.'].intercalate names) = names := by
  refine splitDots_intercalate (List.length_pos_iff.mp hlength) fun name hname hdot => ?_
  have hchar := (h name hname).chars '.' hdot
  revert hchar
  decide

/-- The check of names in a host passes. -/
theorem all_names {names : List (List Char)} (h : ∀ name ∈ names, IsHostName name) :
    (names.all fun p => !p.isEmpty && p.all isHostChar) = true := by
  rw [List.all_eq_true]
  intro name hname
  rw [Bool.and_eq_true, List.all_eq_true]
  exact ⟨by simpa using (h name hname).ne_nil, (h name hname).chars⟩

/-- Names with dots between them reach up to a port. -/
theorem colon_notMem_names {names : List (List Char)} (h : ∀ name ∈ names, IsHostName name) :
    ∀ c ∈ ['.'].intercalate names, (c != ':') = true := by
  intro c hc
  rw [bne_iff_ne]
  rintro rfl
  have hcases := mem_intercalate_names h hc
  revert hcases
  decide

/-- **A text of the grammar of hosts is a host.** -/
theorem MatchesHost.isHost {cs : List Char} (h : MatchesHost cs) : isHost cs = true := by
  cases h with
  | names hnames hlength =>
    have hcolon := colon_notMem_names hnames
    rw [Label.isHost, List.takeWhile_eq_self_iff.mpr hcolon, List.dropWhile_eq_nil_iff.mpr hcolon,
      splitDots_names hnames (Nat.le_of_lt hlength), all_names hnames]
    simpa using hlength
  | port hnames hlength hport =>
    obtain ⟨hne, hdigits⟩ := hport
    have hcolon := colon_notMem_names hnames
    rw [Label.isHost, List.takeWhile_append_of_pos hcolon, List.dropWhile_append_of_pos hcolon]
    simp [splitDots_names hnames hlength, all_names hnames, hne, List.all_eq_true.mpr hdigits]

/-- A host holds neither a blank nor a slash. -/
theorem MatchesHost.plain {cs : List Char} (h : MatchesHost cs) {c : Char} (hc : c ∈ cs) :
    Text.isBlank c = false ∧ c ≠ '/' := by
  have hname : c = '.' ∨ c = '-' ∨ Text.continuesIdentifier c = true →
      Text.isBlank c = false ∧ c ≠ '/' := by
    rintro (rfl | rfl | hc)
    · decide
    · decide
    · refine ⟨Text.not_blank_of_continuesIdentifier hc, ?_⟩
      rintro rfl
      revert hc
      decide
  cases h with
  | names hnames => exact hname (mem_intercalate_names hnames hc)
  | port hnames hlength hport =>
    obtain ⟨hne, hdigits⟩ := hport
    rcases List.mem_append.mp hc with hc | hc
    · exact hname (mem_intercalate_names hnames hc)
    rcases List.mem_cons.mp hc with rfl | hc
    · decide
    · refine ⟨Text.not_blank_of_isDecimal (hdigits c hc), ?_⟩
      rintro rfl
      have hslash := hdigits '/' hc
      revert hslash
      decide

namespace SpellsHost

variable {host : String} {text : List Char} (h : SpellsHost host text)

include h

/-- The text of a host is read as a host. -/
theorem valid : (text.isEmpty || isHost (lowerHost text)) = true := by
  rcases h.grammar with hempty | hmatches
  · have hlower := h.lower
    rw [hempty] at hlower
    have hnil : text = [] := List.map_eq_nil_iff.mp hlower
    rw [hnil]
    rfl
  · rw [h.lower, hmatches.isHost, Bool.or_true]

/-- No case of a host brings in a blank or a slash. -/
theorem plain {c : Char} (hc : c ∈ text) : Text.isBlank c = false ∧ c ≠ '/' := by
  have hmem : lowerHostChar c ∈ host.toList := by
    rw [← h.lower]
    exact List.mem_map_of_mem hc
  have hlower : Text.isBlank (lowerHostChar c) = false ∧ lowerHostChar c ≠ '/' := by
    rcases h.grammar with rfl | hmatches
    · cases hmem
    · exact hmatches.plain hmem
  by_cases hkelvin : c = '\u212a'
  · rw [hkelvin]
    decide
  -- a capital letter is neither, and every other character is its own small letter
  have hchar : lowerHostChar c = Text.lowerAscii c := by
    rw [lowerHostChar, if_neg (by simpa using hkelvin)]
  rw [hchar, Text.lowerAscii] at hlower
  split_ifs at hlower with hcapital
  · have hletter : Text.isAsciiLetter c = true := by
      rw [Text.isAsciiLetter, hcapital, Bool.or_true]
    refine ⟨isBlank_of_isAsciiLetter hletter, ?_⟩
    rintro rfl
    revert hletter
    decide
  · exact hlower

end SpellsHost

/-! ### Status and call -/

/-- A word of a text that does not start like a status is no status. -/
theorem not_isStatusWord {word rest : List Char} (hword : Text.IsWord word)
    (h : ¬StartsLikeStatus (word ++ rest)) : Status.isStatusWord word = false := by
  rw [← Bool.not_eq_true]
  refine fun hstatus => h ?_
  obtain ⟨c, cs, rfl⟩ := List.exists_cons_of_ne_nil hword.ne_nil
  rw [Status.isStatusWord, Bool.or_eq_true, Bool.and_eq_true, decide_eq_true_eq] at hstatus
  rcases hstatus with hdecimal | ⟨hfront, hlength⟩
  · exact .decimal hdecimal
  obtain ⟨name, hname⟩ := List.isPrefixOf_iff_prefix.mp hfront
  -- something stands behind the word in front, and it is no blank
  obtain ⟨d, ds, rfl⟩ : ∃ d ds, name = d :: ds := by
    refine List.exists_cons_of_ne_nil ?_
    rintro rfl
    rw [← hname, List.append_nil] at hlength
    exact absurd hlength (Nat.lt_irrefl _)
  rw [Status.dropFront] at hname
  split_ifs at hname with hhttp
  · obtain ⟨named, hnamed⟩ := List.isPrefixOf_iff_prefix.mp hhttp
    rw [← hnamed, List.drop_left] at hname
    have hd : Text.isBlank d = false := hword.not_blank d (by rw [← hnamed, ← hname]; simp)
    rw [← hnamed, ← hname, List.append_assoc]
    exact .http_constant hd
  · have hd : Text.isBlank d = false := hword.not_blank d (by rw [← hname]; simp)
    rw [← hname, List.append_assoc]
    exact .constant hd

/-! ### The words of the parts -/

/-- Blanks in front of the words of a text, or its end. -/
def EndsWord (rest : List Char) : Prop :=
  ∀ c ∈ rest.head?, Text.isBlank c = true

theorem IsGap.endsWord {gap : List Char} (h : IsGap gap) (rest : List Char) :
    EndsWord (gap ++ rest) := by
  obtain ⟨c, cs, rfl⟩ := List.exists_cons_of_ne_nil h.ne_nil
  rintro _ ⟨⟩
  exact h.blank c List.mem_cons_self

/-- The word behind a gap is cut off. -/
theorem IsGap.words_append {gap word rest : List Char} (h : IsGap gap) (hword : Text.IsWord word)
    (hrest : EndsWord rest) :
    Text.words (gap ++ word ++ rest) = word :: Text.words rest := by
  rw [List.append_assoc, Text.words_blanks_append h.blank, Text.words_isWord_append hword hrest]

/-- The written method is the word in front of the host, if there is one, and is read as the
method. -/
theorem SpellsMethod.words_append {method : Option Method} {text : List Char}
    (h : SpellsMethod method text) (rest : List Char) :
    ∃ letters? : Option (List Char),
      Text.words (text ++ rest) = letters?.toList ++ Text.words rest ∧
      parseMethod letters? = .ok method ∧
      ∀ letters ∈ letters?, letters.contains '/' = false ∧
        letters.all Text.isAsciiLetter = true := by
  cases h with
  | absent => exact ⟨none, rfl, rfl, by simp⟩
  | @named m letters gap hcase hgap =>
    have hletter : ∀ c ∈ letters, Text.isAsciiLetter c = true := fun c =>
      isAsciiLetter_of_spelled hcase
    have hword : Text.IsWord letters := by
      refine ⟨?_, fun c hc => isBlank_of_isAsciiLetter (hletter c hc)⟩
      rintro rfl
      exact (isWord_render_method m).ne_nil hcase.symm
    refine ⟨some letters, ?_, parseMethod_of_spelled hcase, ?_⟩
    · rw [List.append_assoc, Text.words_isWord_append hword (hgap.endsWord rest),
        Text.words_blanks_append hgap.blank]
      rfl
    · rintro _ ⟨⟩
      exact letters_of_forall hletter

/-- The written status is the word in front of the call, if it is explicit, and is read as the
code. -/
theorem SpellsStatus.words_append {code : Nat} {explicit : Bool} {text rest : List Char}
    (h : SpellsStatus code explicit text) (hrest : EndsWord rest) :
    ∃ word? : Option (List Char),
      Text.words (text ++ rest) = word?.toList ++ Text.words rest ∧
      parseStatus word? = .ok (code, explicit) ∧ word?.isSome = explicit ∧
      ∀ word ∈ word?, Status.isStatusWord word = true := by
  cases h with
  | implicit => exact ⟨none, rfl, rfl, rfl, by simp⟩
  | @explicit gap word _ hgap hword =>
    refine ⟨some word, hgap.words_append hword.isWord hrest, ?_, rfl, ?_⟩
    · rw [parseStatus, hword.parse_eq_ok]
    · rintro _ ⟨⟩
      exact hword.isStatusWord

theorem SpellsStatus.endsWord {code : Nat} {explicit : Bool} {text rest : List Char}
    (h : SpellsStatus code explicit text) (hrest : EndsWord rest) : EndsWord (text ++ rest) := by
  cases h with
  | implicit => exact hrest
  | explicit hgap =>
    rw [List.append_assoc]
    exact hgap.endsWord _

namespace SpellsCall

variable {explicit : Bool} {call : String} {text : List Char} (h : SpellsCall explicit call text)

include h

/-- The words behind the status are those of the call. -/
theorem words_append {tail : List Char} (htail : ∀ c ∈ tail, Text.isBlank c = true) :
    Text.words (text ++ tail) = Text.words call.toList := by
  rw [Text.words_append_blanks htail]
  cases h with
  | absent => rfl
  | written hgap => rw [Text.words_blanks_append hgap.blank]

/-- The call is put together again from its words. -/
theorem unwords_words : Text.unwords (Text.words call.toList) = call.toList := by
  cases h with
  | absent => rfl
  | written hgap hne hcollapse =>
    have htext := congrArg String.toList hcollapse
    rwa [Text.collapse, String.toList_ofList] at htext

/-- The call is not taken for a status where there is none. -/
theorem not_isStatusWord_head (hexplicit : explicit = false) :
    ∀ word ∈ (Text.words call.toList).head?, Status.isStatusWord word = false := by
  have hunwords := h.unwords_words
  cases h with
  | absent => rintro _ ⟨⟩
  | written hgap hne hcollapse hstart =>
    cases hwords : Text.words call.toList with
    | nil => rintro _ ⟨⟩
    | cons word ws =>
      rintro _ ⟨⟩
      have hword : Text.IsWord word := Text.isWord_of_mem_words (hwords ▸ List.mem_cons_self)
      -- the first word of the call starts the call
      obtain ⟨rest, hrest⟩ : ∃ rest, call.toList = word ++ rest := by
        rw [← hunwords, hwords]
        cases ws with
        | nil => exact ⟨[], by simp [Text.unwords]⟩
        | cons v ws => exact ⟨' ' :: Text.unwords (v :: ws), by simp [Text.unwords]⟩
      exact not_isStatusWord hword (hrest ▸ hstart hexplicit)

theorem endsWord {tail : List Char} (htail : ∀ c ∈ tail, Text.isBlank c = true) :
    EndsWord (text ++ tail) := by
  cases h with
  | absent => exact fun c hc => htail c (List.mem_of_head? hc)
  | written hgap =>
    rw [List.append_assoc]
    exact hgap.endsWord _

end SpellsCall

/-- The first word behind the path is the status if there is one, and the rest is the call. -/
theorem statusAndCall_append {word? : Option (List Char)} {ws : List (List Char)}
    (hword : ∀ word ∈ word?, Status.isStatusWord word = true)
    (hcall : word?.isSome = false → ∀ word ∈ ws.head?, Status.isStatusWord word = false) :
    statusAndCall (word?.toList ++ ws) = (word?, Text.unwords ws) := by
  cases word? with
  | some word => rw [Option.toList_some, List.singleton_append, statusAndCall, if_pos (hword word rfl)]
  | none =>
    cases ws with
    | nil => rfl
    | cons word ws =>
      rw [Option.toList_none, List.nil_append, statusAndCall, hcall rfl word rfl,
        if_neg Bool.false_ne_true]

/-! ### The whole label -/

/-- **Reading undoes writing.** A label that is written from its parts is read as that label:
the method in any case or none, a host of the grammar in any case or none, the path of segments
that may stand in one path, a status in ASCII digits or by its registered name or none, and a
collapsed call or none, which does not start like a status if there is none; with any blanks
between the parts and around the whole. -/
theorem parse_written_label {label : Label} {subtree : Bool}
    {lead method host status call tail : List Char}
    (hlead : ∀ c ∈ lead, Text.isBlank c = true) (hmethod : SpellsMethod label.method method)
    (hhost : SpellsHost label.host host) (hsegments : Path.WellFormed label.segments subtree)
    (hpath : label.path = Path.written label.segments subtree)
    (hstatus : SpellsStatus label.status label.explicitStatus status)
    (hcall : SpellsCall label.explicitStatus label.callText call)
    (htail : ∀ c ∈ tail, Text.isBlank c = true)
    (hname : label.name.toList =
      lead ++ (method ++ (host ++ label.path.toList ++ (status ++ (call ++ tail))))) :
    Label.parse label.name = .ok (some label) := by
  obtain ⟨cs, hcs⟩ : ∃ cs, label.path.toList = '/' :: cs := by
    rw [hpath]
    exact Path.WellFormed.exists_written_eq_cons label.segments subtree
  have htarget : Text.IsWord (host ++ label.path.toList) := by
    refine ⟨by simp [hcs], fun c hc => ?_⟩
    rcases List.mem_append.mp hc with hc | hc
    · exact (hhost.plain hc).1
    · rw [hpath] at hc
      exact hsegments.written_not_blank c hc
  have hends : EndsWord (call ++ tail) := hcall.endsWord htail
  obtain ⟨word?, hstatusWords, hparseStatus, hsome, hstatusWord⟩ := hstatus.words_append hends
  obtain ⟨letters?, hmethodWords, hparseMethod, hletters⟩ :=
    hmethod.words_append (host ++ label.path.toList ++ (status ++ (call ++ tail)))
  -- the words of the text are the words of the parts
  have hwords : Text.words label.name.toList =
      letters?.toList ++ (host ++ '/' :: cs) :: (word?.toList ++ Text.words label.callText.toList) := by
    rw [hname, Text.words_blanks_append hlead, hmethodWords,
      Text.words_isWord_append htarget (hstatus.endsWord hends), hstatusWords,
      hcall.words_append htail, hcs]
  have hparts : parts? label.name =
      some ⟨letters?, host, label.path.toList, word?, label.callText.toList⟩ := by
    rw [parts?, hwords, partsOfWords_target hletters (fun c hc => (hhost.plain hc).2),
      statusAndCall_append hstatusWord fun hnone => hcall.not_isStatusWord_head (hsome ▸ hnone),
      hcall.unwords_words, hcs]
    exact if_pos hhost.valid
  have hsegs : Path.parse label.path.toList = .ok label.segments := by
    rw [hpath]
    exact hsegments.parse_written
  rw [Label.parse, hparts]
  dsimp only
  rw [ofParts]
  dsimp only
  rw [hparseMethod, hsegs, hparseStatus, hhost.lower, String.ofList_toList, String.ofList_toList,
    String.ofList_toList]
  rfl

/-- A host and a method in mixed case, a path of a subtree, and a call that starts like a status
behind the status of the label. -/
theorem parse_written_label_created :
    Label.parse " pOsT\t A.\u212aelvin/b/\x7bid\x7d/ \n http.HTTPStatus.CREATED  200 F(id) " =
      .ok (some ⟨" pOsT\t A.\u212aelvin/b/\x7bid\x7d/ \n http.HTTPStatus.CREATED  200 F(id) ",
        some .post, "a.kelvin", "/b/\x7bid\x7d/", [.literal "b", .param "id"], 201, true,
        "200 F(id)"⟩) := by
  have hparam : Path.IsParamName "id" :=
    ⟨by decide, by decide, by decide, by decide, by decide⟩
  have hsegments : Path.WellFormed [.literal "b", .param "id"] true := by
    refine ⟨?_, ?_, by decide, by simp [Segment.IsOpen], by simp [Segment.IsOpen], by simp⟩
    · have hliteral : (Segment.literal "b").IsPlain := ⟨by decide, by simp⟩
      simpa using ⟨hliteral, hparam⟩
    · rintro text htext
      obtain rfl : text = "b" := by simpa using htext
      exact List.forall_mem_singleton.mpr rfl
  have hhost : MatchesHost "a.kelvin".toList := by
    have h : MatchesHost (['.'].intercalate ["a".toList, "kelvin".toList]) := by
      have ha : IsHostName "a".toList := ⟨by decide, List.all_eq_true.mp rfl⟩
      have hkelvin : IsHostName "kelvin".toList := ⟨by decide, List.all_eq_true.mp rfl⟩
      exact .names (by simpa using ⟨ha, hkelvin⟩) (by decide)
    exact h
  have hmethod : SpellsMethod (some .post) ("pOsT".toList ++ "\t ".toList) :=
    .named (by decide) ⟨by decide, List.all_eq_true.mp rfl⟩
  have hstatus : SpellsStatus 201 true
      (" \n ".toList ++ ("http.HTTPStatus." ++ "CREATED").toList) :=
    .explicit ⟨by decide, List.all_eq_true.mp rfl⟩ (.constant (by simp) (by simp [Status.registered]))
  have hcall : SpellsCall true "200 F(id)" ("  ".toList ++ "200 F(id)".toList) :=
    .written ⟨by decide, List.all_eq_true.mp rfl⟩ (by decide) (by rfl) (by simp)
  have hlead : ∀ c ∈ " ".toList, Text.isBlank c = true := List.all_eq_true.mp rfl
  exact @parse_written_label
    ⟨" pOsT\t A.\u212aelvin/b/\x7bid\x7d/ \n http.HTTPStatus.CREATED  200 F(id) ",
      some .post, "a.kelvin", "/b/\x7bid\x7d/", [.literal "b", .param "id"], 201, true,
      "200 F(id)"⟩ true _ _ "A.\u212aelvin".toList _ _ _ hlead hmethod
    ⟨by decide, Or.inr hhost⟩ hsegments (by decide) hstatus hcall hlead (by decide)

/-! ### Numerals that are too long -/

theorem ofDigitChars_replicate_zero (n : Nat) (digits : List Char) :
    Nat.ofDigitChars 10 (List.replicate n '0' ++ digits) 0 = Nat.ofDigitChars 10 digits 0 := by
  induction n with
  | zero => rfl
  | succ n ih => exact ih

/-- A label with too many digits behind its path has no status. -/
theorem parse_of_long_digits {digits : List Char}
    (hdigits : ∀ d ∈ digits, Text.isAsciiDigit d = true)
    (hlength : Numeral.maxDigits < digits.length) :
    Label.parse (String.ofList ("/ ".toList ++ digits)) =
      .error (.status (.unreadable (String.ofList digits))) := by
  have hne : digits ≠ [] := by
    rintro rfl
    exact absurd hlength (Nat.not_lt_zero _)
  have hword : Text.IsWord digits := by
    refine ⟨hne, fun c hc => ?_⟩
    exact Text.not_blank_of_isDecimal (Status.isDecimal_of_isAsciiDigit (hdigits c hc))
  have hwords : Text.words ("/ ".toList ++ digits) = [['/'], digits] := by
    have hslash : Text.IsWord ['/'] := ⟨by decide, List.forall_mem_singleton.mpr rfl⟩
    have hspace : ∀ c ∈ [' '], Text.isBlank c = true := List.forall_mem_singleton.mpr rfl
    have hgap : IsGap [' '] := ⟨by decide, hspace⟩
    rw [show "/ ".toList ++ digits = ['/'] ++ ([' '] ++ digits) from rfl,
      Text.words_isWord_append hslash (hgap.endsWord digits), Text.words_blanks_append hspace,
      Text.words_of_isWord hword]
  have hstatus : Status.isStatusWord digits = true := by
    obtain ⟨d, ds, rfl⟩ := List.exists_cons_of_ne_nil hne
    rw [Status.isStatusWord, Status.isDecimal_of_isAsciiDigit (hdigits d List.mem_cons_self),
      Bool.true_or]
  have hparts : parts? (String.ofList ("/ ".toList ++ digits)) =
      some ⟨none, [], ['/'], some digits, []⟩ := by
    rw [parts?, String.toList_ofList, hwords]
    simp [partsOfWords, partsAfterMethod, statusAndCall, hstatus, Text.unwords]
  rw [Label.parse, hparts]
  dsimp only
  rw [ofParts]
  dsimp only
  rw [parseStatus, Status.parse_of_maxDigits_lt hdigits hlength]
  rfl

/-- A status of 4301 digits whose value is 200. -/
theorem unreadable_of_long_digits :
    (∀ d ∈ List.replicate 4298 '0' ++ ['2', '0', '0'], Text.isAsciiDigit d = true) ∧
      Nat.ofDigitChars 10 (List.replicate 4298 '0' ++ ['2', '0', '0']) 0 = 200 ∧
      Label.parse (String.ofList ("/ ".toList ++ (List.replicate 4298 '0' ++ ['2', '0', '0']))) =
        .error (.status (.unreadable
          (String.ofList (List.replicate 4298 '0' ++ ['2', '0', '0'])))) := by
  have hdigits : ∀ d ∈ List.replicate 4298 '0' ++ ['2', '0', '0'], Text.isAsciiDigit d = true := by
    intro d hd
    rcases List.mem_append.mp hd with hd | hd
    · rw [List.eq_of_mem_replicate hd]
      decide
    · have hend : ∀ d ∈ ['2', '0', '0'], Text.isAsciiDigit d = true :=
        List.all_eq_true.mp rfl
      exact hend d hd
  refine ⟨hdigits, ofDigitChars_replicate_zero 4298 _, parse_of_long_digits hdigits ?_⟩
  rw [List.length_append, List.length_replicate]
  decide

end FragmentRoutes.Route.Label
