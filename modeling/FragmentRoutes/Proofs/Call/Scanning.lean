import FragmentRoutes.Proofs.Call.Names
import FragmentRoutes.Proofs.Text.Blank
import FragmentRoutes.Proofs.Text.NormalForm

/-!
# The tokens of a call

A call is written with its names, parentheses, commas and single spaces.  If the names are
identifiers in compatibility form and the calls are nested no deeper than brackets may be, the scan
of the text gives the tokens of these back (`scan_render`): a name is its own form, or a word of the
grammar.
-/

namespace FragmentRoutes

open Code

namespace Code.Token

/-- The text is an identifier, and its own compatibility form. -/
def IsForm (id : String) : Prop :=
  Text.isIdentifier id = true ∧ Text.compatibilityForm id = id

theorem IsFormOfName.isForm {id : String} (h : IsFormOfName id) : IsForm id := by
  obtain ⟨s, hs, rfl⟩ := h
  rw [Text.isName, Bool.and_eq_true] at hs
  exact ⟨Text.isIdentifier_compatibilityForm hs.1, Text.compatibilityForm_compatibilityForm hs.1⟩

/-- The token that an identifier is: a word of the grammar, or a name in its compatibility form. -/
def ofIdentifier (id : String) : Token :=
  if Text.isReserved id then .word id else .name (Text.compatibilityForm id)

/-- The token that an identifier in compatibility form is. -/
def ofForm (id : String) : Token :=
  if Text.isReserved id then .word id else .name id

theorem ofIdentifier_of_isForm {id : String} (h : IsForm id) : ofIdentifier id = ofForm id := by
  rw [ofIdentifier, h.2, ofForm]

/-! ### Names -/

theorem isNamePart_of_continuesIdentifier {c : Char} (h : Text.continuesIdentifier c = true) :
    isNamePart c = true := by
  simp only [Text.continuesIdentifier, Text.startsIdentifier, Bool.or_eq_true, Bool.and_eq_true,
    decide_eq_true_eq] at h
  simp only [isNamePart, Bool.or_eq_true, decide_eq_true_eq]
  tauto

theorem isNamePart_of_isIdentifier {id : String} (h : Text.isIdentifier id = true) :
    ∀ c ∈ id.toList, isNamePart c = true :=
  fun c hc => isNamePart_of_continuesIdentifier
    (List.all_eq_true.mp (Text.continuesIdentifier_of_isIdentifier h) c hc)

theorem IsForm.isNamePart {id : String} (h : IsForm id) : ∀ c ∈ id.toList, isNamePart c = true :=
  isNamePart_of_isIdentifier h.1

/-- The text goes on with a mark that is written behind a name. -/
inductive Stops : List Char → Prop where
  | opening (cs : List Char) : Stops ('(' :: cs)
  | closing (cs : List Char) : Stops (')' :: cs)
  | comma (cs : List Char) : Stops (',' :: cs)

theorem Stops.takeWhile_eq {cs rest : List Char} (hrest : Stops rest)
    (hcs : ∀ c ∈ cs, isNamePart c = true) :
    (cs ++ rest).takeWhile isNamePart = cs ∧ (cs ++ rest).dropWhile isNamePart = rest := by
  have hstop : rest.takeWhile isNamePart = [] ∧ rest.dropWhile isNamePart = rest := by
    cases hrest <;> exact ⟨rfl, rfl⟩
  rw [List.takeWhile_append_of_pos hcs, List.dropWhile_append_of_pos hcs, hstop.1, hstop.2,
    List.append_nil]
  exact ⟨rfl, rfl⟩

/-- **An identifier** is a token of its own. -/
theorem nameOrQuoted_of_isIdentifier {id : String} {rest : List Char}
    (hid : Text.isIdentifier id = true) (hrest : Stops rest) :
    nameOrQuoted (id.toList ++ rest) = some (ofIdentifier id, rest) := by
  have hquote : (rest.head? == some '"' || rest.head? == some '\'') = false := by
    cases hrest <;> rfl
  obtain ⟨htake, hdrop⟩ := hrest.takeWhile_eq (isNamePart_of_isIdentifier hid)
  have hchars : (!Text.isIdentifierChars id.toList) = false := by
    rw [Bool.not_eq_false']
    exact hid
  rw [nameOrQuoted, htake, hdrop, hquote, if_neg Bool.false_ne_true]
  dsimp only
  rw [hchars, if_neg Bool.false_ne_true, String.ofList_toList, ofIdentifier]
  split_ifs
  · rfl
  · rfl

/-- A character that may stand in a name is no mark, quote or blank. -/
theorem ne_of_isNamePart {c d : Char} (h : isNamePart c = true) (hd : isNamePart d = false) :
    (c == d) = false := by
  rw [beq_eq_false_iff_ne]
  rintro rfl
  rw [h] at hd
  cases hd

theorem not_isAsciiDigit_of_startsIdentifier {c : Char} (h : Text.startsIdentifier c = true) :
    Text.isAsciiDigit c = false := by
  simp only [Text.startsIdentifier, Text.isAsciiLetter, Bool.or_eq_true, Bool.and_eq_true,
    decide_eq_true_eq, beq_iff_eq, Text.le_iff_toNat_le] at h
  simp only [Text.isAsciiDigit, Bool.and_eq_false_iff, decide_eq_false_iff_not,
    Text.le_iff_toNat_le]
  have hbounds : '9'.toNat = 57 ∧ 'a'.toNat = 97 ∧ 'A'.toNat = 65 ∧ '_'.toNat = 95 := by decide
  rcases h with (h | rfl) | h
  · omega
  · omega
  · omega

/-- An identifier starts with a character of names that is no digit. -/
theorem exists_toList_eq_cons {id : String} (h : Text.isIdentifier id = true) :
    ∃ c cs, id.toList = c :: cs ∧ isNamePart c = true ∧ Text.isAsciiDigit c = false := by
  rw [Text.isIdentifier] at h
  cases hid : id.toList with
  | nil =>
    rw [hid] at h
    cases h
  | cons c cs =>
    rw [hid, Text.isIdentifierChars, Bool.and_eq_true] at h
    have hcontinues : Text.continuesIdentifier c = true := by
      rw [Text.continuesIdentifier, h.1]
      rfl
    exact ⟨c, cs, rfl, isNamePart_of_continuesIdentifier hcontinues,
      not_isAsciiDigit_of_startsIdentifier h.1⟩

theorem next?_of_isIdentifier {id : String} {rest : List Char} (hid : Text.isIdentifier id = true)
    (hrest : Stops rest) : next? (id.toList ++ rest) = some (ofIdentifier id, rest) := by
  have htoken := nameOrQuoted_of_isIdentifier hid hrest
  obtain ⟨c, cs, hcons, hpart, hdigit⟩ := exists_toList_eq_cons hid
  rw [hcons, List.cons_append] at htoken ⊢
  rw [next?, hdigit, ne_of_isNamePart hpart (by decide), ne_of_isNamePart hpart (by decide),
    ne_of_isNamePart hpart (by decide), hpart]
  exact htoken

/-! ### Steps of the scan -/

/-- The scan of a line comes, behind the tokens `ts`, from the one text to the other, and from the
one open brackets to the others.  It takes at least one step for each token, and at most one for
each character. -/
def Scans (opened : List String) (cs : List Char) (ts : List Token) (opened' : List String)
    (cs' : List Char) : Prop :=
  ∃ steps, ts.length ≤ steps ∧ steps + cs'.length ≤ cs.length ∧
    ∀ fuel, scanFrom .inLine opened (fuel + steps) cs =
      (scanFrom .inLine opened' fuel cs').map (ts ++ ·)

variable {opened opened' opened'' : List String} {cs cs' cs'' : List Char} {ts ts' : List Token}

theorem Scans.refl (opened : List String) (cs : List Char) : Scans opened cs [] opened cs :=
  ⟨0, le_rfl, by omega, fun fuel => by simp⟩

theorem Scans.trans (h : Scans opened cs ts opened' cs')
    (h' : Scans opened' cs' ts' opened'' cs'') : Scans opened cs (ts ++ ts') opened'' cs'' := by
  obtain ⟨steps, htokens, hchars, h⟩ := h
  obtain ⟨steps', htokens', hchars', h'⟩ := h'
  refine ⟨steps' + steps, by rw [List.length_append]; omega, by omega, fun fuel => ?_⟩
  rw [← Nat.add_assoc, h, h', Option.map_map]
  simp only [Function.comp_def, List.append_assoc]

/-- A token is cut off at the start of a text, unless a comment, a blank or the end of the line
stands there. -/
theorem scans_next {c : Char} {token : Token} (hstart : isGap c = false ∧ c ∉ ['#', '\n', '\\'])
    (hnext : next? (c :: cs) = some (token, cs')) (hlt : cs'.length ≤ cs.length)
    (htrack : track opened token = some opened') :
    Scans opened (c :: cs) [token] opened' cs' := by
  refine ⟨1, le_rfl, by rw [List.length_cons]; omega, fun fuel => ?_⟩
  simp only [List.mem_cons, List.not_mem_nil, or_false, not_or] at hstart
  obtain ⟨hgap, hcomment, hend, hjoin⟩ := hstart
  conv_lhs => unfold scanFrom
  rw [if_neg (by simpa using hcomment), if_neg (by simpa using hend), if_neg (by simp [hgap]),
    if_neg (by simpa using hjoin), hnext]
  dsimp only
  rw [htrack]
  rfl

theorem scans_identifier {id : String} (hid : Text.isIdentifier id = true) (hcs : Stops cs) :
    Scans opened (id.toList ++ cs) [ofIdentifier id] opened cs := by
  have hnext := next?_of_isIdentifier hid hcs
  obtain ⟨c, ds, hcons, hpart, -⟩ := exists_toList_eq_cons hid
  rw [hcons, List.cons_append] at hnext ⊢
  refine scans_next ⟨?_, ?_⟩ hnext (by simp) ?_
  · rw [isGap, ne_of_isNamePart hpart (by decide), ne_of_isNamePart hpart (by decide),
      ne_of_isNamePart hpart (by decide)]
    rfl
  · simp only [List.mem_cons, List.not_mem_nil, or_false, not_or]
    exact ⟨beq_eq_false_iff_ne.mp (ne_of_isNamePart hpart (by decide)),
      beq_eq_false_iff_ne.mp (ne_of_isNamePart hpart (by decide)),
      beq_eq_false_iff_ne.mp (ne_of_isNamePart hpart (by decide))⟩
  · unfold ofIdentifier
    split_ifs <;> rfl

theorem scans_name {id : String} (hid : IsForm id) (hcs : Stops cs) :
    Scans opened (id.toList ++ cs) [ofForm id] opened cs :=
  ofIdentifier_of_isForm hid ▸ scans_identifier hid.1 hcs

theorem scans_opening (h : opened.length < maxDepth) :
    Scans opened ('(' :: cs) [.mark "("] (")" :: opened) cs := by
  refine scans_next (by decide) rfl le_rfl ?_
  exact if_neg (by omega)

theorem scans_closing : Scans (")" :: opened) (')' :: cs) [.mark ")"] opened cs :=
  scans_next (by decide) rfl le_rfl rfl

theorem scans_comma : Scans opened (',' :: ' ' :: cs) [.mark ","] opened cs := by
  have hcomma : Scans opened (',' :: ' ' :: cs) [.mark ","] opened (' ' :: cs) :=
    scans_next (by decide) rfl le_rfl rfl
  have hblank : Scans opened (' ' :: cs) [] opened cs := by
    refine ⟨1, Nat.zero_le 1, by rw [List.length_cons]; omega, fun fuel => ?_⟩
    simp only [List.nil_append, Option.map_id']
    rfl
  exact hcomma.trans hblank

end Code.Token

open Code.Token

/-! ### The tokens of calls -/

namespace Call

mutual

/-- The tokens of an argument. -/
def tokensOfArgument : Argument → List Token
  | .name id => [ofForm id]
  | .call callee args =>
    [ofForm callee, .mark "("] ++ tokensOfArguments args ++ [.mark ")"]

/-- The tokens of arguments, with commas between them. -/
def tokensOfArguments : List Argument → List Token
  | [] => []
  | a :: as => tokensOfArgument a ++ tokensOfFurther as

/-- The tokens of arguments after the first, each with a comma before it. -/
def tokensOfFurther : List Argument → List Token
  | [] => []
  | a :: as => .mark "," :: tokensOfArgument a ++ tokensOfFurther as

end

/-- The tokens of a call. -/
def tokens (call : Call) : List Token :=
  tokensOfArgument (.call call.callee call.args)

/-- Arguments after the first as they are written, each with a comma and a space before it. -/
def writtenFurther (as : List Argument) : List Char :=
  as.flatMap fun a => ',' :: ' ' :: (renderArgument a).toList

theorem toList_renderArguments_cons (a : Argument) (as : List Argument) :
    (", ".intercalate (renderArguments (a :: as))).toList =
      (renderArgument a).toList ++ writtenFurther as := by
  induction as generalizing a with
  | nil =>
    rw [renderArguments, renderArguments, String.intercalate_singleton, writtenFurther,
      List.flatMap_nil, List.append_nil]
  | cons b bs ih =>
    rw [renderArguments, renderArguments, String.intercalate_cons_cons, String.toList_append,
      String.toList_append, List.append_assoc, ← renderArguments, ih]
    rfl

theorem toList_renderArgument_call (callee : String) (args : List Argument) :
    (renderArgument (.call callee args)).toList = callee.toList ++
      '(' :: ((", ".intercalate (renderArguments args)).toList ++ [')']) := by
  rw [renderArgument, String.toList_append, String.toList_append, String.toList_append]
  simp only [List.append_assoc]
  rfl

section

variable {opened : List String} {rest : List Char}

/-- Further arguments are scanned one after the other, if each of them is. -/
theorem scans_further {as : List Argument} (hrest : Stops rest)
    (h : ∀ a ∈ as, ∀ rest, Stops rest →
      Scans opened ((renderArgument a).toList ++ rest) (tokensOfArgument a) opened rest) :
    Scans opened (writtenFurther as ++ rest) (tokensOfFurther as) opened rest ∧
      Stops (writtenFurther as ++ rest) := by
  induction as with
  | nil => exact ⟨.refl opened rest, hrest⟩
  | cons a as ih =>
    obtain ⟨ha, has⟩ := List.forall_mem_cons.mp h
    obtain ⟨hscans, hstops⟩ := ih has
    have hwritten : writtenFurther (a :: as) ++ rest =
        ',' :: ' ' :: ((renderArgument a).toList ++ (writtenFurther as ++ rest)) := by
      rw [← List.append_assoc]
      rfl
    rw [hwritten]
    exact ⟨scans_comma.trans ((ha _ hstops).trans hscans), .comma _⟩

theorem scans_arguments {as : List Argument} (hrest : Stops rest)
    (h : ∀ a ∈ as, ∀ rest, Stops rest →
      Scans opened ((renderArgument a).toList ++ rest) (tokensOfArgument a) opened rest) :
    Scans opened ((", ".intercalate (renderArguments as)).toList ++ rest) (tokensOfArguments as)
      opened rest := by
  cases as with
  | nil => exact .refl opened rest
  | cons a as =>
    obtain ⟨ha, has⟩ := List.forall_mem_cons.mp h
    obtain ⟨hscans, hstops⟩ := scans_further hrest has
    rw [toList_renderArguments_cons, List.append_assoc]
    exact (ha _ hstops).trans hscans

/-- A call is scanned to its tokens if its arguments are, whatever follows it. -/
theorem scans_call {callee : String} {args : List Argument} (hcallee : IsForm callee)
    (hroom : opened.length < maxDepth)
    (hargs : ∀ a ∈ args, ∀ rest, Stops rest →
      Scans (")" :: opened) ((renderArgument a).toList ++ rest) (tokensOfArgument a)
        (")" :: opened) rest) :
    Scans opened ((renderArgument (.call callee args)).toList ++ rest)
      (tokensOfArgument (.call callee args)) opened rest := by
  rw [toList_renderArgument_call, List.append_assoc, List.cons_append, List.append_assoc]
  have hinside := (scans_arguments (.closing rest) hargs).trans scans_closing
  have hscans := (scans_name hcallee (.opening _)).trans ((scans_opening hroom).trans hinside)
  rw [tokensOfArgument, List.append_assoc]
  exact hscans

/-- **An argument that is written** is scanned to its tokens. -/
theorem scans_argument {a : Argument} {n : Nat} (h : a.Named IsForm n)
    (hroom : opened.length + n ≤ maxDepth) (hrest : Stops rest) :
    Scans opened ((renderArgument a).toList ++ rest) (tokensOfArgument a) opened rest := by
  induction h generalizing opened rest with
  | name hid => exact scans_name hid hrest
  | call hcallee _ ih =>
    refine scans_call hcallee (by omega) fun a ha rest hrest => ih a ha ?_ hrest
    rw [List.length_cons]
    omega

end

/-! ### The text of a call -/

/-- A call is written with characters of names, parentheses, commas and spaces. -/
theorem mem_renderArgument {a : Argument} {n : Nat} (h : a.Named IsForm n) :
    ∀ c ∈ (renderArgument a).toList, isNamePart c = true ∨ c ∈ ['(', ')', ',', ' '] := by
  induction h with
  | name hid => exact fun c hc => .inl (hid.isNamePart c hc)
  | @call n callee args hcallee _ ih =>
    have hargs : ∀ c ∈ (", ".intercalate (renderArguments args)).toList,
        isNamePart c = true ∨ c ∈ ['(', ')', ',', ' '] := by
      cases args with
      | nil => simp [renderArguments]
      | cons a as =>
        obtain ⟨ha, has⟩ := List.forall_mem_cons.mp ih
        rw [toList_renderArguments_cons, List.forall_mem_append]
        refine ⟨ha, fun c hc => ?_⟩
        obtain ⟨b, hb, hc⟩ := List.mem_flatMap.mp hc
        rcases List.mem_cons.mp hc with rfl | hc
        · exact .inr (by decide)
        rcases List.mem_cons.mp hc with rfl | hc
        · exact .inr (by decide)
        · exact has b hb c hc
    rw [toList_renderArgument_call, List.forall_mem_append, List.forall_mem_cons,
      List.forall_mem_append, List.forall_mem_singleton]
    exact ⟨fun c hc => .inl (hcallee.isNamePart c hc), .inr (by decide), hargs, .inr (by decide)⟩

theorem joinLineEnds_eq_self {cs : List Char} (h : '\r' ∉ cs) : joinLineEnds cs = cs := by
  induction cs with
  | nil => rfl
  | cons c cs ih =>
    rw [List.mem_cons, not_or] at h
    rw [joinLineEnds, ih h.2]
    · exact fun _ heq => absurd heq.symm h.1
    · exact fun heq => absurd heq.symm h.1

theorem stripChars_eq_self {c d : Char} {cs : List Char} (hc : Text.isBlank c = false)
    (hd : Text.isBlank d = false) : Text.stripChars (c :: (cs ++ [d])) = c :: (cs ++ [d]) := by
  have hlast : (c :: (cs ++ [d])).reverse = d :: (c :: cs).reverse := by simp
  rw [Text.stripChars, List.dropWhile_cons_of_neg (by simp [hc]), hlast,
    List.dropWhile_cons_of_neg (by simp [hd]), ← hlast, List.reverse_reverse]

theorem render_eq (call : Call) :
    call.render = renderArgument (.call call.callee call.args) := by
  rw [renderArgument]
  rfl

/-- The text of a call starts with a name, and ends with a parenthesis. -/
theorem exists_render_eq {call : Call} {n : Nat} (h : call.Named IsForm n) :
    ∃ c cs, call.render.toList = c :: (cs ++ [')']) ∧ isNamePart c = true ∧
      Text.isBlank c = false := by
  obtain ⟨c, cs, hcons, hpart, -⟩ := exists_toList_eq_cons h.callee.1
  have hcontinues : Text.continuesIdentifier c = true := by
    have hall := List.all_eq_true.mp (Text.continuesIdentifier_of_isIdentifier h.callee.1) c
    exact hall (hcons ▸ List.mem_cons_self)
  refine ⟨c, cs ++ '(' :: (", ".intercalate (renderArguments call.args)).toList, ?_, hpart,
    Text.not_blank_of_continuesIdentifier hcontinues⟩
  rw [render_eq, toList_renderArgument_call, hcons]
  simp only [List.cons_append, List.append_assoc]

theorem stripChars_render {call : Call} {n : Nat} (h : call.Named IsForm n) :
    Text.stripChars call.render.toList = call.render.toList := by
  obtain ⟨c, cs, heq, -, hblank⟩ := exists_render_eq h
  rw [heq]
  exact stripChars_eq_self hblank (by decide)

/-- A character that is no part of a name, and is no parenthesis, comma or space, does not stand in
the text of a call. -/
theorem notMem_render {call : Call} {n : Nat} (h : call.Named IsForm n) {c : Char}
    (hpart : isNamePart c = false) (hmark : c ∉ ['(', ')', ',', ' ']) : c ∉ call.render.toList := by
  intro hmem
  rw [render_eq] at hmem
  rcases mem_renderArgument h c hmem with hc | hc
  · rw [hc] at hpart
    cases hpart
  · exact hmark hc

/-- The scan of a line that starts with a name is the same at its start and behind a token. -/
theorem scanFrom_lineStart {c : Char} {cs : List Char} {opened : List String} (fuel : Nat)
    (h : isNamePart c = true) :
    scanFrom (.lineStart 0) opened (fuel + 1) (c :: cs) =
      scanFrom .inLine opened (fuel + 1) (c :: cs) := by
  have hgap : isGap c = false := by
    rw [isGap, ne_of_isNamePart h (by decide), ne_of_isNamePart h (by decide),
      ne_of_isNamePart h (by decide)]
    rfl
  unfold scanFrom
  simp only [ne_of_isNamePart h (d := '#') (by decide), ne_of_isNamePart h (d := '\n') (by decide),
    ne_of_isNamePart h (d := '\\') (by decide), hgap]
  rfl

/-- The scan of a text that starts with a name is that of its line. -/
theorem scan_of_scans {c : Char} {cs : List Char} {ts : List Token} (hpart : isNamePart c = true)
    (hreturn : '\r' ∉ c :: cs) (h : Scans [] (c :: cs) ts [] []) :
    scan (c :: cs) = some (ts ++ [Token.newline]) ∧ ts.length ≤ (c :: cs).length := by
  obtain ⟨steps, htokens, hchars, hscan⟩ := h
  rw [List.length_nil, Nat.add_zero] at hchars
  refine ⟨?_, htokens.trans hchars⟩
  have hfuel : (c :: cs).length + 1 = (c :: cs).length - steps + 1 + steps := by omega
  rw [scan, joinLineEnds_eq_self hreturn, scanFrom_lineStart _ hpart, hfuel, hscan]
  rfl

/-- **The scan of a call** that is written gives its tokens, no more than it has characters. -/
theorem scan_render {call : Call} (h : call.Named IsForm maxDepth) :
    scan call.render.toList = some (call.tokens ++ [Token.newline]) ∧
      call.tokens.length ≤ call.render.toList.length := by
  have hscans : Scans [] (call.render.toList ++ []) call.tokens [] [] := by
    rw [render_eq]
    generalize hmax : maxDepth = depth at h
    cases h with
    | call hcallee hargs =>
      refine scans_call hcallee (by decide) fun a ha rest hrest => ?_
      refine scans_argument (hargs a ha) ?_ hrest
      rw [List.length_singleton]
      omega
  obtain ⟨c, cs, heq, hpart, -⟩ := exists_render_eq h
  have hreturn := notMem_render h (c := '\r') (by decide) (by decide)
  rw [List.append_nil, heq] at hscans
  rw [heq] at hreturn ⊢
  exact scan_of_scans hpart hreturn hscans

end Call

end FragmentRoutes
