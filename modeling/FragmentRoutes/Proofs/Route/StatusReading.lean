import FragmentRoutes.Route.Status
import FragmentRoutes.Proofs.Text.Blank
import FragmentRoutes.Proofs.Text.Words

/-!
# Reading a written status

A status is written in one of two ways: in ASCII digits, of which a numeral may have no more than
4300, or as a registered name after `HTTPStatus.` or `http.HTTPStatus.` (`Status.Denotes`).  Both
are read as the code that they denote (`Denotes.parse_eq_ok`), and both are recognised as the
status of a label (`Denotes.isStatusWord`).  A longer numeral is no status at all, also when it
has a small value because it starts with zeros (`parse_of_maxDigits_lt`).
-/

namespace FragmentRoutes.Numeral

/-! ### Numerals of ASCII digits -/

theorem toNat_of_isAsciiDigit {c : Char} (h : Text.isAsciiDigit c = true) :
    48 ≤ c.toNat ∧ c.toNat ≤ 57 := by
  simpa [Text.isAsciiDigit, Char.le_def, UInt32.le_iff_toNat_le] using h

/-- An ASCII digit differs from every other character. -/
theorem ne_of_isAsciiDigit {c d : Char} (h : Text.isAsciiDigit c = true)
    (hd : Text.isAsciiDigit d = false) : c ≠ d := by
  rintro rfl
  rw [h] at hd
  cases hd

theorem isPlainBlank_of_isAsciiDigit {c : Char} (h : Text.isAsciiDigit c = true) :
    isPlainBlank c = false := by
  obtain ⟨hlow, -⟩ := toNat_of_isAsciiDigit h
  have hspace : (c == ' ') = false := beq_eq_false_iff_ne.mpr (ne_of_isAsciiDigit h (by decide))
  rw [isPlainBlank, hspace, Bool.or_false, Bool.and_eq_false_iff, decide_eq_false_iff_not,
    decide_eq_false_iff_not]
  omega

/-- Digits between which nothing stands are their own plain form. -/
theorem plainChars_of_digits {digits : List Char}
    (h : ∀ d ∈ digits, Text.isAsciiDigit d = true) :
    plainChars (String.ofList digits) = digits := by
  have hplain : digits.map plainChar = digits := by
    refine (List.map_congr_left fun d hd => ?_).trans (List.map_id digits)
    have hascii : d.toNat < 127 := by
      obtain ⟨-, hhigh⟩ := toNat_of_isAsciiDigit (h d hd)
      omega
    rw [plainChar, if_pos hascii, id]
  have hkeep : ∀ {ds : List Char}, (∀ d ∈ ds, Text.isAsciiDigit d = true) →
      ds.dropWhile isPlainBlank = ds := by
    intro ds hds
    cases ds with
    | nil => rfl
    | cons d ds =>
      rw [List.dropWhile_cons_of_neg]
      simp [isPlainBlank_of_isAsciiDigit (hds d List.mem_cons_self)]
  rw [plainChars, String.toList_ofList, hplain, hkeep h,
    hkeep fun d hd => h d (List.mem_reverse.mp hd), List.reverse_reverse]

theorem ungroupDigits_of_digits {digits : List Char} (hne : digits ≠ [])
    (h : ∀ d ∈ digits, Text.isAsciiDigit d = true) : ungroupDigits digits = some digits := by
  induction digits with
  | nil => exact absurd rfl hne
  | cons d ds ih =>
    have hd : Text.isAsciiDigit d = true := h d List.mem_cons_self
    cases ds with
    | nil => rw [ungroupDigits, if_pos hd]
    | cons e ds =>
      -- the next character is a digit, so it is no underscore
      have he : e ≠ '_' := ne_of_isAsciiDigit (h e (by simp)) (by decide)
      have hrest := ih (List.cons_ne_nil _ _) fun c hc => h c (List.mem_cons_of_mem _ hc)
      rw [ungroupDigits, if_pos hd, hrest, Option.map_some]
      · simp
      · rintro cs heq
        exact he (List.cons.inj heq).1

/-- **ASCII digits are read as their value**, unless there are too many of them. -/
theorem readWhole?_of_digits {digits : List Char} (hne : digits ≠ [])
    (h : ∀ d ∈ digits, Text.isAsciiDigit d = true) :
    readWhole? (String.ofList digits) =
      if maxDigits < digits.length then none
      else some (Int.ofNat (Nat.ofDigitChars 10 digits 0)) := by
  have hsign : splitSign digits = (false, digits) := by
    obtain ⟨d, ds, rfl⟩ := List.exists_cons_of_ne_nil hne
    have hd : Text.isAsciiDigit d = true := h d List.mem_cons_self
    rw [splitSign]
    · rintro cs heq
      exact ne_of_isAsciiDigit hd (by decide) (List.cons.inj heq).1
    · rintro cs heq
      exact ne_of_isAsciiDigit hd (by decide) (List.cons.inj heq).1
  rw [readWhole?, plainChars_of_digits h, hsign]
  dsimp only
  rw [ungroupDigits_of_digits hne h]
  rfl

end FragmentRoutes.Numeral

namespace FragmentRoutes.Route.Status

open Numeral

/-! ### Written statuses -/

/-- The ways to write a code: in ASCII digits, or as a registered name. -/
inductive Denotes : List Char → Nat → Prop
  | digits {digits : List Char} (hne : digits ≠ [])
      (hdigits : ∀ d ∈ digits, Text.isAsciiDigit d = true) (hlength : digits.length ≤ 4300)
      (hlow : 100 ≤ Nat.ofDigitChars 10 digits 0) (hhigh : Nat.ofDigitChars 10 digits 0 ≤ 999) :
      Denotes digits (Nat.ofDigitChars 10 digits 0)
  | constant {front name : String} {code : Nat}
      (hfront : front ∈ ["HTTPStatus.", "http.HTTPStatus."]) (hmem : (name, code) ∈ registered) :
      Denotes (front ++ name).toList code

theorem isDecimal_of_isAsciiDigit {c : Char} (h : Text.isAsciiDigit c = true) :
    Text.isDecimal c = true := by
  rw [Text.isDecimal, Text.decimalValue?, if_pos h]
  rfl

/-- A text of digits is read as a numeral. -/
theorem parse_of_digits {digits : List Char} (hne : digits ≠ [])
    (h : ∀ d ∈ digits, Text.isAsciiDigit d = true) :
    parse (String.ofList digits) =
      (readWhole? (String.ofList digits)).elim (.error (.unreadable (String.ofList digits)))
        fun n => if 100 ≤ n && n ≤ 999 then .ok n.toNat else .error (.outOfRange n) := by
  obtain ⟨d, ds, rfl⟩ := List.exists_cons_of_ne_nil hne
  have hd : Text.isDigitLike d = true := by
    rw [Text.isDigitLike, isDecimal_of_isAsciiDigit (h d List.mem_cons_self), Bool.true_or]
  rw [parse, String.toList_ofList]
  dsimp only
  rw [if_pos hd]
  cases readWhole? (String.ofList (d :: ds)) <;> rfl

/-- **Too many digits are no status**, whatever their value. -/
theorem parse_of_maxDigits_lt {digits : List Char}
    (h : ∀ d ∈ digits, Text.isAsciiDigit d = true) (hlength : maxDigits < digits.length) :
    parse (String.ofList digits) = .error (.unreadable (String.ofList digits)) := by
  have hne : digits ≠ [] := by
    rintro rfl
    exact absurd hlength (Nat.not_lt_zero _)
  rw [parse_of_digits hne h, readWhole?_of_digits hne h, if_pos hlength, Option.elim_none]

/-! ### Registered names -/

theorem code?_registered : ∀ e ∈ registered, code? e.1 = some e.2 := by
  decide +kernel

/-- A name is looked at through its characters, which takes no decoding. -/
theorem printed_of_chars {name : String} {c : Char} {cs : List Char}
    (h : name = String.ofList (c :: cs))
    (hall : (c :: cs).all (fun c => 33 ≤ c.toNat && c.toNat ≤ 126) = true) :
    name ≠ "" ∧ name.toList.all (fun c => 33 ≤ c.toNat && c.toNat ≤ 126) = true := by
  have hchars : name.toList = c :: cs := by rw [h, String.toList_ofList]
  refine ⟨?_, hchars ▸ hall⟩
  rintro rfl
  simp at hchars

/-- Registered names are not empty, and all their characters are printed ASCII characters. -/
theorem registered_printed : ∀ e ∈ registered,
    e.1 ≠ "" ∧ e.1.toList.all (fun c => 33 ≤ c.toNat && c.toNat ≤ 126) = true := by
  unfold registered
  repeat'
    first
    | exact List.forall_mem_nil _
    | refine List.forall_mem_cons.mpr ⟨printed_of_chars rfl (by decide), ?_⟩

theorem dropFront_append (word cs : List Char) : dropFront word (word ++ cs) = cs := by
  rw [dropFront, if_pos (List.isPrefixOf_iff_prefix.mpr (List.prefix_append word cs)),
    List.drop_left]

/-- Both ways to name a registered status come down to the name behind `HTTPStatus.`. -/
theorem dropFront_front {front : String} (hfront : front ∈ ["HTTPStatus.", "http.HTTPStatus."])
    (name : String) :
    dropFront "http.".toList (front ++ name).toList = "HTTPStatus.".toList ++ name.toList := by
  rw [String.toList_append]
  rcases List.mem_cons.mp hfront with rfl | hfront
  · rfl
  · obtain rfl := List.mem_singleton.mp hfront
    exact dropFront_append "http.".toList ("HTTPStatus.".toList ++ name.toList)

theorem head?_front {front : String} (hfront : front ∈ ["HTTPStatus.", "http.HTTPStatus."])
    (name : String) :
    ∃ c cs, (front ++ name).toList = c :: cs ∧ Text.isDigitLike c = false := by
  rw [String.toList_append]
  rcases List.mem_cons.mp hfront with rfl | hfront
  · exact ⟨'H', _, rfl, by decide⟩
  · obtain rfl := List.mem_singleton.mp hfront
    exact ⟨'h', _, rfl, by decide⟩

/-- A registered name is read as its code. -/
theorem parse_of_registered {front name : String} {code : Nat}
    (hfront : front ∈ ["HTTPStatus.", "http.HTTPStatus."]) (hmem : (name, code) ∈ registered) :
    parse (front ++ name) = .ok code := by
  obtain ⟨c, cs, htext, hc⟩ := head?_front hfront name
  have hname : registeredName (c :: cs) = name := by
    rw [registeredName, ← htext, dropFront_front hfront, dropFront_append, String.ofList_toList]
  rw [parse, htext]
  dsimp only
  rw [hc, if_neg Bool.false_ne_true, hname, code?_registered _ hmem]

namespace Denotes

variable {word : List Char} {code : Nat} (h : Denotes word code)

include h

/-- **A written status is read as the code that it denotes.** -/
theorem parse_eq_ok : parse (String.ofList word) = .ok code := by
  cases h with
  | digits hne hdigits hlength hlow hhigh =>
    have hshort : ¬maxDigits < word.length := Nat.not_lt.mpr hlength
    have hrange : (100 ≤ Int.ofNat (Nat.ofDigitChars 10 word 0) &&
        Int.ofNat (Nat.ofDigitChars 10 word 0) ≤ 999) = true := by
      rw [Bool.and_eq_true, decide_eq_true_eq, decide_eq_true_eq]
      exact ⟨Int.ofNat_le.mpr hlow, Int.ofNat_le.mpr hhigh⟩
    rw [parse_of_digits hne hdigits, readWhole?_of_digits hne hdigits, if_neg hshort,
      Option.elim_some, if_pos hrange]
    rfl
  | constant hfront hmem =>
    rw [String.ofList_toList]
    exact parse_of_registered hfront hmem

/-- A written status is the status of a label if it stands behind the path. -/
theorem isStatusWord : isStatusWord word = true := by
  cases h with
  | digits hne hdigits =>
    obtain ⟨d, ds, rfl⟩ := List.exists_cons_of_ne_nil hne
    rw [Status.isStatusWord, isDecimal_of_isAsciiDigit (hdigits d List.mem_cons_self),
      Bool.true_or]
  | @constant front name _ hfront hmem =>
    have hne : name.toList ≠ [] := by simpa using (registered_printed _ hmem).1
    obtain ⟨c, cs, htext, -⟩ := head?_front hfront name
    have hnamed := dropFront_front hfront name
    rw [htext] at hnamed ⊢
    rw [Status.isStatusWord, hnamed, Bool.or_eq_true, Bool.and_eq_true, decide_eq_true_eq, List.length_append]
    exact Or.inr ⟨List.isPrefixOf_iff_prefix.mpr (List.prefix_append _ _),
      Nat.lt_add_of_pos_right (List.length_pos_iff.mpr hne)⟩

theorem isWord : Text.IsWord word := by
  cases h with
  | digits hne hdigits =>
    refine ⟨hne, fun c hc => ?_⟩
    obtain ⟨hlow, hhigh⟩ := toNat_of_isAsciiDigit (hdigits c hc)
    exact Text.not_blank_of_printed ⟨by omega, by omega⟩
  | @constant front name _ hfront hmem =>
    have hprinted : ∀ c ∈ (front ++ name).toList, 33 ≤ c.toNat ∧ c.toNat ≤ 126 := by
      intro c hc
      rw [String.toList_append] at hc
      rcases List.mem_append.mp hc with hc | hc
      · have hfronts : ∀ front ∈ ["HTTPStatus.", "http.HTTPStatus."],
            front.toList.all (fun c => 33 ≤ c.toNat && c.toNat ≤ 126) = true := by decide
        simpa using List.all_eq_true.mp (hfronts front hfront) c hc
      · simpa using List.all_eq_true.mp (registered_printed _ hmem).2 c hc
    obtain ⟨c, cs, htext, -⟩ := head?_front hfront name
    refine ⟨by rw [htext]; exact List.cons_ne_nil c cs, fun c hc => ?_⟩
    exact Text.not_blank_of_printed (hprinted c hc)

end Denotes

end FragmentRoutes.Route.Status
