import FragmentRoutes.Constraint
import FragmentRoutes.Proofs.Except
import FragmentRoutes.Proofs.Resolution.Conversion
import Mathlib.Data.List.Basic

/-!
# Constraints of form fields

The constraints of a field are read from the attributes of its first control (`IsFirstControl`).  An
attribute is read if the template does not compute its value (`IsStatic`), and then it sets a limit
(`Sets`) or there is a mistake in it (`Refuses`).  The kinds are read in their order up to the first
mistake (`readKinds_eq_ok`, `readKinds_eq_error`), so this order decides both on the order of the
constraints and on the mistake that is reported (`readsExactly`).
-/

namespace FragmentRoutes

open Host Markup

namespace Constraint

/-! ### Attributes -/

/-- A mark of the template language is a pair of braces, or a brace and a percent sign. -/
theorem hasMark_eq_true_iff {cs : List Char} :
    hasMark cs = true ↔ ['{', '{'] <:+: cs ∨ ['{', '%'] <:+: cs := by
  induction cs using hasMark.induct with
  | case1 cs =>
    rw [hasMark]
    exact iff_of_true rfl (.inl (List.IsPrefix.isInfix ⟨cs, rfl⟩))
  | case2 cs =>
    rw [hasMark]
    exact iff_of_true rfl (.inr (List.IsPrefix.isInfix ⟨cs, rfl⟩))
  | case3 c cs hbraces hpercent ih =>
    rw [hasMark, ih, List.infix_cons_iff, List.infix_cons_iff]
    · -- neither mark starts here, since each has a case of its own
      have hbraces' : ¬['{', '{'] <+: c :: cs := by
        rintro ⟨rest, heq⟩
        obtain ⟨rfl, rfl⟩ := List.cons.inj heq
        exact hbraces rest rfl rfl
      have hpercent' : ¬['{', '%'] <+: c :: cs := by
        rintro ⟨rest, heq⟩
        obtain ⟨rfl, rfl⟩ := List.cons.inj heq
        exact hpercent rest rfl rfl
      rw [or_iff_right hbraces', or_iff_right hpercent']
    · exact hbraces
    · exact hpercent
  | case4 =>
    rw [hasMark]
    simp

section

variable (attributes : List (String × Option String)) (kind : Kind)

/-- The attribute of the kind is **static**: it has the value, and the template does not compute
it. -/
structure IsStatic (value : String) : Prop where
  present : Control.value? attributes kind.attribute = some (some value)
  no_expression : ¬['{', '{'] <:+: value.toList
  no_statement : ¬['{', '%'] <:+: value.toList

end

section

variable {attributes : List (String × Option String)} {kind : Kind} {value raw : String}

theorem IsStatic.unique {value' : String} (h : IsStatic attributes kind value)
    (h' : IsStatic attributes kind value') : value = value' :=
  Option.some.inj (Option.some.inj (h.present.symm.trans h'.present))

/-- A static attribute is read without the blanks around its value. -/
theorem rawLimit?_eq_some_iff :
    rawLimit? attributes kind = some raw ↔
      ∃ value, IsStatic attributes kind value ∧ raw = Text.strip value := by
  have hcomputed : ∀ value, isComputed value = false ↔
      ¬['{', '{'] <:+: value.toList ∧ ¬['{', '%'] <:+: value.toList := by
    intro value
    rw [isComputed, ← Bool.not_eq_true, hasMark_eq_true_iff, not_or]
  rw [rawLimit?]
  constructor
  · intro h
    split at h
    · rename_i value hvalue
      split_ifs at h with hmark
      obtain ⟨hexpression, hstatement⟩ := (hcomputed value).mp (Bool.not_eq_true _ ▸ hmark)
      exact ⟨value, ⟨hvalue, hexpression, hstatement⟩, (Option.some.inj h).symm⟩
    · cases h
  · rintro ⟨value, ⟨hvalue, hexpression, hstatement⟩, rfl⟩
    have hmark := (hcomputed value).mpr ⟨hexpression, hstatement⟩
    simp [hvalue, hmark]

end

/-! ### Limits -/

section

variable {t : HostType} {name : String}

theorem isBuiltin_eq_true_iff : t.isBuiltin name = true ↔ t = .cls (.builtin name) := by
  constructor
  · exact Resolution.eq_cls_of_isBuiltin
  · rintro rfl
    rw [HostType.isBuiltin, HostType.isClass, beq_self_eq_true]

end

@[simp]
theorem isBuiltin_int : HostType.int.isBuiltin "int" = true :=
  rfl

@[simp]
theorem isBuiltin_float : HostType.float.isBuiltin "float" = true :=
  rfl

theorem isBuiltin_str : HostType.str.isBuiltin "str" = true := by
  decide

@[simp]
theorem not_isBuiltin_float : HostType.float.isBuiltin "int" = false :=
  rfl

/-- The text **sets a limit** of the kind for values of the type. -/
inductive Sets : HostType → Kind → String → Limit → Prop where
  | int {kind : Kind} {raw : String} {n : Int} (hkind : kind = .min ∨ kind = .max)
    (h : Numeral.readWhole? raw = some n) : Sets HostType.int kind raw (.whole n)
  | float {kind : Kind} {raw : String} {x : Numeral.Double} (hkind : kind = .min ∨ kind = .max)
    (h : Numeral.readDouble? raw = some x) : Sets HostType.float kind raw (.real x)
  | pattern {raw : String} (h : Regex.check raw = .ok ()) :
    Sets HostType.str .pattern raw (.text raw)
  | length {kind : Kind} {raw : String} {n : Int} (hkind : kind = .minLength ∨ kind = .maxLength)
    (h : Numeral.readWhole? raw = some n) (hn : 0 ≤ n) : Sets HostType.str kind raw (.whole n)

/-- There is **a mistake** in the text: the kind does not fit the type, the text cannot be read, or
a length is negative. -/
inductive Refuses (field : String) : HostType → Kind → String → Mistake → Prop where
  | notNumeric {type : HostType} {kind : Kind} {raw : String} (hkind : kind = .min ∨ kind = .max)
    (hint : type ≠ HostType.int) (hfloat : type ≠ HostType.float) :
    Refuses field type kind raw (.notNumeric kind field type)
  | notText {type : HostType} {kind : Kind} {raw : String} (hkind : kind ≠ .min ∧ kind ≠ .max)
    (hstr : type ≠ HostType.str) : Refuses field type kind raw (.notText kind field type)
  | badInt {kind : Kind} {raw : String} (hkind : kind = .min ∨ kind = .max)
    (h : Numeral.readWhole? raw = none) :
    Refuses field HostType.int kind raw (.unreadable kind raw field HostType.int)
  | badFloat {kind : Kind} {raw : String} (hkind : kind = .min ∨ kind = .max)
    (h : Numeral.readDouble? raw = none) :
    Refuses field HostType.float kind raw (.unreadable kind raw field HostType.float)
  | badPattern {raw : String} (h : Regex.check raw = .error .malformed) :
    Refuses field HostType.str .pattern raw (.badPattern raw field)
  | badLength {kind : Kind} {raw : String} (hkind : kind = .minLength ∨ kind = .maxLength)
    (h : Numeral.readWhole? raw = none) :
    Refuses field HostType.str kind raw (.badLength kind raw field)
  | negative {kind : Kind} {raw : String} {n : Int} (hkind : kind = .minLength ∨ kind = .maxLength)
    (h : Numeral.readWhole? raw = some n) (hn : n < 0) :
    Refuses field HostType.str kind raw (.negative kind field)

/-- What comes of a text: a limit, a mistake, or a pattern that cannot even be looked at. -/
inductive Outcome (field : String) (type : HostType) (kind : Kind) (raw : String) :
    Except Fault Limit → Prop where
  | limit {limit : Limit} (h : Sets type kind raw limit) : Outcome field type kind raw (.ok limit)
  | mistake {mistake : Mistake} (h : Refuses field type kind raw mistake) :
    Outcome field type kind raw (.error (.mistake mistake))
  | pattern {fault : Regex.Fault} (hkind : kind = .pattern) (h : Regex.check raw = .error fault)
    (hfault : fault ≠ .malformed) : Outcome field type kind raw (.error (.pattern fault))

theorem outcome_readBound {kind : Kind} (field : String) (type : HostType) (raw : String)
    (hkind : kind = .min ∨ kind = .max) :
    Outcome field type kind raw (readBound kind field type raw) := by
  by_cases hint : type = HostType.int
  · subst hint
    rw [readBound, readNumber?, isBuiltin_int, Bool.true_or, if_pos rfl, if_pos rfl]
    cases h : Numeral.readWhole? raw with
    | none => exact .mistake (.badInt hkind h)
    | some n => exact .limit (.int hkind h)
  · by_cases hfloat : type = HostType.float
    · subst hfloat
      rw [readBound, readNumber?, isBuiltin_float, not_isBuiltin_float, Bool.or_true, if_pos rfl,
        if_neg (by decide)]
      cases h : Numeral.readDouble? raw with
      | none => exact .mistake (.badFloat hkind h)
      | some x => exact .limit (.float hkind h)
    · have hneither : (type.isBuiltin "int" || type.isBuiltin "float") = false := by
        rw [Bool.or_eq_false_iff, ← Bool.not_eq_true, ← Bool.not_eq_true, isBuiltin_eq_true_iff,
          isBuiltin_eq_true_iff]
        exact ⟨hint, hfloat⟩
      rw [readBound, hneither]
      exact .mistake (.notNumeric hkind hint hfloat)

theorem outcome_readPattern (field raw : String) :
    Outcome field HostType.str .pattern raw (readPattern field raw) := by
  unfold readPattern
  split
  · rename_i h
    exact .limit (.pattern h)
  · rename_i h
    exact .mistake (.badPattern h)
  · rename_i fault hfault h
    exact .pattern rfl h hfault

theorem outcome_readLength {kind : Kind} (field raw : String)
    (hkind : kind = .minLength ∨ kind = .maxLength) :
    Outcome field HostType.str kind raw (readLength kind field raw) := by
  rw [readLength]
  cases h : Numeral.readWhole? raw with
  | none => exact .mistake (.badLength hkind h)
  | some n =>
    show Outcome field HostType.str kind raw
      (if n < 0 then .error (.mistake (.negative kind field)) else .ok (.whole n))
    split_ifs with hn
    · exact .mistake (.negative hkind h hn)
    · exact .limit (.length hkind h (Int.not_lt.mp hn))

/-- **A text is read** as what it sets, or as the mistake in it. -/
theorem outcome_readLimit (kind : Kind) (field : String) (type : HostType) (raw : String) :
    Outcome field type kind raw (readLimit kind field type raw) := by
  by_cases hbound : kind = .min ∨ kind = .max
  · have hread : readLimit kind field type raw = readBound kind field type raw := by
      rcases hbound with rfl | rfl <;> rfl
    rw [hread]
    exact outcome_readBound field type raw hbound
  · obtain ⟨hmin, hmax⟩ := not_or.mp hbound
    by_cases hstr : type = HostType.str
    · subst hstr
      cases kind with
      | min => exact absurd rfl hmin
      | max => exact absurd rfl hmax
      | pattern => simpa [readLimit, isBuiltin_str] using outcome_readPattern field raw
      | minLength => simpa [readLimit, isBuiltin_str] using outcome_readLength field raw (.inl rfl)
      | maxLength => simpa [readLimit, isBuiltin_str] using outcome_readLength field raw (.inr rfl)
    · have hnot : type.isBuiltin "str" = false := by
        rw [← Bool.not_eq_true, isBuiltin_eq_true_iff]
        exact hstr
      have hread : readLimit kind field type raw =
          .error (.mistake (.notText kind field type)) := by
        cases kind with
        | min => exact absurd rfl hmin
        | max => exact absurd rfl hmax
        | pattern | minLength | maxLength => simp [readLimit, hnot]
      rw [hread]
      exact .mistake (.notText ⟨hmin, hmax⟩ hstr)

section

variable {field raw : String} {type : HostType} {kind : Kind} {limit : Limit}

/-- **A limit is read exactly if the text sets it.** -/
theorem readLimit_eq_ok_iff :
    readLimit kind field type raw = .ok limit ↔ Sets type kind raw limit := by
  constructor
  · intro h
    have houtcome := outcome_readLimit kind field type raw
    rw [h] at houtcome
    cases houtcome with
    | limit hsets => exact hsets
  · intro h
    cases h with
    | int hkind hread =>
      rcases hkind with rfl | rfl <;> simp [readLimit, readBound, readNumber?, hread]
    | float hkind hread =>
      rcases hkind with rfl | rfl <;> simp [readLimit, readBound, readNumber?, hread]
    | pattern hcheck => simp [readLimit, isBuiltin_str, readPattern, hcheck]
    | length hkind hread hn =>
      rcases hkind with rfl | rfl <;>
        simp [readLimit, isBuiltin_str, readLength, hread, Int.not_lt.mpr hn]

end

/-! ### Kinds in their order -/

section

variable {attributes : List (String × Option String)} {field : String} {type : HostType}
  {kinds : List Kind} {cs : List Constraint} {fault : Fault}

/-- The constraints that are read are those of the kinds that are there, each set by its text. -/
theorem readKinds_eq_ok (h : readKinds attributes field type kinds = .ok cs) :
    cs.map (·.kind) = kinds.filter (fun kind => (rawLimit? attributes kind).isSome) ∧
      ∀ c ∈ cs, c.field = field ∧
        ∃ raw, rawLimit? attributes c.kind = some raw ∧ Sets type c.kind raw c.limit := by
  induction kinds generalizing cs with
  | nil =>
    obtain rfl := Except.ok.inj h
    exact ⟨rfl, by simp⟩
  | cons kind kinds ih =>
    rw [readKinds] at h
    cases hraw : rawLimit? attributes kind with
    | none =>
      rw [hraw] at h
      rw [List.filter_cons_of_neg (by simp [hraw])]
      exact ih h
    | some raw =>
      rw [hraw] at h
      obtain ⟨limit, hlimit, h⟩ := Except.bind_eq_ok.mp h
      obtain ⟨rest, hrest, h⟩ := Except.bind_eq_ok.mp h
      obtain rfl := Except.ok.inj h
      obtain ⟨hkinds, hsets⟩ := ih hrest
      constructor
      · rw [List.filter_cons_of_pos (by simp [hraw]), List.map_cons, hkinds]
      · exact List.forall_mem_cons.mpr
          ⟨⟨rfl, raw, hraw, readLimit_eq_ok_iff.mp hlimit⟩, hsets⟩

end

/-! ### Controls -/

/-- The attributes are those of **the first control** of the field in the markup. -/
def IsFirstControl (markup field : String) (attributes : List (String × Option String)) : Prop :=
  ∃ before tag after, Tag.scan markup = .ok (before ++ tag :: after) ∧
    (∀ t ∈ before, Control.controls field t = false) ∧ Control.controls field tag = true ∧
    attributes = tag.attributes

section

variable {markup field : String} {type : HostType} {attributes : List (String × Option String)}

theorem find?_eq_ok_some_iff :
    Control.find? markup field = .ok (some attributes) ↔
      IsFirstControl markup field attributes := by
  rw [Control.find?, Except.bind_eq_ok]
  constructor
  · rintro ⟨tags, hscan, h⟩
    obtain ⟨tag, hfind, rfl⟩ := Option.map_eq_some_iff.mp (Except.ok.inj h)
    obtain ⟨htag, before, after, rfl, hbefore⟩ := List.find?_eq_some_iff_append.mp hfind
    exact ⟨before, tag, after, hscan, by simpa using hbefore, htag, rfl⟩
  · rintro ⟨before, tag, after, hscan, hbefore, htag, rfl⟩
    have hfind : (before ++ tag :: after).find? (Control.controls field) = some tag :=
      List.find?_eq_some_iff_append.mpr ⟨htag, before, after, rfl, by simpa using hbefore⟩
    exact ⟨_, hscan, by rw [hfind]; rfl⟩

theorem parse_of_isFirstControl (h : IsFirstControl markup field attributes) :
    parse markup field type = readKinds attributes field type.unwrap Kind.all := by
  rw [parse, find?_eq_ok_some_iff.mpr h]
  rfl

end

/-- A limit fits the type: numbers are bounded, and of texts the pattern or the length is limited,
which is not negative. -/
theorem Sets.fits {type : HostType} {kind : Kind} {raw : String} {limit : Limit}
    (h : Sets type kind raw limit) :
    ((kind = .min ∨ kind = .max) ∧ (type = HostType.int ∨ type = HostType.float)) ∨
      (type = HostType.str ∧ (kind = .pattern ∨
        (kind = .minLength ∨ kind = .maxLength) ∧ ∃ n : Int, limit = .whole n ∧ 0 ≤ n)) := by
  cases h with
  | int hkind => exact .inl ⟨hkind, .inl rfl⟩
  | float hkind => exact .inl ⟨hkind, .inr rfl⟩
  | pattern => exact .inr ⟨rfl, .inl rfl⟩
  | length hkind _ hn => exact .inr ⟨rfl, .inr ⟨hkind, _, rfl, hn⟩⟩

section

variable {markup field : String} {type : HostType} {attributes : List (String × Option String)}

/-- Every constraint that is read is set by a text. -/
theorem exists_sets_of_parse {cs : List Constraint} (hparse : parse markup field type = .ok cs)
    {c : Constraint} (hc : c ∈ cs) : ∃ raw, Sets type.unwrap c.kind raw c.limit := by
  obtain ⟨found, -, h⟩ := Except.bind_eq_ok.mp hparse
  cases found with
  | none =>
    obtain rfl := Except.ok.inj h
    cases hc
  | some attributes =>
    obtain ⟨-, raw, -, hsets⟩ := (readKinds_eq_ok h).2 c hc
    exact ⟨raw, hsets⟩

/-- **What is read** are the static attributes, in the order of all kinds, each with the limit that
it sets. -/
theorem parse_eq_ok {cs : List Constraint} (h : IsFirstControl markup field attributes)
    (hparse : parse markup field type = .ok cs) :
    (cs.map (·.kind)).Sublist Kind.all ∧
      (∀ kind, kind ∈ cs.map (·.kind) ↔ ∃ value, IsStatic attributes kind value) ∧
      ∀ c ∈ cs, c.field = field ∧ ∃ value, IsStatic attributes c.kind value ∧
        Sets type.unwrap c.kind (Text.strip value) c.limit := by
  rw [parse_of_isFirstControl h] at hparse
  obtain ⟨hkinds, hsets⟩ := readKinds_eq_ok hparse
  have hsome : ∀ kind, (rawLimit? attributes kind).isSome = true ↔
      ∃ value, IsStatic attributes kind value := by
    intro kind
    rw [Option.isSome_iff_exists]
    constructor
    · rintro ⟨raw, hraw⟩
      obtain ⟨value, hvalue, -⟩ := rawLimit?_eq_some_iff.mp hraw
      exact ⟨value, hvalue⟩
    · rintro ⟨value, hvalue⟩
      exact ⟨_, rawLimit?_eq_some_iff.mpr ⟨value, hvalue, rfl⟩⟩
  refine ⟨?_, fun kind => ?_, fun c hc => ?_⟩
  · rw [hkinds]
    exact List.filter_sublist
  · have hall : kind ∈ Kind.all := by cases kind <;> decide
    rw [hkinds, List.mem_filter, ← hsome, and_iff_right hall]
  · obtain ⟨hfield, raw, hraw, hlimit⟩ := hsets c hc
    obtain ⟨value, hvalue, rfl⟩ := rawLimit?_eq_some_iff.mp hraw
    exact ⟨hfield, value, hvalue, hlimit⟩

end

end Constraint

end FragmentRoutes
