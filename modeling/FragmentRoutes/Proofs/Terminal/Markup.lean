import FragmentRoutes.Terminal.Markup
import FragmentRoutes.Text.Blank
import Mathlib.Data.List.Basic
import Mathlib.Data.List.TakeWhile

/-!
# Texts that are shown as they are

What stands outside the tags of a text are some of its characters (`shownIn_spansWithin_sublist`).
`HasTag` says on its own where a text holds a style tag, and `Unmarked` that it holds neither a tag
nor a backslash in front of a bracket.  Nothing of a text is dropped exactly if it is unmarked
(`shownIn_spans_eq_iff`): with a tag its bracket is lost, and so is at least one of the backslashes
that take its meaning.

Terminals differ in what they make of the pieces of a text.  `Renderer.ReadsMarkup` says what they
have in common, and the plain renderer is one of them (`Renderer.readsMarkup_plain`).
-/

namespace FragmentRoutes.Terminal

/-! ### Tags -/

/-- A tag without its opening bracket starts the characters: a character that starts tags, and all
up to a closing bracket, with no opening bracket in between. -/
def OpensTag (cs : List Char) : Prop :=
  ∃ c inside after, cs = c :: (inside ++ ']' :: after) ∧ startsTag c = true ∧ '[' ∉ inside

/-- The characters **hold a style tag**. -/
def HasTag (cs : List Char) : Prop :=
  ∃ before after, cs = before ++ '[' :: after ∧ OpensTag after

/-- The characters are **unmarked**: they hold no style tag, and no backslash in front of a
bracket. -/
structure Unmarked (cs : List Char) : Prop where
  no_tag : ¬HasTag cs
  no_escape : ¬['\\', '['] <:+: cs

theorem startsTag_ne {c : Char} (h : startsTag c = true) : c ≠ ']' ∧ c ≠ '[' := by
  constructor
  · rintro rfl
    exact absurd h (by decide)
  · rintro rfl
    exact absurd h (by decide)

/-- A tag that is split off is written out in front of what follows it. -/
theorem eq_of_splitTag? {cs inside rest : List Char} (h : splitTag? cs = some (inside, rest)) :
    cs = inside ++ ']' :: rest ∧ '[' ∉ inside ∧
      ∃ c, inside.head? = some c ∧ startsTag c = true := by
  cases cs with
  | nil => cases h
  | cons c cs =>
    rw [splitTag?] at h
    have hsplit := List.takeWhile_append_dropWhile
      (p := fun d => d != ']' && d != '[') (l := c :: cs)
    split at h
    · rename_i after hafter
      split_ifs at h with hstart
      obtain ⟨rfl, rfl⟩ := Prod.mk.inj (Option.some.inj h)
      rw [hafter] at hsplit
      refine ⟨hsplit.symm, ?_, c, ?_, hstart⟩
      · intro hmem
        have hall := List.mem_takeWhile_imp hmem
        simp at hall
      · have hne := startsTag_ne hstart
        rw [List.takeWhile_cons_of_pos (by simp [hne])]
        rfl
    · cases h

/-- What is skipped ends at a closing bracket, at the one given or at one in front of it. -/
theorem exists_dropWhile_eq {inside : List Char} (after : List Char) (h : '[' ∉ inside) :
    ∃ rest, (inside ++ ']' :: after).dropWhile (fun d => d != ']' && d != '[') = ']' :: rest := by
  induction inside with
  | nil => exact ⟨after, by simp⟩
  | cons d inside ih =>
    obtain ⟨hd, hinside⟩ := not_or.mp (mt List.mem_cons.mpr h)
    by_cases hclose : d = ']'
    · exact ⟨inside ++ ']' :: after, by simp [hclose]⟩
    · obtain ⟨rest, hrest⟩ := ih hinside
      refine ⟨rest, ?_⟩
      rw [List.cons_append, List.dropWhile_cons_of_pos (by simp [hclose, Ne.symm hd]), hrest]

/-- **A tag is split off** exactly if one starts the characters. -/
theorem isSome_splitTag?_iff {cs : List Char} : (splitTag? cs).isSome = true ↔ OpensTag cs := by
  constructor
  · intro h
    obtain ⟨⟨inside, rest⟩, hsplit⟩ := Option.isSome_iff_exists.mp h
    obtain ⟨rfl, hinside, c, hhead, hstart⟩ := eq_of_splitTag? hsplit
    cases inside with
    | nil => cases hhead
    | cons d inside =>
      obtain rfl : d = c := Option.some.inj hhead
      exact ⟨d, inside, rest, rfl, hstart, fun hmem => hinside (List.mem_cons_of_mem _ hmem)⟩
  · rintro ⟨c, inside, after, rfl, hstart, hinside⟩
    have hne := startsTag_ne hstart
    obtain ⟨rest, hrest⟩ := exists_dropWhile_eq after hinside
    rw [splitTag?, List.dropWhile_cons_of_pos (by simp [hne]), hrest]
    simp [hstart]

/-! ### What is shown -/

/-- The characters that a piece shows. -/
def Span.chars : Span → List Char
  | .shown cs => cs
  | .tag _ => []

/-- The characters that pieces show. -/
def shownIn (spans : List Span) : List Char :=
  spans.flatMap Span.chars

@[simp]
theorem shownIn_cons (span : Span) (spans : List Span) :
    shownIn (span :: spans) = span.chars ++ shownIn spans :=
  List.flatMap_cons

/-- What is shown are the characters of the pieces, whatever tags are open. -/
theorem eq_shownIn_of_shownOf {opened : List (List Char)} {spans : List Span} {cs : List Char}
    (h : shownOf opened spans = some cs) : cs = shownIn spans := by
  induction spans generalizing opened cs with
  | nil =>
    cases h
    rfl
  | cons span spans ih =>
    cases span with
    | shown front =>
      obtain ⟨rest, hrest, rfl⟩ := Option.map_eq_some_iff.mp h
      rw [shownIn_cons, ← ih hrest]
      rfl
    | tag inside =>
      rw [shownIn_cons, Span.chars, List.nil_append]
      -- a tag opens or closes something, and shows nothing
      unfold shownOf at h
      split at h
      · rename_i heq
        cases heq
      · rename_i heq
        cases heq
      · rename_i heq
        cases heq
        split at h
        · cases h
        · exact ih h
        · obtain ⟨others, -, hrest⟩ := Option.bind_eq_some_iff.mp h
          exact ih hrest
      · rename_i heq
        cases heq
        exact ih h

/-! ### Pieces of a text -/

/-- **One step through a text** shows a character, or drops it as a backslash in front of a bracket,
or it takes backslashes with a tag: every other backslash is shown, and the tag only if their number
is odd. -/
theorem spansWithin_cons (fuel : Nat) (c : Char) (cs : List Char) :
    (¬(c = '[' ∧ OpensTag cs) ∧ spansWithin (fuel + 1) (c :: cs) =
      .shown (if c = '\\' ∧ cs.head? = some '[' then [] else [c]) :: spansWithin fuel cs) ∨
    ∃ n inside rest, c :: cs = List.replicate n '\\' ++ '[' :: (inside ++ ']' :: rest) ∧
      OpensTag (inside ++ ']' :: rest) ∧ spansWithin (fuel + 1) (c :: cs) =
        .shown (List.replicate (n / 2) '\\') ::
          (if n % 2 = 1 then .shown ('[' :: inside ++ [']']) else .tag inside) ::
            spansWithin fuel rest := by
  have hsplit := List.takeWhile_append_dropWhile (p := (· == '\\')) (l := c :: cs)
  have hslashes : (c :: cs).takeWhile (· == '\\') =
      List.replicate ((c :: cs).takeWhile (· == '\\')).length '\\' := by
    refine List.eq_replicate_iff.mpr ⟨rfl, fun d hd => ?_⟩
    simpa using List.mem_takeWhile_imp hd
  rw [spansWithin]
  dsimp only
  split
  · rename_i hfound
    refine .inl ⟨?_, by simp⟩
    rintro ⟨rfl, hopens⟩
    obtain ⟨found, hsome⟩ := Option.isSome_iff_exists.mp (isSome_splitTag?_iff.mpr hopens)
    rw [List.dropWhile_cons_of_neg (by decide)] at hfound
    exact absurd (hsome.symm.trans hfound) (by simp)
  · rename_i inside rest hfound
    split at hfound
    · rename_i after hafter
      have hopens := isSome_splitTag?_iff.mp (Option.isSome_of_eq_some hfound)
      obtain ⟨rfl, -, -⟩ := eq_of_splitTag? hfound
      rw [hafter] at hsplit
      refine .inr ⟨_, inside, rest, ?_, hopens, by simp only [beq_iff_eq]; rfl⟩
      rw [← hslashes, hsplit]
    · cases hfound

/-- **What is shown stands in the text**, in the same order. -/
theorem shownIn_spansWithin_sublist (fuel : Nat) (cs : List Char) :
    (shownIn (spansWithin fuel cs)).Sublist cs := by
  induction fuel generalizing cs with
  | zero => cases cs <;> simp [spansWithin, shownIn, Span.chars]
  | succ fuel ih =>
    cases cs with
    | nil => simp [spansWithin, shownIn]
    | cons c cs =>
      obtain ⟨-, hspans⟩ | ⟨n, inside, rest, hcs, -, hspans⟩ := spansWithin_cons fuel c cs
      · -- a backslash in front of a bracket is dropped, any other character is shown
        rw [hspans, shownIn_cons, Span.chars]
        split_ifs
        · exact (ih cs).cons c
        · exact (ih cs).cons_cons c
      · -- half of the backslashes are shown, and the tag is shown or dropped as a whole
        have hhalf : (List.replicate (n / 2) '\\').Sublist (List.replicate n '\\') :=
          List.replicate_sublist_replicate _ |>.mpr (Nat.div_le_self n 2)
        have hrest : (shownIn (spansWithin fuel rest)).Sublist (']' :: rest) := (ih rest).cons _
        rw [hspans, hcs, shownIn_cons, shownIn_cons]
        refine hhalf.append ?_
        split_ifs
        · simpa [Span.chars] using ih rest
        · exact (hrest.trans (List.sublist_append_right inside _)).cons _

theorem hasTag_cons_iff {c : Char} {cs : List Char} :
    HasTag (c :: cs) ↔ (c = '[' ∧ OpensTag cs) ∨ HasTag cs := by
  constructor
  · rintro ⟨before, after, hcs, hopens⟩
    cases before with
    | nil =>
      obtain ⟨rfl, rfl⟩ := List.cons.inj hcs
      exact .inl ⟨rfl, hopens⟩
    | cons d before =>
      obtain ⟨rfl, rfl⟩ := List.cons.inj hcs
      exact .inr ⟨before, after, rfl, hopens⟩
  · rintro (⟨rfl, hopens⟩ | ⟨before, after, rfl, hopens⟩)
    · exact ⟨[], cs, rfl, hopens⟩
    · exact ⟨c :: before, after, rfl, hopens⟩

theorem unmarked_nil : Unmarked [] where
  no_tag := by
    rintro ⟨before, after, hcs, -⟩
    simp at hcs
  no_escape := by simp

theorem unmarked_cons_iff {c : Char} {cs : List Char} :
    Unmarked (c :: cs) ↔
      ¬(c = '[' ∧ OpensTag cs) ∧ ¬(c = '\\' ∧ cs.head? = some '[') ∧ Unmarked cs := by
  have hescape : ['\\', '['] <+: c :: cs ↔ c = '\\' ∧ cs.head? = some '[' := by
    cases cs with
    | nil => simp
    | cons d cs => simp [List.cons_prefix_cons, eq_comm]
  constructor
  · rintro ⟨htag, hinfix⟩
    rw [hasTag_cons_iff, not_or] at htag
    rw [List.infix_cons_iff, hescape, not_or] at hinfix
    exact ⟨htag.1, hinfix.1, htag.2, hinfix.2⟩
  · rintro ⟨htag, hslash, hcs⟩
    refine ⟨?_, ?_⟩
    · rw [hasTag_cons_iff, not_or]
      exact ⟨htag, hcs.no_tag⟩
    · rw [List.infix_cons_iff, hescape, not_or]
      exact ⟨hslash, hcs.no_escape⟩

/-- In unmarked characters nothing is taken for a tag, and all of them are shown. -/
theorem spansWithin_of_unmarked {fuel : Nat} {cs : List Char} (hfuel : cs.length ≤ fuel)
    (h : Unmarked cs) :
    (∀ inside, Span.tag inside ∉ spansWithin fuel cs) ∧ shownIn (spansWithin fuel cs) = cs := by
  induction fuel generalizing cs with
  | zero =>
    obtain rfl : cs = [] := List.length_eq_zero_iff.mp (Nat.le_zero.mp hfuel)
    simp [spansWithin, shownIn]
  | succ fuel ih =>
    cases cs with
    | nil => simp [spansWithin, shownIn]
    | cons c cs =>
      obtain ⟨-, hslash, hcs⟩ := unmarked_cons_iff.mp h
      obtain ⟨hno, hshown⟩ := ih (Nat.le_of_succ_le_succ hfuel) hcs
      obtain ⟨-, hspans⟩ | ⟨n, inside, rest, heq, hopens, -⟩ := spansWithin_cons fuel c cs
      · rw [hspans, if_neg hslash, shownIn_cons, hshown]
        exact ⟨fun inside => by simpa using hno inside, rfl⟩
      · exact absurd ⟨_, _, heq, hopens⟩ h.no_tag

/-- A bracket that may open a tag, or a backslash in front of one. -/
def isMark (c : Char) : Bool :=
  c == '[' || c == '\\'

/-- **Of marked characters a mark is lost.**  So those are unmarked that show all their marks. -/
theorem unmarked_of_countP_le {fuel : Nat} {cs : List Char} (hfuel : cs.length ≤ fuel)
    (h : cs.countP isMark ≤ (shownIn (spansWithin fuel cs)).countP isMark) : Unmarked cs := by
  induction fuel generalizing cs with
  | zero =>
    obtain rfl : cs = [] := List.length_eq_zero_iff.mp (Nat.le_zero.mp hfuel)
    exact unmarked_nil
  | succ fuel ih =>
    cases cs with
    | nil => exact unmarked_nil
    | cons c cs =>
      obtain ⟨htag, hspans⟩ | ⟨n, inside, rest, hcs, -, hspans⟩ := spansWithin_cons fuel c cs
      · have hle := (shownIn_spansWithin_sublist fuel cs).countP_le (p := isMark)
        rw [hspans, shownIn_cons, Span.chars, List.countP_append, List.countP_cons] at h
        have hslash : ¬(c = '\\' ∧ cs.head? = some '[') := by
          intro hdropped
          have hmark : isMark c = true := hdropped.1 ▸ rfl
          rw [if_pos hdropped, if_pos hmark, List.countP_nil] at h
          omega
        rw [if_neg hslash, List.countP_singleton] at h
        exact unmarked_cons_iff.mpr ⟨htag, hslash, ih (Nat.le_of_succ_le_succ hfuel) (by omega)⟩
      · -- of the backslashes and the tag something is lost
        have hle := (shownIn_spansWithin_sublist fuel rest).countP_le (p := isMark)
        have hslashes : ∀ k, (List.replicate k '\\').countP isMark = k := fun k => by
          simp [List.countP_replicate, isMark]
        have hwhole : (c :: cs).countP isMark =
            n + (inside.countP isMark + rest.countP isMark + 1) := by
          rw [hcs, List.countP_append, hslashes]
          simp [isMark]
        rw [hwhole, hspans, shownIn_cons, shownIn_cons, Span.chars, List.countP_append, hslashes,
          List.countP_append] at h
        split_ifs at h with hodd
        · have htag : (Span.shown ('[' :: inside ++ [']'])).chars.countP isMark =
              inside.countP isMark + 1 := by
            simp [Span.chars, isMark]
          omega
        · have htag : (Span.tag inside).chars.countP isMark = 0 := rfl
          omega

/-- The pieces of a text are the same on every bound that is no less than its length. -/
theorem spansWithin_eq_spansWithin {n m : Nat} {cs : List Char} (hn : cs.length ≤ n)
    (hm : cs.length ≤ m) : spansWithin n cs = spansWithin m cs := by
  induction n generalizing m cs with
  | zero =>
    obtain rfl : cs = [] := List.length_eq_zero_iff.mp (Nat.le_zero.mp hn)
    cases m <;> rfl
  | succ n ih =>
    cases cs with
    | nil => cases m <;> rfl
    | cons c cs =>
      cases m with
      | zero => cases hm
      | succ m =>
        have hcs : spansWithin n cs = spansWithin m cs :=
          ih (Nat.le_of_succ_le_succ hn) (Nat.le_of_succ_le_succ hm)
        have hrest : ∀ {after inside rest}, (c :: cs).dropWhile (· == '\\') = '[' :: after →
            splitTag? after = some (inside, rest) → spansWithin n rest = spansWithin m rest := by
          intro after inside rest hafter hsplit
          have hle := (List.dropWhile_sublist (p := (· == '\\')) (l := c :: cs)).length_le
          rw [hafter, (eq_of_splitTag? hsplit).1] at hle
          simp only [List.length_cons, List.length_append] at hle hn hm
          exact ih (by omega) (by omega)
        rw [spansWithin, spansWithin]
        dsimp only
        split
        · rw [hcs]
        · rename_i inside rest hfound
          split at hfound
          · rename_i after hafter
            rw [hrest hafter hfound]
          · cases hfound

/-- **A text is shown as it is** exactly if it is unmarked. -/
theorem shownIn_spans_eq_iff {s : String} : shownIn (spans s) = s.toList ↔ Unmarked s.toList := by
  refine ⟨fun h => unmarked_of_countP_le le_rfl ?_, fun h => (spansWithin_of_unmarked le_rfl h).2⟩
  rw [spans] at h
  rw [h]

/-! ### Renderers that read markup -/

/-- The inside of the tag that a piece is. -/
def Span.tag? : Span → Option (List Char)
  | .shown _ => none
  | .tag inside => some inside

/-- A tag names a style in words: it is of small letters and blanks. -/
def namesStyle (inside : List Char) : Bool :=
  inside.all fun c => c.isLower || c == ' '

/-- The styles that are open behind pieces, the last one first, where `opened` are those in front of
them.  Every tag among the pieces names a style in words, or closes the last one by its name. -/
def openAfter (opened : List (List Char)) : List Span → Option (List (List Char))
  | [] => some opened
  | .shown _ :: rest => openAfter opened rest
  | .tag ('/' :: name) :: rest =>
    match opened with
    | [] => none
    | last :: others => if name = last then openAfter others rest else none
  | .tag inside :: rest => if namesStyle inside then openAfter (inside :: opened) rest else none

/-- The next colon comes before the next blank. -/
def reachesColon (cs : List Char) : Bool :=
  (cs.dropWhile fun c => c != ':' && !Text.isBlank c).head? == some ':'

/-- A name stands between two colons.  Terminals have pictures for some of these. -/
def hasCode : List Char → Bool
  | [] => false
  | c :: cs => (c == ':' && reachesColon cs) || hasCode cs

/-- The characters are **ordinary**: they hold no controls, and no names of pictures. -/
structure IsOrdinary (cs : List Char) : Prop where
  no_control : ∀ c ∈ cs, 32 ≤ c.toNat
  no_code : hasCode cs = false

namespace Renderer

/-- A renderer **reads markup**.  Tags are not shown, and nothing else is shown as a bracket or a
backslash.  Where styles are opened and closed in order, ordinary characters are shown as they are.
A tag that closes a style cannot be applied where none is open. -/
structure ReadsMarkup (render : Renderer) : Prop where
  hides_tags : ∀ {spans : List Span} {cs : List Char}, render spans = some cs →
    cs.countP isMark ≤ (shownIn spans).countP isMark
  shows_ordinary : ∀ {spans : List Span} {opened : List (List Char)},
    openAfter [] spans = some opened → IsOrdinary (shownIn spans) →
      render spans = some (shownIn spans)
  refuses_unmatched : ∀ {before : List Span} (name : List Char) (after : List Span),
    openAfter [] before = some [] → render (before ++ .tag ('/' :: name) :: after) = none

/-- What stands outside the tags of a text is shown as it is. -/
def Keeps (render : Renderer) (s : String) : Prop :=
  render (spans s) = some (shownIn (spans s))

end Renderer

/-! ### The plain renderer -/

/-- A tag closes the last style that is open, by its name. -/
theorem shownOf_close (name : List Char) (opened : List (List Char)) (rest : List Span) :
    shownOf (tagName name :: opened) (.tag ('/' :: name) :: rest) = shownOf opened rest := by
  cases hname : tagName name with
  | nil => simp [shownOf, hname]
  | cons c cs => simp [shownOf, hname, closeNamed]

/-- What follows pieces whose styles are opened and closed in order is shown under the styles that
are open behind them. -/
theorem shownOf_append {opened opened' : List (List Char)} {before : List Span}
    (h : openAfter opened before = some opened') (after : List Span) :
    shownOf (opened.map tagName) (before ++ after) =
      (shownOf (opened'.map tagName) after).map (shownIn before ++ ·) := by
  fun_induction openAfter opened before with
  | case1 opened =>
    obtain rfl := Option.some.inj h
    simp [shownIn]
  | case2 opened cs rest ih =>
    rw [List.cons_append, shownOf, ih h, Option.map_map, shownIn_cons]
    simp [Function.comp_def, Span.chars]
  | case3 name rest => cases h
  | case4 last rest others ih =>
    rw [List.cons_append, List.map_cons, shownOf_close, ih h]
    rfl
  | case5 => cases h
  | case6 opened inside rest hslash hstyle ih =>
    have hopens : shownOf (opened.map tagName) (.tag inside :: (rest ++ after)) =
        shownOf ((inside :: opened).map tagName) (rest ++ after) := by
      rw [shownOf]
      · rfl
      · exact hslash
    rw [List.cons_append, hopens, ih h]
    rfl
  | case7 => cases h

/-- **The plain renderer** reads markup. -/
theorem Renderer.readsMarkup_plain : Renderer.plain.ReadsMarkup where
  hides_tags := by
    intro spans cs h
    obtain ⟨shown, hshown, rfl⟩ := Option.map_eq_some_iff.mp h
    rw [← eq_shownIn_of_shownOf hshown]
    exact List.filter_sublist.countP_le
  shows_ordinary := by
    intro spans opened hopen hordinary
    have hshown := shownOf_append hopen []
    rw [List.map_nil, List.append_nil, shownOf, Option.map_some, List.append_nil] at hshown
    rw [Renderer.plain, hshown, Option.map_some, List.filter_eq_self.mpr]
    intro c hc
    have hcontrol := hordinary.no_control c hc
    simp only [isControl, List.contains_eq_mem, List.mem_cons, List.not_mem_nil, or_false,
      Bool.not_eq_true', decide_eq_false_iff_not]
    omega
  refuses_unmatched := by
    intro before name after hopen
    have hnone : shownOf [] (.tag ('/' :: name) :: after) = none := by
      cases hname : tagName name <;> simp [shownOf, hname, closeNamed]
    have hshown := shownOf_append hopen (.tag ('/' :: name) :: after)
    rw [List.map_nil, hnone] at hshown
    rw [Renderer.plain, hshown]
    rfl

end FragmentRoutes.Terminal
