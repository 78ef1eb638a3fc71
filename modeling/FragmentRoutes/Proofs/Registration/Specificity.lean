import FragmentRoutes.Proofs.Definition
import FragmentRoutes.Proofs.Registration.Order

/-!
# Which of two overlapping routes is registered first

The router takes the first route that matches, so of two routes that match one request the more
specific should be registered first.  Routes are ordered by the texts of their paths, though, and
the text of a path is only a stand-in for what it matches.

For routes of fixed depth the first segment in which the paths differ decides
(`precedes_iff_sortsBefore`): a literal comes before a parameter if its text comes before the
brace that opens one, and of two parameters the one whose name comes first.  For routes that match
everything below a path the length of what follows the common prefix decides
(`precedes_iff_shorter_ending`), the name of a wildcard included.
-/

namespace FragmentRoutes

open Route

/-! ### Comparing texts -/

section

variable {α : Type} [LinearOrder α]

theorem lt_append_left_iff (x : List α) {y z : List α} : x ++ y < x ++ z ↔ y < z := by
  induction x with
  | nil => rfl
  | cons c x ih =>
    rw [List.cons_append, List.cons_append, List.cons_lt_cons_iff, ih]
    constructor
    · rintro (hlt | ⟨-, hlt⟩)
      · exact absurd hlt (lt_irrefl c)
      · exact hlt
    · intro hlt
      exact Or.inr ⟨rfl, hlt⟩

/-- Of two texts that begin differently the beginnings decide, if neither begins the other. -/
theorem append_lt_append_iff {x y : List α} (hx : ¬x <+: y) (hy : ¬y <+: x) (u v : List α) :
    x ++ u < y ++ v ↔ x < y := by
  induction x generalizing y with
  | nil => exact absurd (List.nil_prefix) hx
  | cons c x ih =>
    cases y with
    | nil => exact absurd (List.nil_prefix) hy
    | cons d y =>
      rw [List.cons_append, List.cons_append, List.cons_lt_cons_iff, List.cons_lt_cons_iff]
      rw [List.cons_prefix_cons] at hx hy
      refine or_congr_right (and_congr_right fun hcd => ?_)
      exact ih (fun h => hx ⟨hcd, h⟩) (fun h => hy ⟨hcd.symm, h⟩)

end

/-- Texts that end where a mark stands for the first time do not begin each other unless they are
the same. -/
theorem eq_of_prefix_of_mark {α : Type} {mark : α} {x y : List α} (hx : mark ∉ x) (hy : mark ∉ y)
    (h : x ++ [mark] <+: y ++ [mark]) : x = y := by
  induction x generalizing y with
  | nil =>
    cases y with
    | nil => rfl
    | cons d y =>
      obtain ⟨rfl, -⟩ := List.cons_prefix_cons.mp h
      exact absurd List.mem_cons_self hy
  | cons c x ih =>
    cases y with
    | nil =>
      obtain ⟨rfl, -⟩ := List.cons_prefix_cons.mp h
      exact absurd List.mem_cons_self hx
    | cons d y =>
      obtain ⟨rfl, htail⟩ := List.cons_prefix_cons.mp h
      rw [ih (fun hmem => hx (List.mem_cons_of_mem _ hmem))
        (fun hmem => hy (List.mem_cons_of_mem _ hmem)) htail]

/-! ### Segments against parameters -/

namespace Route.Segment

/-- A segment is **at least as specific** as another: it is the same literal or end mark, or the
other is a parameter. -/
inductive Refines : Segment → Segment → Prop where
  | literal (text : String) : Refines (literal text) (literal text)
  | finish : Refines finish finish
  | param (s : Segment) (name : String) : Refines s (param name)

/-- The text of the segment comes before that of a parameter: a literal that comes before the
opening brace, the end mark, or a name that comes first when both are closed by a brace. -/
def SortsBefore : Segment → String → Prop
  | literal text, _ => text < "\x7b"
  | param name', name => name' ++ "\x7d" < name ++ "\x7d"
  | wildcard name', name => name' ++ "...\x7d" < name ++ "\x7d"
  | finish, _ => True

/-- Names of parameters hold no brace. -/
theorem brace_notMem {name : String} (h : Path.IsParamName name) : '\x7d' ∉ name.toList :=
  fun hmem => absurd (h.continuesIdentifier hmem) (by decide)

/-- A name starts with a character that comes after the dollar sign. -/
theorem exists_cons_of_isParamName {name : String} (h : Path.IsParamName name) :
    ∃ c cs, name.toList = c :: cs ∧ '$' < c := by
  have hname := h.isName
  rw [Text.isName, Bool.and_eq_true, Text.isIdentifier] at hname
  cases hcs : name.toList with
  | nil => rw [hcs] at hname; exact absurd hname.1 (by decide)
  | cons c cs =>
    refine ⟨c, cs, rfl, ?_⟩
    have hc := h.continuesIdentifier (hcs ▸ List.mem_cons_self)
    -- none of the characters up to the dollar sign goes on an identifier
    have hlow : ∀ n < 37, Text.continuesIdentifier (Char.ofNat n) = false := by decide
    by_contra hle
    have hlt : c.toNat < 37 := by
      have hdollar : '$'.toNat = 36 := rfl
      have := Char.le_def.mp (not_lt.mp hle)
      rw [UInt32.le_iff_toNat_le] at this
      show c.val.toNat < 37
      change c.val.toNat ≤ 36 at this
      omega
    have hfalse := hlow c.toNat hlt
    rw [Char.ofNat_toNat, hc] at hfalse
    cases hfalse

/-- The text of a parameter does not begin that of another segment that may precede others or
ends a path, nor the other way round. -/
theorem not_prefix_param {s : Segment} {name : String} (hs : s.IsPlain)
    (hwild : ∀ n, s ≠ .wildcard n) (hname : Path.IsParamName name) (hne : s ≠ .param name) :
    ¬s.render.toList <+: (param name).render.toList ∧
      ¬(param name).render.toList <+: s.render.toList := by
  have htext : ∀ n : String, (param n).render.toList = ('\x7b' :: n.toList) ++ ['\x7d'] :=
    fun n => by simp [render]
  have hmark : ∀ {cs : List Char}, '\x7d' ∉ cs → '\x7d' ∉ '\x7b' :: cs := fun hcs hmem => by
    rcases List.mem_cons.mp hmem with h | h
    · exact absurd h (by decide)
    · exact hcs h
  have hb := hmark (brace_notMem hname)
  cases s with
  | literal text =>
    -- a literal does not start with a brace
    obtain ⟨hnil, hplain⟩ := hs
    obtain ⟨c, cs, hcs⟩ := List.exists_cons_of_ne_nil hnil
    have hc : c ≠ '\x7b' := (hplain c (hcs ▸ List.mem_cons_self)).2.1
    rw [htext, render, hcs]
    exact ⟨fun h => hc (List.cons_prefix_cons.mp h).1,
      fun h => hc (List.cons_prefix_cons.mp h).1.symm⟩
  | param n =>
    have hb' := hmark (brace_notMem hs)
    have hsame : n.toList = name.toList → False := fun h => hne (by rw [String.ext h])
    rw [htext, htext]
    exact ⟨fun h => hsame (List.cons.inj (eq_of_prefix_of_mark hb' hb h)).2,
      fun h => hsame (List.cons.inj (eq_of_prefix_of_mark hb hb' h)).2.symm⟩
  | wildcard n => exact absurd rfl (hwild n)
  | finish =>
    obtain ⟨c, cs, hcs, hc⟩ := exists_cons_of_isParamName hname
    have hfinish : finish.render.toList = ['\x7b', '$'] ++ ['\x7d'] := rfl
    have hsame : ['\x7b', '$'] = '\x7b' :: name.toList → False := fun h => by
      rw [hcs] at h
      exact absurd (List.cons.inj (List.cons.inj h).2).1 (ne_of_lt hc)
    rw [htext, hfinish]
    exact ⟨fun h => hsame (eq_of_prefix_of_mark (by decide) hb h),
      fun h => hsame (eq_of_prefix_of_mark hb (by decide) h).symm⟩

/-- The order of the texts is that of `SortsBefore`. -/
theorem render_lt_param_iff {s : Segment} {name : String} (hs : s.IsPlain)
    (hname : Path.IsParamName name) :
    s.render.toList < (param name).render.toList ↔ s.SortsBefore name := by
  have htext : (param name).render.toList = ['\x7b'] ++ (name ++ "\x7d").toList := by
    simp [render]
  cases s with
  | literal text =>
    obtain ⟨hnil, hplain⟩ := hs
    obtain ⟨c, cs, hcs⟩ := List.exists_cons_of_ne_nil hnil
    have hc : c ≠ '\x7b' := (hplain c (hcs ▸ List.mem_cons_self)).2.1
    have hbrace : "\x7b".toList = ['\x7b'] := rfl
    rw [SortsBefore, String.lt_iff_toList_lt, htext, render, hcs, hbrace, List.singleton_append,
      List.cons_lt_cons_iff, List.cons_lt_cons_iff]
    simp [hc]
  | param n =>
    rw [SortsBefore, String.lt_iff_toList_lt, htext]
    have htext' : (param n).render.toList = ['\x7b'] ++ (n ++ "\x7d").toList := by simp [render]
    rw [htext', lt_append_left_iff]
  | wildcard n =>
    rw [SortsBefore, String.lt_iff_toList_lt, htext]
    have htext' : (wildcard n).render.toList = ['\x7b'] ++ (n ++ "...\x7d").toList := by
      simp [render]
    rw [htext', lt_append_left_iff]
  | finish =>
    obtain ⟨c, cs, hcs, hc⟩ := exists_cons_of_isParamName hname
    refine iff_of_true ?_ trivial
    rw [htext, String.toList_append, hcs]
    exact List.cons_lt_cons_iff.mpr (Or.inr ⟨rfl, List.cons_lt_cons_iff.mpr (Or.inl hc)⟩)

end Route.Segment

/-! ### Routes of fixed depth -/

namespace Registration

/-- The segments are those in which two lists of segments differ first. -/
def DiffersAt (ss ts : List Segment) (s t : Segment) : Prop :=
  s ≠ t ∧ ∃ common ss' ts', ss = common ++ s :: ss' ∧ ts = common ++ t :: ts'

/-- Paths of which one is at least as specific as the other differ first where the other has a
parameter. -/
theorem exists_differsAt {ss ts : List Segment} (h : List.Forall₂ Segment.Refines ss ts)
    (hne : ss ≠ ts) : ∃ s name, DiffersAt ss ts s (.param name) := by
  induction h with
  | nil => exact absurd rfl hne
  | @cons s t ss ts hst hrest ih =>
    by_cases heq : s = t
    · subst heq
      obtain ⟨s', name, hs', common, ss', ts', hss, hts⟩ := ih fun h => hne (by rw [h])
      exact ⟨s', name, hs', s :: common, ss', ts', by rw [hss]; rfl, by rw [hts]; rfl⟩
    · cases hst with
      | literal text => exact absurd rfl heq
      | finish => exact absurd rfl heq
      | param s name => exact ⟨s, name, heq, [], ss, ts, rfl, rfl⟩

section

variable {l l' : Label} (h : l.Normal) (h' : l'.Normal)

include h h'

/-- Paths without a slash at the end are ordered by the segments in which they differ first, if
neither text begins the other. -/
theorem path_lt_iff_of_differsAt (hsub : l.subtree = false) (hsub' : l'.subtree = false)
    {s t : Segment} (hdiff : DiffersAt l.segments l'.segments s t)
    (hfront : ¬s.render.toList <+: t.render.toList ∧ ¬t.render.toList <+: s.render.toList) :
    l.path < l'.path ↔ s.render.toList < t.render.toList := by
  obtain ⟨-, common, ss', ts', hss, hts⟩ := hdiff
  have htext : ∀ (m : Label), m.Normal → m.subtree = false →
      m.path.toList = Path.slashed (m.segments.map (·.render.toList)) := fun m hm hmsub => by
    rw [hm.toList_path, hmsub, if_neg Bool.false_ne_true, List.append_nil]
  have hcut : ∀ (u : Segment) (us : List Segment),
      Path.slashed ((common ++ u :: us).map (·.render.toList)) =
        (Path.slashed (common.map (·.render.toList)) ++ ['/']) ++
          (u.render.toList ++ Path.slashed (us.map (·.render.toList))) := fun u us => by
    rw [List.map_append, Path.slashed_append, List.append_assoc]
    rfl
  rw [String.lt_iff_toList_lt, htext l h hsub, htext l' h' hsub', hss, hts, hcut, hcut,
    lt_append_left_iff, append_lt_append_iff hfront.1 hfront.2]

end

/-- A route of fixed depth is no subtree and has no wildcard. -/
theorem not_catchAll {l : Label} (h : l.catchAll = false) :
    l.subtree = false ∧ ∀ n, .wildcard n ∉ l.segments := by
  rw [Label.catchAll, Bool.or_eq_false_iff, List.any_eq_false] at h
  refine ⟨h.1, fun n hn => ?_⟩
  exact h.2 _ hn rfl

variable {definitions : List Definition} {i j : Nat} {a b : Definition}

/-- **Which of two overlapping routes of fixed depth is registered first.**  Let two routes have
one host, and let every segment of the first be at least as specific as that of the second.  If
their paths differ, the first is registered before the second exactly if, where they differ
first, its segment comes before the parameter of the second in texts.  If they are the same, the
route of one method is registered before that of any method. -/
theorem precedes_iff_sortsBefore {text text' : String}
    (ha : definitions[i]? = some a) (hb : definitions[j]? = some b)
    (hreada : Label.parse text = .ok (some a.label))
    (hreadb : Label.parse text' = .ok (some b.label))
    (hhost : a.label.host = b.label.host)
    (hfixeda : a.label.catchAll = false) (hfixedb : b.label.catchAll = false)
    (hrefines : List.Forall₂ Segment.Refines a.label.segments b.label.segments) :
    (a.label.segments ≠ b.label.segments →
      ∃ s name, DiffersAt a.label.segments b.label.segments s (.param name) ∧
        (Precedes definitions i j ↔ s.SortsBefore name)) ∧
    (a.label.segments = b.label.segments → a.label.method.isSome = true →
      b.label.method = none → Precedes definitions i j) := by
  have hna := Label.normal_of_parse hreada
  have hnb := Label.normal_of_parse hreadb
  obtain ⟨hsuba, hwilda⟩ := not_catchAll hfixeda
  obtain ⟨hsubb, -⟩ := not_catchAll hfixedb
  have hprecedence := precedence_of_not_catchAll hhost hfixeda hfixedb
  constructor
  · intro hne
    obtain ⟨s, name, hdiff⟩ := exists_differsAt hrefines hne
    refine ⟨s, name, hdiff, ?_⟩
    obtain ⟨hst, common, ss', ts', hss, hts⟩ := id hdiff
    have hs : s ∈ a.label.segments := by rw [hss]; simp
    have ht : Segment.param name ∈ b.label.segments := by rw [hts]; simp
    have hplain := hna.path_normal.plain s hs
    have hname : Path.IsParamName name := hnb.path_normal.plain _ ht
    have hfront := Segment.not_prefix_param hplain
      (fun n heq => hwilda n (heq ▸ hs)) hname hst
    have hlt := path_lt_iff_of_differsAt hna hnb hsuba hsubb hdiff hfront
    -- the paths differ, so they alone decide
    have hpaths : compare a.label.path b.label.path ≠ .eq := fun heq => by
      have hsame : s.render.toList = (Segment.param name).render.toList := by
        have h1 := hlt.not.mp (compare_eq_iff_eq.mp heq ▸ lt_irrefl _)
        have h2 := (path_lt_iff_of_differsAt hnb hna hsubb hsuba
          ⟨hst.symm, common, ts', ss', hts, hss⟩ hfront.symm).not.mp
          (compare_eq_iff_eq.mp heq ▸ lt_irrefl _)
        exact le_antisymm (not_lt.mp h2) (not_lt.mp h1)
      exact hfront.1 (hsame ▸ List.prefix_rfl)
    have hne : precedence a b ≠ .eq := fun heq => by
      rw [hprecedence, Ordering.then_eq_eq] at heq
      exact hpaths heq.1
    rw [precedes_iff ha hb hne, hprecedence, Ordering.then_eq_lt, or_iff_left fun h => hpaths h.1,
      compare_lt_iff_lt, hlt, Segment.render_lt_param_iff hplain hname]
  · intro hsame hmethod hnone
    refine precedes_of_lt ha hb ?_
    have hpath : a.label.path = b.label.path := by
      apply String.ext
      rw [hna.toList_path, hnb.toList_path, hsame, hsuba, hsubb]
    rw [hprecedence, hpath, hmethod, hnone, compare_eq_iff_eq.mpr rfl]
    rfl

/-- A literal that comes before the opening brace, after a parameter that both paths have. -/
theorem precedes_iff_sortsBefore_edit :
    let a : Definition := ⟨⟨"GET /\x7bid\x7d/edit", some .get, "", "/\x7bid\x7d/edit",
      [.param "id", .literal "edit"], 200, false, ""⟩, none, "", ""⟩
    let b : Definition := ⟨⟨"/\x7bid\x7d/\x7btab\x7d", none, "", "/\x7bid\x7d/\x7btab\x7d",
      [.param "id", .param "tab"], 200, false, ""⟩, none, "", ""⟩
    Label.parse "GET /\x7bid\x7d/edit" = .ok (some a.label) ∧
      Label.parse "/\x7bid\x7d/\x7btab\x7d" = .ok (some b.label) ∧
      List.Forall₂ Segment.Refines a.label.segments b.label.segments ∧
      Precedes [b, a] 1 0 := by
  intro a b
  have hreada : Label.parse "GET /\x7bid\x7d/edit" = .ok (some a.label) := by rfl
  have hreadb : Label.parse "/\x7bid\x7d/\x7btab\x7d" = .ok (some b.label) := by rfl
  have hrefines : List.Forall₂ Segment.Refines a.label.segments b.label.segments :=
    .cons (.param _ _) (.cons (.param _ _) .nil)
  refine ⟨hreada, hreadb, hrefines, ?_⟩
  have ha : [b, a][1]? = some a := rfl
  have hb : [b, a][0]? = some b := rfl
  obtain ⟨s, name, ⟨hne, common, ss', ts', hss, hts⟩, hiff⟩ :=
    (precedes_iff_sortsBefore ha hb hreada hreadb rfl (by decide) (by decide) hrefines).1
      (by decide)
  refine hiff.mpr ?_
  -- the paths do not differ in the first segment, so they do in the second
  rcases common with _ | ⟨c, _ | ⟨c', common⟩⟩
  · obtain ⟨rfl, -⟩ := List.cons.inj hss
    obtain ⟨h, -⟩ := List.cons.inj hts
    exact absurd h hne
  · obtain ⟨-, hss⟩ := List.cons.inj hss
    obtain ⟨rfl, -⟩ := List.cons.inj hss
    show "edit" < "\x7b"
    decide
  · have hlength := congrArg List.length hss
    simp [a] at hlength

/-- A literal that comes after the opening brace is registered after the parameter that takes it,
and a route of one method after that of any method if its parameter's name comes later: neither
is ever served. -/
theorem not_precedes_literal_of_later_text :
    (let a : Definition := ⟨⟨"GET /~me", some .get, "", "/~me", [.literal "~me"], 200, false, ""⟩,
        none, "", ""⟩
      let b : Definition := ⟨⟨"GET /\x7bid\x7d", some .get, "", "/\x7bid\x7d", [.param "id"], 200,
        false, ""⟩, none, "", ""⟩
      Label.parse "GET /~me" = .ok (some a.label) ∧
        Label.parse "GET /\x7bid\x7d" = .ok (some b.label) ∧ a.label.host = b.label.host ∧
        a.label.catchAll = false ∧ b.label.catchAll = false ∧
        List.Forall₂ Segment.Refines a.label.segments b.label.segments ∧
        ¬Precedes [b, a] 1 0) ∧
    (let a : Definition := ⟨⟨"GET /\x7bname\x7d", some .get, "", "/\x7bname\x7d", [.param "name"],
        200, false, ""⟩, none, "", ""⟩
      let b : Definition := ⟨⟨"/\x7bid\x7d", none, "", "/\x7bid\x7d", [.param "id"], 200, false,
        ""⟩, none, "", ""⟩
      Label.parse "GET /\x7bname\x7d" = .ok (some a.label) ∧
        Label.parse "/\x7bid\x7d" = .ok (some b.label) ∧ a.label.host = b.label.host ∧
        a.label.catchAll = false ∧ b.label.catchAll = false ∧
        List.Forall₂ Segment.Refines a.label.segments b.label.segments ∧
        ¬Precedes [b, a] 1 0) := by
  constructor
  · intro a b
    refine ⟨by rfl, by rfl, rfl, by decide, by decide, .cons (.param _ _) .nil, ?_⟩
    have hba : precedence b a = .lt := by decide
    exact (precedes_of_lt (show [b, a][0]? = some b from rfl) (show [b, a][1]? = some a from rfl)
      hba).asymm
  · intro a b
    refine ⟨by rfl, by rfl, rfl, by decide, by decide, .cons (.param _ _) .nil, ?_⟩
    have hba : precedence b a = .lt := by decide
    exact (precedes_of_lt (show [b, a][0]? = some b from rfl) (show [b, a][1]? = some a from rfl)
      hba).asymm

end Registration

/-! ### Routes that match everything below a path -/

namespace Route.Label

/-- The segments before the wildcard or the slash at the end. -/
def stem (l : Label) : List Segment :=
  if l.subtree then l.segments else l.segments.dropLast

/-- The text after the last slash: that of the wildcard, or none. -/
def ending (l : Label) : List Char :=
  if l.subtree then [] else (l.segments.getLast?.map (·.render.toList)).getD []

namespace Normal

variable {l : Label} (h : l.Normal)

include h

/-- The path of a route that matches everything below its stem is the stem and the ending. -/
theorem toList_path_of_catchAll (hall : l.catchAll = true) :
    l.path.toList = Path.slashed (l.stem.map (·.render.toList) ++ [l.ending]) := by
  rw [h.toList_path, stem, ending]
  cases hsub : l.subtree with
  | true => rfl
  | false =>
    -- without a slash at the end there is a wildcard, hence a last segment
    rw [catchAll, hsub, Bool.false_or, List.any_eq_true] at hall
    obtain ⟨s, hs, -⟩ := hall
    have hne := List.ne_nil_of_mem hs
    rw [if_neg Bool.false_ne_true, if_neg Bool.false_ne_true, if_neg Bool.false_ne_true,
      List.append_nil, List.getLast?_eq_some_getLast hne]
    conv_lhs => rw [← List.dropLast_append_getLast hne]
    rw [List.map_append]
    rfl

/-- No part of the path holds a slash. -/
theorem slash_notMem_ending : '/' ∉ l.ending := by
  rw [ending]
  split_ifs with hsub
  · exact List.not_mem_nil
  · cases hlast : l.segments.getLast? with
    | none => exact List.not_mem_nil
    | some s => exact (h.path_normal.plain s (List.mem_of_getLast? hlast)).slash_notMem_render

theorem slash_notMem_stem {part : List Char} (hpart : part ∈ l.stem.map (·.render.toList)) :
    '/' ∉ part := by
  obtain ⟨s, hs, rfl⟩ := List.mem_map.mp hpart
  refine (h.path_normal.plain s ?_).slash_notMem_render
  rw [stem] at hs
  split_ifs at hs
  · exact hs
  · exact List.dropLast_subset _ hs

end Normal

end Route.Label

namespace Registration

variable {definitions : List Definition} {i j : Nat} {a b : Definition}

/-- **Which of two routes that match everything below a path is registered first.**  Let two such
routes have one host, and let the stem of the first be longer than that of the second.  Then the
first is registered before the second exactly if its path is longer, or if it is as long and
comes first in texts; and always if the path of the second ends in a slash. -/
theorem precedes_iff_shorter_ending {text text' : String} {extra : List Segment}
    (ha : definitions[i]? = some a) (hb : definitions[j]? = some b)
    (hreada : Label.parse text = .ok (some a.label))
    (hreadb : Label.parse text' = .ok (some b.label))
    (hhost : a.label.host = b.label.host)
    (halla : a.label.catchAll = true) (hallb : b.label.catchAll = true)
    (hextra : extra ≠ []) (hstem : a.label.stem = b.label.stem ++ extra) :
    let below := Path.slashed (extra.map (·.render.toList) ++ [a.label.ending])
    let ending := Path.slashed [b.label.ending]
    (Precedes definitions i j ↔
      ending.length < below.length ∨ ending.length = below.length ∧ below < ending) ∧
    (b.label.subtree = true → Precedes definitions i j) := by
  intro below ending
  have hna := Label.normal_of_parse hreada
  have hnb := Label.normal_of_parse hreadb
  set stem := Path.slashed (b.label.stem.map (·.render.toList)) with hstemText
  have hpatha : a.label.path.toList = stem ++ below := by
    rw [hna.toList_path_of_catchAll halla, hstem, List.map_append, List.append_assoc,
      Path.slashed_append]
  have hpathb : b.label.path.toList = stem ++ ending := by
    rw [hnb.toList_path_of_catchAll hallb, Path.slashed_append]
  have hlengtha : a.label.path.length = stem.length + below.length := by
    rw [← String.length_toList, hpatha, List.length_append]
  have hlengthb : b.label.path.length = stem.length + ending.length := by
    rw [← String.length_toList, hpathb, List.length_append]
  have hprecedence := precedence_of_catchAll hhost halla hallb
  -- the first path has more parts, so the paths are not the same
  have hpaths : compare a.label.path b.label.path ≠ .eq := fun heq => by
    have htext : below = ending := by
      have hsame := congrArg String.toList (compare_eq_iff_eq.mp heq)
      rw [hpatha, hpathb] at hsame
      exact List.append_cancel_left hsame
    have hparts := Path.slashed_injective
      (fun part hpart => ?_) (fun part hpart => ?_) htext
    · have hlength := congrArg List.length hparts
      rw [List.length_append, List.length_map] at hlength
      exact hextra (List.length_eq_zero_iff.mp (by simpa using hlength))
    · rcases List.mem_append.mp hpart with hpart | hpart
      · refine hna.slash_notMem_stem ?_
        rw [hstem, List.map_append]
        exact List.mem_append_right _ hpart
      · rw [List.mem_singleton.mp hpart]
        exact hna.slash_notMem_ending
    · rw [List.mem_singleton.mp hpart]
      exact hnb.slash_notMem_ending
  have hne : precedence a b ≠ .eq := fun heq => by
    rw [hprecedence, Ordering.then_eq_eq, Ordering.then_eq_eq] at heq
    exact hpaths heq.2.1
  have hiff : Precedes definitions i j ↔
      ending.length < below.length ∨ ending.length = below.length ∧ below < ending := by
    rw [precedes_iff ha hb hne, hprecedence, Ordering.then_eq_lt, Ordering.then_eq_lt,
      or_iff_left fun h : compare a.label.path b.label.path = .eq ∧ _ => hpaths h.1,
      compare_lt_iff_lt, compare_eq_iff_eq, compare_lt_iff_lt, String.lt_iff_toList_lt, hpatha,
      hpathb, lt_append_left_iff, hlengtha, hlengthb, Nat.add_lt_add_iff_left,
      Nat.add_left_cancel_iff]
  refine ⟨hiff, fun hsub => hiff.mpr (Or.inl ?_)⟩
  -- after the stem the second path has one slash, the first at least two
  obtain ⟨s, rest, rfl⟩ := List.exists_cons_of_ne_nil hextra
  have hending : ending.length = 1 := by
    show (Path.slashed [b.label.ending]).length = 1
    rw [Label.ending, if_pos hsub]
    rfl
  have hbelow : 2 ≤ below.length := by
    show 2 ≤ (Path.slashed ((s :: rest).map (·.render.toList) ++ [a.label.ending])).length
    rw [Path.slashed_append, List.length_append, List.map_cons]
    simp only [Path.slashed, List.flatMap_cons, List.flatMap_nil, List.length_append,
      List.length_cons, List.length_nil]
    omega
  omega

/-- A wildcard below a literal is registered before a wildcard with a short name. -/
theorem precedes_iff_shorter_ending_files :
    let a : Definition := ⟨⟨"GET /files/\x7bpath...\x7d", some .get, "", "/files/\x7bpath...\x7d",
      [.literal "files", .wildcard "path"], 200, false, ""⟩, none, "", ""⟩
    let b : Definition := ⟨⟨"/\x7bp...\x7d", none, "", "/\x7bp...\x7d", [.wildcard "p"], 200, false,
      ""⟩, none, "", ""⟩
    Label.parse "GET /files/\x7bpath...\x7d" = .ok (some a.label) ∧
      Label.parse "/\x7bp...\x7d" = .ok (some b.label) ∧
      a.label.stem = b.label.stem ++ [.literal "files"] ∧ Precedes [b, a] 1 0 := by
  intro a b
  have hreada : Label.parse "GET /files/\x7bpath...\x7d" = .ok (some a.label) := by rfl
  have hreadb : Label.parse "/\x7bp...\x7d" = .ok (some b.label) := by rfl
  have hstem : a.label.stem = b.label.stem ++ [.literal "files"] := by decide
  refine ⟨hreada, hreadb, hstem, ?_⟩
  exact (precedes_iff_shorter_ending (show [b, a][1]? = some a from rfl)
    (show [b, a][0]? = some b from rfl) hreada hreadb rfl (by decide) (by decide)
    (List.cons_ne_nil _ _) hstem).1.mpr (Or.inl (by decide))

/-- A wildcard with a long name is registered before the subtree of a literal, which it takes:
the subtree is never served. -/
theorem not_precedes_subtree_of_long_wildcard :
    let a : Definition := ⟨⟨"GET /a/", some .get, "", "/a/", [.literal "a"], 200, false, ""⟩,
      none, "", ""⟩
    let b : Definition := ⟨⟨"GET /\x7bpath...\x7d", some .get, "", "/\x7bpath...\x7d",
      [.wildcard "path"], 200, false, ""⟩, none, "", ""⟩
    Label.parse "GET /a/" = .ok (some a.label) ∧
      Label.parse "GET /\x7bpath...\x7d" = .ok (some b.label) ∧ a.label.host = b.label.host ∧
      a.label.catchAll = true ∧ b.label.catchAll = true ∧
      a.label.stem = b.label.stem ++ [.literal "a"] ∧ ¬Precedes [a, b] 0 1 := by
  intro a b
  refine ⟨by rfl, by rfl, rfl, by decide, by decide, by decide, ?_⟩
  have hba : precedence b a = .lt := by decide
  exact (precedes_of_lt (show [a, b][1]? = some b from rfl) (show [a, b][0]? = some a from rfl)
    hba).asymm

end Registration

end FragmentRoutes
