import FragmentRoutes.Proofs.Except
import FragmentRoutes.Proofs.Redirect.Tree
import Mathlib.Logic.Relation

/-!
# Reachable templates

`mayRedirect` walks a template and the templates that it refers to, but none that is on the way
already.  It answers whether a path of references that meets none of the visited names leads to a
template with a suspicious node (`decides_mayRedirect`).

Nothing is lost by leaving out what is on the way: a path that comes back to its start can be cut
at the last time it is there (`pathOff_iff`).  So without visited names the answer is whether a
suspicious template can be reached at all (`mayRedirect_iff_reaches`).
-/

namespace FragmentRoutes.Redirect

open Template

/-! ### Paths that avoid elements -/

/-- A path along `r` that meets none of the elements of `avoided`, its ends included. -/
inductive PathOff {α : Type} (r : α → α → Prop) (avoided : List α) : α → α → Prop where
  | refl {a : α} (ha : a ∉ avoided) : PathOff r avoided a a
  | head {a b c : α} (ha : a ∉ avoided) (hab : r a b) (hbc : PathOff r avoided b c) :
    PathOff r avoided a c

section

variable {α : Type} {r : α → α → Prop} {avoided : List α} {a c : α}

theorem PathOff.start_notMem (h : PathOff r avoided a c) : a ∉ avoided := by
  cases h with
  | refl ha => exact ha
  | head ha _ _ => exact ha

theorem pathOff_nil_iff : PathOff r [] a c ↔ Relation.ReflTransGen r a c := by
  constructor
  · intro h
    induction h with
    | refl _ => exact .refl
    | head _ hab _ ih => exact .head hab ih
  · intro h
    induction h using Relation.ReflTransGen.head_induction_on with
    | refl => exact .refl List.not_mem_nil
    | head hab _ ih => exact .head List.not_mem_nil hab ih

/-- A path that avoids one element more avoids the others. -/
theorem PathOff.of_cons {x : α} (h : PathOff r (x :: avoided) a c) : PathOff r avoided a c := by
  induction h with
  | refl ha => exact .refl (List.not_mem_of_not_mem_cons ha)
  | head ha hab _ ih => exact .head (List.not_mem_of_not_mem_cons ha) hab ih

/-- A path either does not meet an element, or can be cut at the last time it does: the rest of
it does not meet the element again. -/
theorem PathOff.cut (x : α) (h : PathOff r avoided a c) :
    PathOff r (x :: avoided) a c ∨ x = c ∨ ∃ b, r x b ∧ PathOff r (x :: avoided) b c := by
  induction h with
  | @refl c hc =>
    by_cases hx : c = x
    · exact Or.inr (Or.inl hx.symm)
    · exact Or.inl (.refl (List.not_mem_cons_of_ne_of_not_mem hx hc))
  | @head a b c ha hab _ ih =>
    rcases ih with hoff | hcut
    · -- the rest does not meet the element, so this is the last time if it is met here
      by_cases hx : a = x
      · exact Or.inr (Or.inr ⟨b, hx ▸ hab, hoff⟩)
      · exact Or.inl (.head (List.not_mem_cons_of_ne_of_not_mem hx ha) hab hoff)
    · exact Or.inr hcut

/-- **A path need not come back to its start.** -/
theorem pathOff_iff :
    PathOff r avoided a c ↔ a ∉ avoided ∧ (a = c ∨ ∃ b, r a b ∧ PathOff r (a :: avoided) b c) := by
  constructor
  · intro h
    refine ⟨h.start_notMem, ?_⟩
    rcases h.cut a with hoff | hcut
    · exact absurd List.mem_cons_self hoff.start_notMem
    · exact hcut
  · rintro ⟨ha, rfl | ⟨b, hab, hbc⟩⟩
    · exact .refl ha
    · exact .head ha hab hbc.of_cons

end

/-! ### The graph of templates -/

/-- The statements of a known template that can be read. -/
def tree? (library : Library) (name : String) : Option (List Stmt) :=
  (library.get? name).bind fun fragment => (parse fragment.source).toOption

/-- The template has a node, at any depth, with the given property. -/
def HasNode (library : Library) (name : String) (p : Node → Prop) : Prop :=
  ∃ stmts, tree? library name = some stmts ∧ ∃ s ∈ stmts, ∃ m : Node, m.Within (.stmt s) ∧ p m

/-- The first template **refers to** the second by a constant name. -/
def RefersTo (library : Library) (name name' : String) : Prop :=
  HasNode library name fun m => name' ∈ m.references

/-- The template is **suspicious**: it has a node that may redirect by itself. -/
def Suspicious (library : Library) (name : String) : Prop :=
  HasNode library name fun m => m.isSuspicious = true

/-- The templates of the library can all be read. -/
def Readable (library : Library) : Prop :=
  ∀ fragment ∈ library.known, ∃ stmts, parse fragment.source = .ok stmts

theorem flagged_iff_of_tree? {library : Library} {name : String} {stmts : List Stmt}
    {follow : String → Except Fault Bool} (htree : tree? library name = some stmts) :
    (∃ s ∈ stmts, (Node.stmt s).Flagged follow) ↔
      Suspicious library name ∨ ∃ b, RefersTo library name b ∧ follow b = .ok true := by
  constructor
  · rintro ⟨s, hs, m, hm, hsuspicious | ⟨b, hb, hfollow⟩⟩
    · exact Or.inl ⟨stmts, htree, s, hs, m, hm, hsuspicious⟩
    · exact Or.inr ⟨b, ⟨stmts, htree, s, hs, m, hm, hb⟩, hfollow⟩
  · rintro (⟨stmts', htree', s, hs, m, hm, hp⟩ | ⟨b, ⟨stmts', htree', s, hs, m, hm, hp⟩, hfollow⟩)
    · obtain rfl := Option.some.inj (htree.symm.trans htree')
      exact ⟨s, hs, m, hm, Or.inl hp⟩
    · obtain rfl := Option.some.inj (htree.symm.trans htree')
      exact ⟨s, hs, m, hm, Or.inr ⟨b, hp, hfollow⟩⟩

theorem tree?_of_known {library : Library} {name : String} {fragment : Fragment}
    {stmts : List Stmt} (hknown : library.get? name = some fragment)
    (hstmts : parse fragment.source = .ok stmts) : tree? library name = some stmts := by
  rw [tree?, hknown, Option.bind_some, hstmts]
  rfl

theorem not_hasNode_of_unknown {library : Library} {name : String} {p : Node → Prop}
    (hunknown : library.get? name = none) : ¬HasNode library name p := by
  rintro ⟨stmts, htree, -⟩
  rw [tree?, hunknown] at htree
  cases htree

/-! ### The analysis -/

/-- A path off the visited names leads from the template to a suspicious one. -/
def ReachesOff (library : Library) (visited : List String) (name : String) : Prop :=
  ∃ n, PathOff (RefersTo library) visited name n ∧ Suspicious library n

theorem reachesOff_iff {library : Library} {visited : List String} {name : String} :
    ReachesOff library visited name ↔ name ∉ visited ∧
      (Suspicious library name ∨
        ∃ b, RefersTo library name b ∧ ReachesOff library (name :: visited) b) := by
  constructor
  · rintro ⟨n, hpath, hn⟩
    obtain ⟨hname, rfl | ⟨b, hb, hrest⟩⟩ := pathOff_iff.mp hpath
    · exact ⟨hname, Or.inl hn⟩
    · exact ⟨hname, Or.inr ⟨b, hb, n, hrest, hn⟩⟩
  · rintro ⟨hname, hn | ⟨b, hb, n, hrest, hn⟩⟩
    · exact ⟨name, .refl hname, hn⟩
    · exact ⟨n, pathOff_iff.mpr ⟨hname, Or.inr ⟨b, hb, hrest⟩⟩, hn⟩

/-- The walk of the tree of a template follows references with its name among those visited. -/
theorem mayRedirect_of_known {library : Library} {visited : List String} {name : String}
    {fragment : Fragment} (hnew : ¬visited.contains name)
    (hknown : library.get? name = some fragment) :
    mayRedirect library visited name =
      match parse fragment.source with
      | .error fault => .error fault
      | .ok stmts => inStmts (mayRedirect library (name :: visited)) stmts := by
  rw [mayRedirect, dif_neg hnew]
  split
  · rename_i hunknown
    cases hunknown.symm.trans hknown
  · rename_i fragment' hknown'
    obtain rfl := Option.some.inj (hknown.symm.trans hknown')
    rfl

/-- **The analysis decides whether a suspicious template is reached** off the visited names. -/
theorem decides_mayRedirect {library : Library} (hlibrary : Readable library)
    (visited : List String) (name : String) :
    Decides (mayRedirect library visited name) (ReachesOff library visited name) := by
  induction visited, name using mayRedirect.induct library with
  | case1 visited name hvisited =>
    -- every path from the name meets it, which is visited
    rw [mayRedirect, dif_pos hvisited, reachesOff_iff]
    rw [List.contains_iff_mem] at hvisited
    exact decides_ok (by simp [hvisited])
  | case2 visited name hnew hunknown =>
    rw [mayRedirect, dif_neg hnew, reachesOff_iff]
    split
    · exact decides_ok (by
        simp [Suspicious, RefersTo, not_hasNode_of_unknown hunknown])
    · rename_i fragment hknown
      cases hunknown.symm.trans hknown
  | case3 visited name hnew fragment hknown fault hfault =>
    obtain ⟨stmts, hstmts⟩ := hlibrary fragment (Library.mem_known_of_get? hknown)
    rw [hstmts] at hfault
    cases hfault
  | case4 visited name hnew fragment hknown stmts hstmts ih =>
    have htree : tree? library name = some stmts := tree?_of_known hknown hstmts
    have hrun : mayRedirect library visited name =
        inStmts (mayRedirect library (name :: visited)) stmts := by
      rw [mayRedirect_of_known hnew hknown, hstmts]
    have hfollow : ∀ n, ∃ b, mayRedirect library (name :: visited) n = .ok b := by
      intro n
      obtain ⟨b, hb, -⟩ := ih n
      exact ⟨b, hb⟩
    rw [hrun, reachesOff_iff]
    refine (decides_inStmts hfollow stmts).congr ?_
    rw [flagged_iff_of_tree? htree]
    rw [List.contains_iff_mem] at hnew
    simp only [(ih _).eq_ok_iff, hnew, not_false_eq_true, true_and]

theorem reachesOff_nil_iff {library : Library} {name : String} :
    ReachesOff library [] name ↔
      ∃ n, Relation.ReflTransGen (RefersTo library) name n ∧ Suspicious library n := by
  simp only [ReachesOff, pathOff_nil_iff]

/-- **The analysis is reachability.**  If all templates of a library can be read, there is an
answer for every name, and it is that a redirect is possible if and only if a suspicious template
can be reached from it by references.

So it depends only on which templates refer to which and which are suspicious, not on any order.
And leaving out what is on the way hides nothing: from a name, a redirect is found that is found
from any template that it leads to. -/
theorem mayRedirect_iff_reaches {library : Library} (hlibrary : Readable library)
    (name : String) :
    Decides (mayRedirect library [] name)
      (∃ n, Relation.ReflTransGen (RefersTo library) name n ∧ Suspicious library n) ∧
    (∀ library', Readable library' →
      (∀ a b, RefersTo library' a b ↔ RefersTo library a b) →
      (∀ a, Suspicious library' a ↔ Suspicious library a) →
      mayRedirect library' [] name = mayRedirect library [] name) ∧
    ∀ n, Relation.ReflTransGen (RefersTo library) name n →
      mayRedirect library [] n = .ok true → mayRedirect library [] name = .ok true := by
  have hdecides : ∀ n, Decides (mayRedirect library [] n)
      (∃ m, Relation.ReflTransGen (RefersTo library) n m ∧ Suspicious library m) := fun n =>
    (decides_mayRedirect hlibrary [] n).congr reachesOff_nil_iff
  refine ⟨hdecides name, ?_, ?_⟩
  · intro library' hlibrary' hrefers hsuspicious
    have hrefers : RefersTo library' = RefersTo library := by
      funext a b
      exact propext (hrefers a b)
    have hdecides' := (decides_mayRedirect hlibrary' [] name).congr reachesOff_nil_iff
    rw [hrefers] at hdecides'
    simp only [hsuspicious] at hdecides'
    exact hdecides'.eq_of (hdecides name)
  · intro n hn h
    obtain ⟨m, hm, hsuspicious⟩ := (hdecides n).eq_ok_iff.mp h
    exact (hdecides name).eq_ok_iff.mpr ⟨m, hn.trans hm, hsuspicious⟩

/-- Two templates that include each other: the second one redirects, so both may.  The order in
which the library has them does not matter. -/
theorem mayRedirect_iff_reaches_cycle :
    let first : Fragment := ⟨"a", "\x7b% include 'b' %\x7d", none⟩
    let second : Fragment :=
      ⟨"b", "\x7b% include 'a' %\x7d\x7b\x7b data.redirect \x7d\x7d", none⟩
    let library : Library := ⟨[], [first, second]⟩
    Readable library ∧ mayRedirect library [] "a" = .ok true ∧
      (∃ n, Relation.ReflTransGen (RefersTo library) "a" n ∧ Suspicious library n) ∧
      mayRedirect ⟨[], [second, first]⟩ [] "a" = .ok true := by
  intro first second library
  have hread : ∀ fragment ∈ [first, second], ∃ stmts, parse fragment.source = .ok stmts := by
    intro fragment hfragment
    have hsome : (parse fragment.source).toOption.isSome = true := by
      revert fragment
      decide +kernel
    obtain ⟨stmts, hstmts⟩ := Option.isSome_iff_exists.mp hsome
    exact ⟨stmts, Except.toOption_eq_some.mp hstmts⟩
  have hlibrary : Readable library := hread
  have hlibrary' : Readable ⟨[], [second, first]⟩ := fun fragment hfragment =>
    hread fragment ((List.Perm.swap first second []).mem_iff.mp hfragment)
  have htree : tree? ⟨[], [second, first]⟩ = tree? library := by
    funext name
    rw [tree?, tree?]
    congr 1
    by_cases ha : name = "a"
    · subst ha
      rfl
    · have ha' : ("a" == name) = false := by simpa using Ne.symm ha
      simp [Library.get?, library, first, second, List.find?_cons, ha']
  have hrefers : RefersTo library "a" "b" := by
    have hany : ((tree? library "a").any fun stmts =>
        stmts.any fun s => (Node.stmt s).references.contains "b") = true := by decide +kernel
    obtain ⟨stmts, hstmts, hany⟩ := (Option.any_eq_true _ _).mp hany
    obtain ⟨s, hs, hb⟩ := List.any_eq_true.mp hany
    exact ⟨stmts, hstmts, s, hs, _, .self _, List.contains_iff_mem.mp hb⟩
  have hsecond : mayRedirect library [] "b" = .ok true :=
    Except.toOption_eq_some.mp (by decide +kernel)
  obtain ⟨hdecides, horder, hcut⟩ := mayRedirect_iff_reaches hlibrary "a"
  have hfirst := hcut "b" (.single hrefers) hsecond
  refine ⟨hlibrary, hfirst, hdecides.eq_ok_iff.mp hfirst, ?_⟩
  rw [horder _ hlibrary' (by simp [RefersTo, HasNode, htree])
    (by simp [Suspicious, HasNode, htree]), hfirst]

end FragmentRoutes.Redirect
