import FragmentRoutes.Proofs.Route.RouterTemplate

/-!
# Filling a router path

A router path with texts for its parameters is a path that a request may have.  What is filled are
the segments: each has the text of its parameter, or its own (`Normal.toList_fill`).

The router serves a path if it is the router path with some texts, none of which is empty or has a
slash, except for what takes the rest of the path (`Router.Serves`).  As every text of a parameter
stands between slashes, a path with fewer slashes than the router path is not served
(`not_serves_of_slashed`).
-/

namespace FragmentRoutes.Route

namespace Router

/-- The piece with the texts for the parameters. -/
def Piece.fill (texts : String → String) : Piece → List Char
  | .char c => [c]
  | .param name _ => (texts name).toList

/-- The router path with the texts for all that stands between braces. -/
def fill (texts : String → String) (path : String) : String :=
  String.ofList ((pieces (fun _ => true) path.toList).flatMap (Piece.fill texts))

/-- A parameter without the convertor of paths takes a text that is not empty and has no slash. -/
def Admits (texts : String → String) (pieces : List Piece) : Prop :=
  ∀ name convertor, .param name convertor ∈ pieces → convertor ≠ "path" →
    (texts name).toList ≠ [] ∧ '/' ∉ (texts name).toList

/-- The router **serves** a path under a router path: it is the router path with some texts that its
parameters take. -/
def Serves (path served : String) : Prop :=
  ∃ texts, Admits texts (pieces isPlaceholder path.toList) ∧
    served.toList = (pieces isPlaceholder path.toList).flatMap (Piece.fill texts)

end Router

/-- The segment with the text for its parameter. -/
def Segment.fill (texts : String → String) : Segment → List Char
  | .literal text => text.toList
  | .param name => (texts name).toList
  | .wildcard name => (texts name).toList
  | .finish => []

/-! ### Pieces of segments with ASCII names -/

namespace Router

theorem flatMap_fill_map_char (texts : String → String) (cs : List Char) :
    (cs.map Piece.char).flatMap (Piece.fill texts) = cs := by
  rw [List.flatMap_map]
  exact List.flatMap_singleton' cs

/-- The test takes the names of the segment for parameters. -/
def Takes (isGroup : List Char → Bool) : Segment → Prop
  | .param name => isGroup name.toList = true
  | .wildcard name => isGroup (name.toList ++ ":path".toList) = true
  | _ => True

variable {isGroup : List Char → Bool} {s : Segment}

theorem flatMap_fill_routerPieces (texts : String → String) (hrouted : s.IsRouted)
    (htakes : Takes isGroup s) :
    (s.routerPieces isGroup).flatMap (Piece.fill texts) = s.fill texts := by
  cases s with
  | literal text => exact flatMap_fill_map_char texts text.toList
  | param name =>
    have hgroup : isGroup name.toList = true := htakes
    rw [Segment.routerPieces, piecesOfGroup, if_pos hgroup, ofGroup_param hrouted]
    exact List.flatMap_singleton _ _
  | wildcard name =>
    have hgroup : isGroup (name.toList ++ ":path".toList) = true := htakes
    rw [Segment.routerPieces, piecesOfGroup, if_pos hgroup, ofGroup_wildcard hrouted]
    exact List.flatMap_singleton _ _
  | finish => rfl

theorem takes_isPlaceholder (hrouted : s.IsRouted)
    (hascii : ∀ name ∈ s.bound?, isAsciiName name.toList = true) : Takes isPlaceholder s := by
  cases s with
  | literal text => trivial
  | param name => exact (isPlaceholder_param hrouted).trans (hascii name rfl)
  | wildcard name => exact (isPlaceholder_wildcard hrouted).trans (hascii name rfl)
  | finish => trivial

/-- A parameter among the pieces of a segment is a parameter of the path, or takes its rest. -/
theorem eq_param_of_mem_routerPieces (hrouted : s.IsRouted) {name convertor : String}
    (h : .param name convertor ∈ s.routerPieces isGroup) :
    s = .param name ∨ convertor = "path" := by
  have hchars : ∀ {cs : List Char}, Piece.param name convertor ∉ cs.map Piece.char := by simp
  cases s with
  | literal text => exact absurd h hchars
  | param name' =>
    rw [Segment.routerPieces, piecesOfGroup, ofGroup_param hrouted] at h
    split_ifs at h
    · obtain ⟨rfl, -⟩ := Piece.param.inj (List.mem_singleton.mp h)
      exact .inl rfl
    · exact absurd h hchars
  | wildcard name' =>
    rw [Segment.routerPieces, piecesOfGroup, ofGroup_wildcard hrouted] at h
    split_ifs at h
    · obtain ⟨-, rfl⟩ := Piece.param.inj (List.mem_singleton.mp h)
      exact .inr rfl
    · exact absurd h hchars
  | finish => cases h

end Router

/-! ### Slashes of a path -/

namespace Path

theorem length_le_count_slashed (parts : List (List Char)) :
    parts.length ≤ (slashed parts).count '/' := by
  induction parts with
  | nil => exact Nat.le_refl 0
  | cons part parts ih =>
    rw [slashed, List.flatMap_cons, List.cons_append, List.count_cons_self, List.count_append,
      List.length_cons]
    rw [slashed] at ih
    omega

theorem count_slashed {parts : List (List Char)} (h : ∀ part ∈ parts, '/' ∉ part) :
    (slashed parts).count '/' = parts.length := by
  induction parts with
  | nil => rfl
  | cons part parts ih =>
    obtain ⟨hpart, hparts⟩ := List.forall_mem_cons.mp h
    have ih := ih hparts
    rw [slashed] at ih
    rw [slashed, List.flatMap_cons, List.cons_append, List.count_cons_self, List.count_append,
      List.count_eq_zero_of_not_mem hpart, ih, List.length_cons, Nat.zero_add]

end Path

/-! ### Router paths of labels -/

namespace Label.Normal

open Router

variable {label : Label} (h : label.Normal)

include h

/-- The pieces of a router path with texts are the router's segments with them. -/
theorem flatMap_fill_pieces (texts : String → String) {isGroup : List Char → Bool}
    (htakes : ∀ s ∈ label.routerSegments, Takes isGroup s) :
    (pieces isGroup label.routerPath.toList).flatMap (Piece.fill texts) =
      Path.slashed (label.routerSegments.map (Segment.fill texts)) := by
  rw [h.pieces_routerPath, List.flatMap_assoc, Path.slashed, List.flatMap_map]
  refine List.flatMap_congr fun s hs => ?_
  rw [List.flatMap_cons, flatMap_fill_routerPieces texts (h.isRouted_of_mem_routerSegments s hs)
    (htakes s hs)]
  rfl

/-- **A router path with texts** is the router's segments with them, each after a slash. -/
theorem toList_fill (texts : String → String) :
    (fill texts label.routerPath).toList =
      Path.slashed (label.routerSegments.map (Segment.fill texts)) := by
  rw [fill, String.toList_ofList]
  refine h.flatMap_fill_pieces texts fun s _ => ?_
  cases s <;> trivial

section

variable (hascii : ∀ p ∈ label.params, isAsciiName p.toList = true)

include hascii

/-- The router takes ASCII names of a path for parameters. -/
theorem takes_of_mem_routerSegments : ∀ s ∈ label.routerSegments, Takes isPlaceholder s := by
  intro s hs
  refine takes_isPlaceholder (h.isRouted_of_mem_routerSegments s hs) fun name hname => ?_
  rcases List.mem_append.mp hs with hs | hs
  · exact hascii name (List.mem_filterMap.mpr ⟨s, hs, hname⟩)
  · split_ifs at hs
    · obtain rfl := List.mem_singleton.mp hs
      obtain rfl := Option.some.inj hname
      decide
    · cases hs

/-- The router path with texts for its parameters is served, if they are not empty and have no
slash. -/
theorem serves_fill {texts : String → String}
    (htexts : ∀ p ∈ label.params, (texts p).toList ≠ [] ∧ '/' ∉ (texts p).toList) :
    Serves label.routerPath (fill texts label.routerPath) := by
  refine ⟨texts, fun name convertor hmem hconvertor => ?_, ?_⟩
  · rw [h.pieces_routerPath, List.mem_flatMap] at hmem
    obtain ⟨s, hs, hmem⟩ := hmem
    rcases List.mem_cons.mp hmem with heq | hmem
    · cases heq
    rcases eq_param_of_mem_routerPieces (h.isRouted_of_mem_routerSegments s hs) hmem with
      rfl | hpath
    · refine htexts name (List.mem_filterMap.mpr ⟨.param name, ?_, rfl⟩)
      rcases List.mem_append.mp hs with hs | hs
      · exact hs
      · split_ifs at hs
        · cases List.mem_singleton.mp hs
        · cases hs
    · exact absurd hpath hconvertor
  · rw [h.toList_fill, h.flatMap_fill_pieces texts (h.takes_of_mem_routerSegments hascii)]

/-- **A path of fewer parts than the router's segments** is not served. -/
theorem not_serves_of_slashed {parts : List (List Char)} (hparts : ∀ part ∈ parts, '/' ∉ part)
    (hlength : parts.length < label.routerSegments.length) {served : String}
    (hserved : served.toList = Path.slashed parts) : ¬Serves label.routerPath served := by
  rintro ⟨texts, -, heq⟩
  rw [h.flatMap_fill_pieces texts (h.takes_of_mem_routerSegments hascii), hserved] at heq
  have hcount := congrArg (List.count '/') heq
  rw [Path.count_slashed hparts] at hcount
  have hle := Path.length_le_count_slashed (label.routerSegments.map (Segment.fill texts))
  rw [List.length_map] at hle
  omega

end

end Label.Normal

end FragmentRoutes.Route
