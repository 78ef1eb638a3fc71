import FragmentRoutes.Proofs.Route.PathReading
import FragmentRoutes.Proofs.Route.RouterPath

/-!
# Reading a router path

To the router a path is a template: literal characters and parameters, which stand in braces and
may have a convertor behind a colon (`Router.pieces`).  The router takes what is between braces for
a parameter only if name and convertor are ASCII identifiers (`Router.isPlaceholder`), and for
literal text otherwise.

No text of a segment but that of a parameter has a brace, so the pieces of a router path are those
of its segments (`Normal.pieces_routerPath`).  The names that the router finds are therefore the
parameters of the path with ASCII names, and the name that a subtree gets
(`routerParams_eq_params_iff`).
-/

namespace FragmentRoutes.Route

namespace Router

/-! ### Templates -/

/-- A piece of a template; the convertor of a parameter is empty where there is none. -/
inductive Piece where
  | char (c : Char)
  | param (name convertor : String)
  deriving DecidableEq, Repr

/-- The parameter that is written between braces. -/
def Piece.ofGroup (group : List Char) : Piece :=
  .param (String.ofList (group.takeWhile (· != ':')))
    (String.ofList (group.dropWhile (· != ':')).tail)

/-- The name of the parameter that a piece is. -/
def Piece.name? : Piece → Option String
  | .char _ => none
  | .param name _ => some name

/-- The pieces of a template.  Text between braces is a parameter if it passes the test, and else it
is literal, as are the braces. -/
def pieces (isGroup : List Char → Bool) : List Char → List Piece
  | [] => []
  | c :: cs =>
    if c = '\x7b' ∧ '\x7d' ∈ cs ∧ isGroup (cs.takeWhile (· != '\x7d')) = true then
      .ofGroup (cs.takeWhile (· != '\x7d')) :: pieces isGroup (cs.dropWhile (· != '\x7d')).tail
    else .char c :: pieces isGroup cs
termination_by cs => cs.length
decreasing_by
  · have hdrop := (List.dropWhile_sublist (l := cs) (· != '\x7d')).length_le
    rw [List.length_tail, List.length_cons]
    omega
  · exact Nat.lt_succ_self _

/-- The text is an identifier in ASCII. -/
def isAsciiName : List Char → Bool
  | [] => false
  | c :: cs =>
    (Text.isAsciiLetter c || c == '_') &&
      cs.all fun d => Text.isAsciiLetter d || d == '_' || Text.isAsciiDigit d

/-- What the router takes for a parameter if it is between braces: a name, and perhaps a convertor
behind a colon. -/
def isPlaceholder (group : List Char) : Bool :=
  isAsciiName (group.takeWhile (· != ':')) &&
    ((group.dropWhile (· != ':')).isEmpty || isAsciiName (group.dropWhile (· != ':')).tail)

/-- The names of the parameters that the router finds in a path, from left to right. -/
def params (path : String) : List String :=
  (pieces isPlaceholder path.toList).filterMap Piece.name?

section

variable (isGroup : List Char → Bool)

/-- Text without an opening brace is literal. -/
theorem pieces_append_of_notMem {text : List Char} (h : '\x7b' ∉ text) (rest : List Char) :
    pieces isGroup (text ++ rest) = text.map .char ++ pieces isGroup rest := by
  induction text with
  | nil => rfl
  | cons c text ih =>
    obtain ⟨hc, htext⟩ := List.ne_and_not_mem_of_not_mem_cons h
    rw [List.cons_append, pieces, if_neg fun hgroup => hc hgroup.1.symm, ih htext]
    rfl

/-- The piece that is written between braces, or its characters and the braces. -/
def piecesOfGroup (group : List Char) : List Piece :=
  if isGroup group = true then [.ofGroup group] else ('\x7b' :: (group ++ ['\x7d'])).map .char

/-- Text between braces is a piece of its own, or literal. -/
theorem pieces_group_append {group : List Char} (hopen : '\x7b' ∉ group) (hclose : '\x7d' ∉ group)
    (rest : List Char) :
    pieces isGroup ('\x7b' :: (group ++ '\x7d' :: rest)) =
      piecesOfGroup isGroup group ++ pieces isGroup rest := by
  have hall : ∀ c ∈ group, (c != '\x7d') = true := by
    intro c hc
    rw [bne_iff_ne]
    rintro rfl
    exact hclose hc
  have htake : (group ++ '\x7d' :: rest).takeWhile (· != '\x7d') = group := by
    rw [List.takeWhile_append_of_pos hall]
    simp
  have hdrop : (group ++ '\x7d' :: rest).dropWhile (· != '\x7d') = '\x7d' :: rest := by
    rw [List.dropWhile_append_of_pos hall]
    simp
  rw [pieces, htake, hdrop, piecesOfGroup]
  by_cases hgroup : isGroup group = true
  · rw [if_pos ⟨rfl, by simp, hgroup⟩, if_pos hgroup]
    rfl
  · -- the braces and what is between them stand for themselves
    have htext : '\x7b' ∉ group ++ ['\x7d'] := by simpa using hopen
    have happend := pieces_append_of_notMem isGroup htext rest
    rw [List.append_assoc, List.singleton_append] at happend
    rw [if_neg fun h => hgroup h.2.2, if_neg hgroup, happend]
    rfl

end

end Router

/-! ### Pieces of segments -/

/-- The pieces of a segment of a router path. -/
def Segment.routerPieces (isGroup : List Char → Bool) : Segment → List Router.Piece
  | .literal text => text.toList.map .char
  | .param name => Router.piecesOfGroup isGroup name.toList
  | .wildcard name => Router.piecesOfGroup isGroup (name.toList ++ ":path".toList)
  | .finish => []

namespace Router

variable (isGroup : List Char → Bool)

/-- Text of identifiers holds no brace. -/
theorem brace_notMem {cs : List Char} (h : ∀ c ∈ cs, Text.continuesIdentifier c = true) :
    '\x7b' ∉ cs ∧ '\x7d' ∉ cs :=
  ⟨fun hmem => absurd (h _ hmem) (by decide), fun hmem => absurd (h _ hmem) (by decide)⟩

theorem pieces_routerText_append {s : Segment} (h : s.IsRouted) (rest : List Char) :
    pieces isGroup (s.routerText ++ rest) = s.routerPieces isGroup ++ pieces isGroup rest := by
  cases s with
  | literal text =>
    exact pieces_append_of_notMem isGroup (fun hmem => (h.2 _ hmem).2.1 rfl) rest
  | param name =>
    obtain ⟨hopen, hclose⟩ := brace_notMem h
    have happend := pieces_group_append isGroup hopen hclose rest
    rw [Segment.routerText, Segment.routerPieces, ← happend]
    simp
  | wildcard name =>
    obtain ⟨hopen, hclose⟩ := brace_notMem h
    have hopen' : '\x7b' ∉ name.toList ++ ":path".toList := by simpa using hopen
    have happend := pieces_group_append isGroup hopen' (by simpa using hclose) rest
    rw [Segment.routerText, Segment.routerPieces, ← happend]
    simp
  | finish => rfl

/-- **The pieces of a text of segments** are those of the segments, each after a slash. -/
theorem pieces_slashed {segments : List Segment} (h : ∀ s ∈ segments, s.IsRouted) :
    pieces isGroup (Path.slashed (segments.map Segment.routerText)) =
      segments.flatMap fun s => .char '/' :: s.routerPieces isGroup := by
  induction segments with
  | nil => exact pieces.eq_1 isGroup
  | cons s segments ih =>
    obtain ⟨hs, hsegments⟩ := List.forall_mem_cons.mp h
    have hslash : '\x7b' ∉ ['/'] := by decide
    have hfirst := pieces_append_of_notMem isGroup hslash
      (s.routerText ++ Path.slashed (segments.map Segment.routerText))
    rw [pieces_routerText_append isGroup hs, ih hsegments] at hfirst
    rw [List.flatMap_cons, List.map_cons, Path.slashed, List.flatMap_cons]
    exact hfirst

/-! ### Names of parameters -/

section

variable {name : String} (h : ∀ c ∈ name.toList, Text.continuesIdentifier c = true)

include h

/-- A name goes up to the colon before a convertor, or up to the end. -/
theorem takeWhile_name (rest : List Char) (hrest : ∀ c ∈ rest.head?, c = ':') :
    (name.toList ++ rest).takeWhile (· != ':') = name.toList ∧
      (name.toList ++ rest).dropWhile (· != ':') = rest := by
  have hall : ∀ c ∈ name.toList, (c != ':') = true := by
    intro c hc
    rw [bne_iff_ne]
    rintro rfl
    exact absurd (h ':' hc) (by decide)
  rw [List.takeWhile_append_of_pos hall, List.dropWhile_append_of_pos hall]
  cases rest with
  | nil => simp
  | cons c rest =>
    obtain rfl := hrest c rfl
    simp

/-- What stands between the braces of a parameter is its name. -/
theorem ofGroup_param : Piece.ofGroup name.toList = .param name "" := by
  obtain ⟨htake, hdrop⟩ := takeWhile_name h [] (by simp)
  rw [List.append_nil] at htake hdrop
  rw [Piece.ofGroup, htake, hdrop, String.ofList_toList]
  rfl

/-- What stands between the braces of a wildcard is its name and the convertor of paths. -/
theorem ofGroup_wildcard :
    Piece.ofGroup (name.toList ++ ":path".toList) = .param name "path" := by
  obtain ⟨htake, hdrop⟩ := takeWhile_name h ":path".toList (by simp)
  rw [Piece.ofGroup, htake, hdrop, String.ofList_toList]
  rfl

theorem isPlaceholder_param : isPlaceholder name.toList = isAsciiName name.toList := by
  obtain ⟨htake, hdrop⟩ := takeWhile_name h [] (by simp)
  rw [List.append_nil] at htake hdrop
  rw [isPlaceholder, htake, hdrop, List.isEmpty_nil, Bool.true_or, Bool.and_true]

theorem isPlaceholder_wildcard :
    isPlaceholder (name.toList ++ ":path".toList) = isAsciiName name.toList := by
  obtain ⟨htake, hdrop⟩ := takeWhile_name h ":path".toList (by simp)
  have hpath : isAsciiName ":path".toList.tail = true := by decide
  rw [isPlaceholder, htake, hdrop, hpath, Bool.or_true, Bool.and_true]

end

theorem filterMap_name?_map_char (cs : List Char) :
    (cs.map Piece.char).filterMap Piece.name? = [] := by
  rw [List.filterMap_map]
  exact List.filterMap_eq_nil_iff.mpr fun _ _ => rfl

/-- The router finds the name of a segment if the name is ASCII. -/
theorem names_routerPieces {s : Segment} (h : s.IsRouted) :
    (s.routerPieces isPlaceholder).filterMap Piece.name? =
      s.bound?.toList.filter fun p => isAsciiName p.toList := by
  cases s with
  | literal text => exact filterMap_name?_map_char text.toList
  | param name =>
    rw [Segment.routerPieces, piecesOfGroup, isPlaceholder_param h, ofGroup_param h]
    cases hname : isAsciiName name.toList with
    | true => simp [Piece.name?, Segment.bound?, hname]
    | false =>
      rw [if_neg Bool.false_ne_true, filterMap_name?_map_char]
      simp [Segment.bound?, hname]
  | wildcard name =>
    rw [Segment.routerPieces, piecesOfGroup, isPlaceholder_wildcard h, ofGroup_wildcard h]
    cases hname : isAsciiName name.toList with
    | true => simp [Piece.name?, Segment.bound?, hname]
    | false =>
      rw [if_neg Bool.false_ne_true, filterMap_name?_map_char]
      simp [Segment.bound?, hname]
  | finish => rfl

end Router

namespace Label

/-- **The pieces of a router path** are those of the router's segments, each after a slash. -/
theorem Normal.pieces_routerPath {label : Label} (h : label.Normal) (isGroup : List Char → Bool) :
    Router.pieces isGroup label.routerPath.toList =
      label.routerSegments.flatMap fun s => .char '/' :: s.routerPieces isGroup := by
  rw [h.toList_routerPath]
  exact Router.pieces_slashed isGroup h.isRouted_of_mem_routerSegments

/-- The name that the router gives to what is below a subtree. -/
def subtreeParams (label : Label) : List String :=
  if label.subtree then ["_subtree"] else []

/-- **The router finds the parameters with ASCII names**, and the rest below a subtree. -/
theorem Normal.routerParams_eq {label : Label} (h : label.Normal) :
    Router.params label.routerPath =
      (label.params.filter fun p => Router.isAsciiName p.toList) ++ label.subtreeParams := by
  have hnames : ∀ {segments : List Segment}, (∀ s ∈ segments, s.IsRouted) →
      (segments.flatMap fun s => .char '/' :: s.routerPieces Router.isPlaceholder).filterMap
          Router.Piece.name? =
        (Path.params segments).filter fun p => Router.isAsciiName p.toList := by
    intro segments hsegments
    induction segments with
    | nil => rfl
    | cons s segments ih =>
      obtain ⟨hs, hsegments⟩ := List.forall_mem_cons.mp hsegments
      have hparams : Path.params (s :: segments) = s.bound?.toList ++ Path.params segments := by
        cases hbound : s.bound? <;> simp [Path.params, hbound]
      rw [List.flatMap_cons, List.filterMap_append, ih hsegments, hparams, List.filter_append,
        ← Router.names_routerPieces hs]
      rfl
  have hparams : Path.params label.routerSegments = label.params ++ label.subtreeParams := by
    rw [routerSegments, Path.params, List.filterMap_append, params, Path.params, subtreeParams]
    cases label.subtree <;> rfl
  rw [Router.params, h.pieces_routerPath, hnames h.isRouted_of_mem_routerSegments, hparams,
    List.filter_append, subtreeParams]
  cases label.subtree <;> rfl

/-- **The router sees the parameters of a path** exactly if all of them have ASCII names.  For every
label the router finds, from left to right, the parameters with ASCII names and then the rest below
a subtree; so a request has a value for a parameter exactly if its name is an ASCII identifier. -/
theorem routerParams_eq_params_iff {text : String} {label : Label}
    (h : Label.parse text = .ok (some label)) :
    Router.params label.routerPath =
        (label.params.filter fun p => Router.isAsciiName p.toList) ++ label.subtreeParams ∧
      (Router.params label.routerPath = label.params ++ label.subtreeParams ↔
        ∀ p ∈ label.params, Router.isAsciiName p.toList = true) ∧
      ∀ p ∈ label.params,
        (p ∈ Router.params label.routerPath ↔ Router.isAsciiName p.toList = true) := by
  have hnormal := normal_of_parse h
  have heq := hnormal.routerParams_eq
  refine ⟨heq, ?_, fun p hp => ?_⟩
  · rw [heq, List.append_left_inj, List.filter_eq_self]
  · have hsubtree : p ∉ label.subtreeParams := by
      intro hmem
      rw [subtreeParams] at hmem
      split_ifs at hmem
      · obtain rfl := List.mem_singleton.mp hmem
        have hname := Path.isParamName_of_mem_params hnormal.path_normal.plain hp
        exact hname.not_underscore (by decide)
      · cases hmem
    rw [heq, List.mem_append, or_iff_left hsubtree, List.mem_filter, and_iff_right hp]

/-- A subtree below two parameters. -/
theorem routerParams_eq_params_iff_subtree :
    ∃ label, Label.parse "GET /a:b/\x7bid\x7d/\x7bpage2\x7d/" = .ok (some label) ∧
      Router.params label.routerPath = ["id", "page2", "_subtree"] := by
  have h : Label.parse "GET /a:b/\x7bid\x7d/\x7bpage2\x7d/" = .ok (some
      ⟨"GET /a:b/\x7bid\x7d/\x7bpage2\x7d/", some .get, "", "/a:b/\x7bid\x7d/\x7bpage2\x7d/",
        [.literal "a:b", .param "id", .param "page2"], 200, false, ""⟩) := by rfl
  exact ⟨_, h, (routerParams_eq_params_iff h).2.1.mpr (by decide)⟩

/-- A path parameter with a letter beyond ASCII. -/
def accentedLabel : Label :=
  ⟨"GET /\x7bé\x7d", some .get, "", "/\x7bé\x7d", [.param "é"], 200, false, ""⟩

/-- **A parameter that the router does not see**: its name is an identifier, but not in ASCII. -/
theorem routerParams_ne_params_of_accent :
    Label.parse "GET /\x7bé\x7d" = .ok (some accentedLabel) ∧
      accentedLabel.params = ["é"] ∧ Router.params accentedLabel.routerPath = [] := by
  have h : Label.parse "GET /\x7bé\x7d" = .ok (some accentedLabel) := by rfl
  refine ⟨h, rfl, ?_⟩
  rw [(normal_of_parse h).routerParams_eq]
  decide

end Label

end FragmentRoutes.Route
