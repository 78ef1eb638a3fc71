import FragmentRoutes.Proofs.Definition
import FragmentRoutes.Proofs.Route.RouterFilling
import FragmentRoutes.Proofs.RoutesModule.UrlMethod
import FragmentRoutes.Proofs.Text.Numbered

/-!
# Paths that URL builders spell

With texts for the path parameters the method of an endpoint returns a path (`builtPath?`).  Segment
by segment the parts of the builder are what the router path has there
(`ensures_addSegments_spells`); an end mark adds the slash at the end.

The path of a subtree has a slash at the end as well, but the method does not write it.  So what the
method spells is the router path with the texts exactly if the path is no subtree below segments,
and only then the router serves it (`builtPath_eq_fill_iff`).
-/

namespace FragmentRoutes.RoutesModule

open Code Host

/-! ### The path that a method returns -/

section

variable (texts : String → String)

/-- The text of an encoded value. -/
def encodedText? : Expr → Option String
  | .name id => some (texts id)
  | .conditional (.name id) (.constant (.text "true")) (.constant (.text "false")) =>
    some (texts id)
  | .template [.value (.name id) none none] => some (texts id)
  | _ => none

/-- The text of a part of a path. -/
def partText? : Expr → Option String
  | .constant (.text text) => some text
  | .call (.name "_segment") (value :: _) [] => encodedText? texts value
  | _ => none

/-- The text of parts that are joined below an empty prefix. -/
def joinedText? : Expr → Option String
  | .call (.name "_join") (.attribute (.name "self") "paths_prefix" :: parts) [] =>
    (parts.mapM (partText? texts)).map fun written => "/" ++ "/".intercalate written
  | _ => none

/-- The text of a path, with what is appended to it. -/
def pathText? : Expr → Option String
  | .binary path .add (.constant (.text text)) => (joinedText? texts path).map (· ++ text)
  | path => joinedText? texts path

/-- The path in a result, which may have an error beside it. -/
def resultText? : Expr → Option String
  | .tuple [path, .constant .none] => pathText? texts path
  | path => pathText? texts path

/-- The texts of names after a statement; no value fails to write itself. -/
def textsAfterStmt : Stmt → String → String
  | .assign (.tuple (.name target :: _)) (.call (.name "_encode_text") (.name p :: _) []) =>
    Function.update texts target (texts p)
  | _ => texts

end

/-- The texts of names after statements. -/
def textsAfter (texts : String → String) (body : List Stmt) : String → String :=
  body.foldl textsAfterStmt texts

/-- **The path that a method returns**, from texts for its parameters and the empty prefix. -/
def builtPath? (texts : String → String) : Stmt → Option String
  | .function _ _ _ _ body =>
    match body.getLast? with
    | some (.ret value) => resultText? (textsAfter texts body.dropLast) value
    | _ => none
  | _ => none

/-! ### What a builder spells -/

/-- The texts agree but for the values of the segments from `index` on. -/
def AgreeBefore (index : Nat) (texts texts' : String → String) : Prop :=
  ∀ name, (∀ k, index ≤ k → name ≠ "_segment" ++ toString k) → texts' name = texts name

/-- The builder **spells** texts: its parts and then its literal parts are these, whatever the
values of later segments will be, and its statements leave the texts of the parameters. -/
structure Builder.Spells (texts : String → String) (b : Builder) (index : Nat)
    (written : List (List Char)) : Prop where
  keeps : ∀ p : String, p.toList.head? ≠ some '_' → textsAfter texts b.body p = texts p
  spelled : ∃ parts, b.parts = .attribute (.name "self") "paths_prefix" :: parts ∧
    ∀ texts', AgreeBefore index (textsAfter texts b.body) texts' →
      ∃ us, parts.mapM (partText? texts') = some us ∧
        Route.Path.slashed (us.map String.toList) ++
          Route.Path.slashed (b.literals.map String.toList) = Route.Path.slashed written

section

variable {texts texts' : String → String} {b : Builder} {index : Nat} {written : List (List Char)}

/-- The values of segments have names with an underscore at the start. -/
theorem ne_segment {p : String} (hp : p.toList.head? ≠ some '_') (k : Nat) :
    p ≠ "_segment" ++ toString k := by
  rintro rfl
  exact hp (by rw [String.toList_append]; rfl)

theorem AgreeBefore.of_succ (h : AgreeBefore (index + 1) texts texts') :
    AgreeBefore index texts texts' :=
  fun name hname => h name fun k hk => hname k (Nat.le_of_succ_le hk)

/-- Texts of names without an underscore at the start agree. -/
theorem AgreeBefore.eq_of_head? (h : AgreeBefore index texts texts') {p : String}
    (hp : p.toList.head? ≠ some '_') : texts' p = texts p :=
  h p fun k _ => ne_segment hp k

theorem mapM_append_singleton {parts : List Expr} {part : Expr} {us : List String} {u : String}
    (h : parts.mapM (partText? texts) = some us) (hu : partText? texts part = some u) :
    (parts ++ [part]).mapM (partText? texts) = some (us ++ [u]) := by
  simp [List.mapM_append, h, hu]

theorem textsAfter_append (body body' : List Stmt) :
    textsAfter texts (body ++ body') = textsAfter (textsAfter texts body) body' :=
  List.foldl_append

/-- An encoded value has the text of the parameter. -/
theorem textsAfter_encodeBody (label : Route.Label) (p : String) (target : String) :
    textsAfter texts (encodeBody label p index target) =
      Function.update texts target (texts p) :=
  rfl

namespace Builder.Spells

/-- Nothing is spelled at the start. -/
theorem start (texts : String → String) (index : Nat) :
    Builder.Spells texts
      ⟨[Param.plain "self"], [], [.attribute (.name "self") "paths_prefix"], [], false⟩ index [] :=
  ⟨fun _ _ => rfl, [], rfl, fun _ _ => ⟨[], rfl, rfl⟩⟩

theorem succ (h : b.Spells texts index written) : b.Spells texts (index + 1) written where
  keeps := h.keeps
  spelled := by
    obtain ⟨parts, hparts, hspelled⟩ := h.spelled
    exact ⟨parts, hparts, fun texts' hagree => hspelled texts' hagree.of_succ⟩

/-- Putting literal parts together spells the same. -/
theorem flush (h : b.Spells texts index written) :
    b.flush.Spells texts index written ∧ b.flush.literals = [] := by
  rw [Builder.flush]
  split_ifs with hnil
  · exact ⟨h, List.isEmpty_iff.mp hnil⟩
  · have hne : b.literals.map String.toList ≠ [] := by simpa using hnil
    obtain ⟨parts, hparts, hspelled⟩ := h.spelled
    refine ⟨⟨h.keeps, parts ++ [Expr.text ("/".intercalate b.literals)], ?_, ?_⟩, rfl⟩
    · rw [hparts]
      rfl
    · intro texts' hagree
      obtain ⟨us, hus, hslashed⟩ := hspelled texts' hagree
      refine ⟨us ++ ["/".intercalate b.literals], mapM_append_singleton hus rfl, ?_⟩
      rw [← hslashed, Route.Path.slashed_eq_intercalate hne, List.map_append,
        Route.Path.slashed_append]
      simp [Route.Path.slashed, String.toList_intercalate]

theorem literal (h : b.Spells texts index written) (text : String) :
    Builder.Spells texts { b with literals := b.literals ++ [text] } (index + 1)
      (written ++ [text.toList]) where
  keeps := h.keeps
  spelled := by
    obtain ⟨parts, hparts, hspelled⟩ := h.spelled
    refine ⟨parts, hparts, fun texts' hagree => ?_⟩
    obtain ⟨us, hus, hslashed⟩ := hspelled texts' hagree.of_succ
    refine ⟨us, hus, ?_⟩
    rw [List.map_append, Route.Path.slashed_append, ← List.append_assoc, hslashed,
      Route.Path.slashed_append]
    rfl

/-- Without literal parts the parts are all that is spelled. -/
theorem spelled_parts (h : b.Spells texts index written) (hliterals : b.literals = []) :
    ∃ parts, b.parts = .attribute (.name "self") "paths_prefix" :: parts ∧
      ∀ texts', AgreeBefore index (textsAfter texts b.body) texts' →
        ∃ us, parts.mapM (partText? texts') = some us ∧
          Route.Path.slashed (us.map String.toList) = Route.Path.slashed written := by
  have hnil : Route.Path.slashed ([].map String.toList) = [] := rfl
  have hspelled := h.spelled
  simpa only [hliterals, hnil, List.append_nil] using hspelled

/-- One more part of a builder without literal parts is one more text. -/
theorem push (h : b.Spells texts index written) (hliterals : b.literals = []) {b' : Builder}
    {part : Expr} {u : String} (hparts' : b'.parts = b.parts ++ [part])
    (hliterals' : b'.literals = [])
    (hkeeps : ∀ p : String, p.toList.head? ≠ some '_' → textsAfter texts b'.body p = texts p)
    (hpart : ∀ texts', AgreeBefore (index + 1) (textsAfter texts b'.body) texts' →
      AgreeBefore index (textsAfter texts b.body) texts' ∧ partText? texts' part = some u) :
    b'.Spells texts (index + 1) (written ++ [u.toList]) where
  keeps := hkeeps
  spelled := by
    obtain ⟨parts, hparts, hspelled⟩ := h.spelled_parts hliterals
    refine ⟨parts ++ [part], by rw [hparts', hparts, List.cons_append], fun texts' hagree => ?_⟩
    obtain ⟨hbefore, hu⟩ := hpart texts' hagree
    obtain ⟨us, hus, hslashed⟩ := hspelled texts' hbefore
    refine ⟨us ++ [u], mapM_append_singleton hus hu, ?_⟩
    rw [hliterals', List.map_append, Route.Path.slashed_append, hslashed,
      Route.Path.slashed_append]
    exact List.append_nil _

end Builder.Spells

/-! ### Steps of a builder -/

variable {host : Host} {e : Endpoint}

/-- The expression for the value of a basic type has the text of the parameter. -/
theorem ensures_encoded_text (s : Imports) (p : String) (type : HostType) :
    Ensures (encoded p type) s (fun _ => True) fun value _ =>
      ∀ texts, encodedText? texts value = some (texts p) := by
  rw [encoded]
  split_ifs
  · exact ensures_pure fun _ => rfl
  · exact ensures_pure fun _ => rfl
  · exact ensures_pure fun _ => rfl
  · exact ensures_throw trivial

/-- A path parameter is spelled as its text. -/
theorem ensures_addParam_spells (s : Imports) (h : b.Spells texts index written) {p : String}
    (hp : p.toList.head? ≠ some '_') (isWildcard : Bool) :
    Ensures (b.addParam host e p index isWildcard) s (fun _ => True) fun b' _ =>
      b'.Spells texts (index + 1) (written ++ [(texts p).toList]) := by
  obtain ⟨hflush, hliterals⟩ := h.flush
  rw [Builder.addParam]
  refine .bind ((ensures_lift (Imports.makes_typeExpr _ s)).mono fun shown s' _ _ => ?_)
  by_cases hencodable : host.isEncodable (e.pathType p).unwrap = true
  · rw [if_pos hencodable]
    -- the value is encoded first, under a name that no part has
    have hafter : textsAfter texts (b.flush.body ++
        encodeBody e.definition.label p index ("_segment" ++ toString index)) =
          Function.update (textsAfter texts b.flush.body) ("_segment" ++ toString index)
            (texts p) := by
      rw [textsAfter_append, textsAfter_encodeBody, hflush.keeps p hp]
    refine ensures_pure (hflush.push hliterals rfl hliterals ?_ ?_)
    · intro q hq
      show textsAfter texts (b.flush.body ++ _) q = _
      rw [hafter, Function.update_of_ne (ne_segment hq index), hflush.keeps q hq]
    · intro texts' hagree
      have hagree : AgreeBefore (index + 1) (Function.update (textsAfter texts b.flush.body)
          ("_segment" ++ toString index) (texts p)) texts' := hafter ▸ hagree
      constructor
      · intro name hname
        rw [hagree.of_succ name hname, Function.update_of_ne (hname index (Nat.le_refl index))]
      · have htarget : texts' ("_segment" ++ toString index) = texts p := by
          rw [hagree _ fun k hk heq => ?_, Function.update_self]
          have hindex := Text.append_toString_injective "_segment" heq
          omega
        exact congrArg some htarget
  · rw [if_neg hencodable]
    refine .bind ((ensures_encoded_text s' p _).mono fun value s'' _ hvalue => ?_)
    refine ensures_pure (hflush.push hliterals rfl hliterals hflush.keeps fun texts' hagree => ?_)
    refine ⟨hagree.of_succ, ?_⟩
    have hkept : texts' p = texts p := (hagree.eq_of_head? hp).trans (hflush.keeps p hp)
    exact (hvalue texts').trans (congrArg some hkept)

/-- **The segments of a path are spelled** as what they are with the texts, but for the end mark. -/
theorem ensures_addSegments_spells {segments : List Route.Segment} (s : Imports)
    (h : b.Spells texts index written)
    (hnames : ∀ p ∈ Route.Path.params segments, p.toList.head? ≠ some '_') :
    Ensures (b.addSegments host e index segments) s (fun _ => True) fun b' _ =>
      b'.Spells texts (index + segments.length)
        (written ++ (segments.filter (· ≠ .finish)).map (Route.Segment.fill texts)) := by
  induction segments generalizing s b index written with
  | nil => exact ensures_pure (by simpa using h)
  | cons segment segments ih =>
    have hrest : ∀ p ∈ Route.Path.params segments, p.toList.head? ≠ some '_' := by
      intro p hp
      obtain ⟨t, ht, hbound⟩ := List.mem_filterMap.mp hp
      exact hnames p (List.mem_filterMap.mpr ⟨t, List.mem_cons_of_mem _ ht, hbound⟩)
    have hindex : index + (segment :: segments).length = index + 1 + segments.length := by
      rw [List.length_cons, Nat.add_assoc, Nat.add_comm 1]
    -- a segment that is spelled comes before what the others are
    have hnext : ∀ {b' : Builder} (s' : Imports), segment ≠ .finish →
        b'.Spells texts (index + 1) (written ++ [segment.fill texts]) →
        Ensures (b'.addSegments host e (index + 1) segments) s' (fun _ => True) fun b'' _ =>
          b''.Spells texts (index + (segment :: segments).length)
            (written ++ ((segment :: segments).filter (· ≠ .finish)).map
              (Route.Segment.fill texts)) := by
      intro b' s' hne h'
      rw [hindex, List.filter_cons_of_pos (by simpa using hne), List.map_cons,
        List.append_cons]
      exact ih s' h' hrest
    cases segment with
    | literal text => exact hnext s Route.Segment.noConfusion (h.literal text)
    | finish =>
      rw [hindex]
      exact ih s h.succ hrest
    | param name =>
      exact .bind ((ensures_addParam_spells s h (hnames name List.mem_cons_self)
        false).mono fun b' s' _ h' => hnext s' Route.Segment.noConfusion h')
    | wildcard name =>
      exact .bind ((ensures_addParam_spells s h (hnames name List.mem_cons_self)
        true).mono fun b' s' _ h' => hnext s' Route.Segment.noConfusion h')

/-! ### The method of an endpoint -/

/-- What a builder without literal parts joins is what it spells, and a slash if that is nothing. -/
theorem Builder.Spells.exists_joined (h : b.Spells texts index written)
    (hliterals : b.literals = []) :
    ∃ joined, joinedText? (textsAfter texts b.body) (.applyName "_join" b.parts) = some joined ∧
      joined.toList = if written = [] then ['/'] else Route.Path.slashed written := by
  obtain ⟨parts, hparts, hspelled⟩ := h.spelled_parts hliterals
  obtain ⟨us, hus, hslashed⟩ := hspelled _ fun _ _ => rfl
  have hempty : us = [] ↔ written = [] := by
    rw [← List.map_eq_nil_iff (f := String.toList), ← Route.Path.slashed_eq_nil_iff, hslashed,
      Route.Path.slashed_eq_nil_iff]
  refine ⟨"/" ++ "/".intercalate us, ?_, ?_⟩
  · rw [hparts]
    exact congrArg (Option.map _) hus
  · rw [Route.Label.toList_slash_intercalate, hslashed]
    exact if_congr hempty rfl rfl

/-- What a method returns after its statements. -/
theorem builtPath?_function (isAsync : Bool) (name : String) (params : List Param) (returns : Expr)
    (body : List Stmt) (value : Expr) :
    builtPath? texts (.function isAsync name params returns (body ++ [Stmt.ret value])) =
      resultText? (textsAfter texts body) value := by
  rw [builtPath?, List.getLast?_concat, List.dropLast_concat]

/-- What is returned is the joined path with the slash that is appended, if one is. -/
theorem resultText?_joined {parts : List Expr} {joined : String}
    (h : joinedText? texts (.applyName "_join" parts) = some joined) (appended fallible : Bool) :
    resultText? texts
        (let call := Expr.applyName "_join" parts
         let path := if appended then .binary call .add (.text "/") else call
         if fallible then .tuple [path, Expr.absent] else path) =
      some (joined ++ if appended then "/" else "") := by
  have happended : (joinedText? texts (.applyName "_join" parts)).map (· ++ "/") =
      some (joined ++ "/") := by
    rw [h]
    rfl
  cases appended with
  | false =>
    rw [if_neg Bool.false_ne_true, String.append_empty, ← h]
    cases fallible <;> rfl
  | true =>
    rw [if_pos rfl, ← happended]
    cases fallible <;> rfl

/-- The segments of a path with texts, of which the root has an empty one. -/
def spelledParts (texts : String → String) (segments : List Route.Segment) : List (List Char) :=
  segments.map (Route.Segment.fill texts) ++ if segments = [] then [[]] else []

/-- **The method spells the segments** with the texts for the parameters. -/
theorem ensures_urlMethod_builtPath (texts : String → String) (s : Imports)
    (hlabel : e.definition.label.Normal) :
    Ensures (urlMethod host e) s (fun _ => True) fun made _ =>
      ∃ built, builtPath? texts made = some built ∧
        built.toList = Route.Path.slashed (spelledParts texts e.definition.label.segments) := by
  rw [urlMethod]
  by_cases hroot : (e.definition.label.path == "/" ||
      e.definition.label.path == "/\x7b$\x7d") = true
  · rw [if_pos hroot]
    refine .bind (ensures_pure (ensures_pure ⟨"/", ?_, ?_⟩))
    · rw [hroot, Bool.not_true, Bool.and_false]
      rfl
    · rcases (isRoot_iff hlabel).mp hroot with hsegments | hsegments
      · rw [hsegments]
        rfl
      · rw [hsegments]
        rfl
  · have hnames : ∀ p ∈ Route.Path.params e.definition.label.segments,
        p.toList.head? ≠ some '_' := fun p hp =>
      (Route.Path.isParamName_of_mem_params hlabel.path_normal.plain hp).not_underscore
    rw [if_neg hroot]
    refine .bind ((ensures_addSegments_spells s (.start texts 1) hnames).mono fun b s' _ hb => ?_)
    obtain ⟨hflush, hliterals⟩ := hb.flush
    obtain ⟨joined, hjoined, htext⟩ := hflush.exists_joined hliterals
    have hsegments := hlabel.filter_ne_finish_append
    have hopen : e.definition.label.segments.filter (· ≠ .finish) ≠ [] := by
      intro hnil
      refine hroot ((isRoot_iff hlabel).mpr ?_)
      rw [hnil, List.nil_append] at hsegments
      rw [← hsegments]
      cases e.definition.label.exact
      · exact .inl rfl
      · exact .inr rfl
    have hne : e.definition.label.segments ≠ [] := fun hnil => hopen (by rw [hnil]; rfl)
    have hresult := resultText?_joined hjoined e.definition.label.exact b.flush.fallible
    refine ensures_pure ⟨joined ++ (if e.definition.label.exact then "/" else ""), ?_, ?_⟩
    · rw [builtPath?_function, Bool.eq_false_iff.mpr hroot, Bool.not_false, Bool.and_true]
      exact hresult
    · rw [String.toList_append, htext, List.nil_append, if_neg (by simpa using hopen),
        spelledParts, if_neg hne, List.append_nil]
      conv_rhs => rw [← hsegments, List.map_append, Route.Path.slashed_append]
      cases e.definition.label.exact <;> rfl

/-! ### Built paths and the router -/

/-- The path ends in a slash after its last segment. -/
def EndsInSlash (label : Route.Label) : Prop :=
  label.subtree = true ∧ label.segments ≠ []

section

variable {label : Route.Label} (h : label.Normal)

include h

/-- A path that does not end in a slash after its last segment is spelled like the router path. -/
theorem toList_fill_of_not_endsInSlash (hsubtree : texts "_subtree" = "")
    (hends : ¬EndsInSlash label) :
    (Route.Router.fill texts label.routerPath).toList =
      Route.Path.slashed (spelledParts texts label.segments) := by
  rw [h.toList_fill, Route.Label.routerSegments, List.map_append, spelledParts]
  by_cases hnil : label.segments = []
  · rw [h.subtree_of_segments_eq_nil hnil, if_pos rfl, if_pos hnil, List.map_singleton,
      Route.Segment.fill, hsubtree]
    rfl
  · rw [if_neg fun hsub => hends ⟨hsub, hnil⟩, if_neg hnil]
    rfl

/-- The slash at the end of a path is not spelled. -/
theorem toList_fill_of_endsInSlash (hsubtree : texts "_subtree" = "") (hends : EndsInSlash label) :
    (Route.Router.fill texts label.routerPath).toList =
      Route.Path.slashed (spelledParts texts label.segments) ++ ['/'] := by
  rw [h.toList_fill, Route.Label.routerSegments, if_pos hends.1, List.map_append, spelledParts,
    if_neg hends.2, List.append_nil, Route.Path.slashed_append, List.map_singleton,
    Route.Segment.fill, hsubtree]
  rfl

/-- A segment with texts without slashes has no slash. -/
theorem slash_notMem_of_mem_spelledParts
    (htexts : ∀ p ∈ label.params, '/' ∉ (texts p).toList) :
    ∀ part ∈ spelledParts texts label.segments, '/' ∉ part := by
  intro part hpart
  rcases List.mem_append.mp hpart with hpart | hpart
  · obtain ⟨segment, hsegment, rfl⟩ := List.mem_map.mp hpart
    cases segment with
    | literal text => exact fun hslash => ((h.path_normal.plain _ hsegment).2 _ hslash).1 rfl
    | param name => exact htexts name (List.mem_filterMap.mpr ⟨_, hsegment, rfl⟩)
    | wildcard name => exact htexts name (List.mem_filterMap.mpr ⟨_, hsegment, rfl⟩)
    | finish => exact List.not_mem_nil
  · split_ifs at hpart
    · rw [List.mem_singleton.mp hpart]
      exact List.not_mem_nil
    · cases hpart

/-- The router does not serve a path without the slash at its end. -/
theorem not_serves_of_endsInSlash (texts : String → String) (hends : EndsInSlash label)
    (hascii : ∀ p ∈ label.params, Route.Router.isAsciiName p.toList = true)
    (htexts : ∀ p ∈ label.params, '/' ∉ (texts p).toList) {built : String}
    (hbuilt : built.toList = Route.Path.slashed (spelledParts texts label.segments)) :
    ¬Route.Router.Serves label.routerPath built := by
  refine h.not_serves_of_slashed hascii (slash_notMem_of_mem_spelledParts h htexts) ?_ hbuilt
  rw [spelledParts, if_neg hends.2, List.append_nil, List.length_map, Route.Label.routerSegments,
    if_pos hends.1, List.length_append]
  exact Nat.lt_succ_self _

end

/-- **A built path is the path of the route**, and the router serves it, unless the path ends in a
slash after its last segment.  If a method is made for a definition, then for all texts for the path
parameters the method returns a path.  It is the router path with these texts, where what is below a
subtree is empty, but for the slash at the end of the path, which is missing.  The router serves it
if the texts are not empty and have no slash, and the names of the parameters are ASCII. -/
theorem builtPath_eq_fill_iff {name source group : String} {s s' : Imports} {made : Stmt}
    (hdefinition : Definition.parse name source group = .ok (some e.definition))
    (hmade : (urlMethod host e).run s = (.ok made, s')) (texts : String → String)
    (hsubtree : texts "_subtree" = "") :
    ∃ built, builtPath? texts made = some built ∧
      (built = Route.Router.fill texts e.definition.label.routerPath ↔
        ¬EndsInSlash e.definition.label) ∧
      (EndsInSlash e.definition.label →
        built ++ "/" = Route.Router.fill texts e.definition.label.routerPath) ∧
      ((∀ p ∈ e.definition.label.params, (texts p).toList ≠ [] ∧ '/' ∉ (texts p).toList) →
        (∀ p ∈ e.definition.label.params, Route.Router.isAsciiName p.toList = true) →
        (Route.Router.Serves e.definition.label.routerPath built ↔
          ¬EndsInSlash e.definition.label)) := by
  have hlabel : e.definition.label.Normal :=
    Route.Label.normal_of_parse (Definition.parse_eq_ok_some hdefinition).1
  obtain ⟨built, hbuilt, hparts⟩ :=
    (ensures_urlMethod_builtPath texts s hlabel).of_run (congrArg Prod.fst hmade)
  have heq : ¬EndsInSlash e.definition.label →
      built = Route.Router.fill texts e.definition.label.routerPath := fun hends =>
    String.ext (hparts.trans (toList_fill_of_not_endsInSlash hlabel hsubtree hends).symm)
  have happend : EndsInSlash e.definition.label →
      built ++ "/" = Route.Router.fill texts e.definition.label.routerPath := by
    intro hends
    apply String.ext
    rw [toList_fill_of_endsInSlash hlabel hsubtree hends, String.toList_append, hparts]
    rfl
  refine ⟨built, hbuilt, ⟨fun hfill hends => ?_, heq⟩, happend, fun htexts hascii =>
    ⟨fun hserves hends => ?_, fun hends => ?_⟩⟩
  · -- the path with a slash is longer
    have hslash := congrArg String.length (hfill.trans (happend hends).symm)
    rw [String.length_append] at hslash
    exact absurd hslash (Nat.ne_of_lt (Nat.lt_succ_self _))
  · have hslash : ∀ p ∈ e.definition.label.params, '/' ∉ (texts p).toList := fun p hp =>
      (htexts p hp).2
    exact not_serves_of_endsInSlash hlabel texts hends hascii hslash hparts hserves
  · rw [heq hends]
    exact hlabel.serves_fill hascii htexts

end

/-! ### A page and a folder -/

/-- An application without classes and functions. -/
def emptyHost : Host :=
  ⟨[], [], none⟩

/-- A route with a number and a text of any depth. -/
def pageEndpoint : Endpoint :=
  ⟨⟨⟨"GET /a/b/\x7bid\x7d/\x7bfile...\x7d", some .get, "",
    "/a/b/\x7bid\x7d/\x7bfile...\x7d",
    [.literal "a", .literal "b", .param "id", .wildcard "file"], 200, false, ""⟩, none, "", ""⟩,
    "ReadAB", 0, none, [("id", HostType.int)], false⟩

/-- Texts for the parameters of the route. -/
def pageTexts (p : String) : String :=
  if p = "id" then "7" else if p = "file" then "notes" else ""

/-- The path of a page. -/
theorem builtPath_eq_fill_iff_page :
    ∃ made s', (urlMethod emptyHost pageEndpoint).run (Imports.start "") = (.ok made, s') ∧
      builtPath? pageTexts made = some "/a/b/7/notes" ∧
      Route.Router.Serves pageEndpoint.definition.label.routerPath "/a/b/7/notes" := by
  have hparse : Definition.parse pageEndpoint.definition.label.name "" "" =
      .ok (some pageEndpoint.definition) := by rfl
  have hlabel := Route.Label.normal_of_parse (Definition.parse_eq_ok_some hparse).1
  have hparams : ∀ p ∈ pageEndpoint.definition.label.params, p = "id" ∨ p = "file" := by
    intro p hp
    simpa [pageEndpoint, Route.Label.params, Route.Path.params, Route.Segment.bound?, eq_comm]
      using hp
  have htypes : ∀ p ∈ pageEndpoint.definition.label.params,
      IsWritable emptyHost (pageEndpoint.pathType p) := by
    intro p hp
    rcases hparams p hp with rfl | rfl
    · exact .inr ⟨"int", by decide, rfl⟩
    · exact .inr ⟨"str", by decide, rfl⟩
  have hclasses : ∀ p ∈ pageEndpoint.definition.label.params,
      ∃ c, pageEndpoint.pathType p = .cls c := by
    intro p hp
    rcases hparams p hp with rfl | rfl
    · exact ⟨_, rfl⟩
    · exact ⟨_, rfl⟩
  have hwritable : ∀ fault, ¬IsUnwritable emptyHost pageEndpoint fault := by
    rintro fault ⟨p, hp, -, hnot⟩
    exact hnot (htypes p hp)
  obtain ⟨made, s', hmade, -⟩ :=
    (ensures_urlMethod (Imports.start "") hlabel hclasses).exists_run hwritable
  have hends : ¬EndsInSlash pageEndpoint.definition.label := fun h => absurd h.1 (by decide)
  have htexts : ∀ p ∈ pageEndpoint.definition.label.params,
      (pageTexts p).toList ≠ [] ∧ '/' ∉ (pageTexts p).toList := by decide
  have hfill : Route.Router.fill pageTexts pageEndpoint.definition.label.routerPath =
      "/a/b/7/notes" :=
    String.ext ((hlabel.toList_fill pageTexts).trans (by decide))
  obtain ⟨built, hbuilt, heq, -, hserves⟩ := builtPath_eq_fill_iff hparse hmade pageTexts rfl
  obtain rfl := (heq.mpr hends).trans hfill
  exact ⟨made, s', hmade, hbuilt, (hserves htexts (by decide)).mpr hends⟩

/-- A folder below one segment. -/
def folderEndpoint : Endpoint :=
  ⟨⟨⟨"GET /x/", some .get, "", "/x/", [.literal "x"], 200, false, ""⟩, none, "", ""⟩, "ReadX", 0,
    none, [], false⟩

/-- **A built path that the router does not serve**: that of a folder has no slash at the end. -/
theorem not_serves_builtPath_of_folder :
    Definition.parse "GET /x/" "" "" = .ok (some folderEndpoint.definition) ∧
      folderEndpoint.definition.label.routerPath = "/x/\x7b_subtree:path\x7d" ∧
      Route.Router.fill (fun _ => "") folderEndpoint.definition.label.routerPath = "/x/" ∧
      ¬Route.Router.Serves folderEndpoint.definition.label.routerPath "/x" ∧
      ∃ made s', (urlMethod emptyHost folderEndpoint).run (Imports.start "") = (.ok made, s') ∧
        builtPath? (fun _ => "") made = some "/x" := by
  have hparse : Definition.parse "GET /x/" "" "" = .ok (some folderEndpoint.definition) := by rfl
  have hlabel := Route.Label.normal_of_parse (Definition.parse_eq_ok_some hparse).1
  have hends : EndsInSlash folderEndpoint.definition.label := ⟨by decide, by decide⟩
  refine ⟨hparse, by decide, String.ext ((hlabel.toList_fill _).trans (by decide)), ?_,
    _, _, rfl, by decide⟩
  exact not_serves_of_endsInSlash hlabel (fun _ => "") hends (by decide) (by decide) (by decide)

end FragmentRoutes.RoutesModule
