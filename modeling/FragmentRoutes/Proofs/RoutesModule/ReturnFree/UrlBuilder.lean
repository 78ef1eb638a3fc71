import FragmentRoutes.Proofs.RoutesModule.ReturnFree.Handler
import FragmentRoutes.RoutesModule.UrlBuilder

/-!
# URL builders without returns

A URL builder is named for its endpoint, and its parameters for those of the path.  The literal
parts of the path are quoted.  So the class of the URL builders is without returns if the names are
(`preserving_urlClass`).
-/

namespace FragmentRoutes.RoutesModule

open Code Host Text

/-- No return stands in what a builder is made of so far. -/
structure Builder.ReturnFree (b : Builder) : Prop where
  params : ∀ p ∈ b.params, p.ReturnFree
  body : Stmt.AllReturnFree b.body
  parts : ∀ e ∈ b.parts, e.ReturnFree
  plain : description? b.body = none

theorem Builder.ReturnFree.flush {b : Builder} (h : b.ReturnFree) : b.flush.ReturnFree := by
  rw [Builder.flush]
  split_ifs
  · exact h
  · exact ⟨h.params, h.body, List.forall_mem_append.mpr ⟨h.parts, by simp⟩, h.plain⟩

theorem returnFree_encodeBody (label : Route.Label) {param target : String} (index : Nat)
    (hparam : Text.ReturnFree param) (htarget : Text.ReturnFree target) :
    Stmt.AllReturnFree (encodeBody label param index target) := by
  have herr : Text.ReturnFree "_err" := returnFree_ofList rfl
  have hencode : Text.ReturnFree "_encode_text" := returnFree_ofList rfl
  simp [encodeBody, hparam, htarget, herr, hencode]

theorem preserving_encoded {param : String} (hparam : Text.ReturnFree param) (t : HostType) :
    Preserving (encoded param t) Expr.ReturnFree := by
  have hvalue : (Expr.name param).ReturnFree := Expr.returnFree_name_iff.mpr hparam
  rw [encoded]
  refine .ite (preserving_pure hvalue) (.ite (preserving_pure ?_) (.ite (preserving_pure ?_)
    (preserving_throw _)))
  · exact Expr.returnFree_conditional_iff.mpr
      ⟨hvalue, Expr.returnFree_text _, Expr.returnFree_text _⟩
  · exact Expr.returnFree_template_value_iff.mpr hvalue

theorem preserving_addParam (host : Host) {e : Endpoint} (he : e.ReturnFree) {b : Builder}
    (hb : b.ReturnFree) {p : String} (hp : Text.ReturnFree p) (index : Nat) (isWildcard : Bool) :
    Preserving (b.addParam host e p index isWildcard) Builder.ReturnFree := by
  have htype : (e.pathType p).ReturnFree := by
    rw [Endpoint.pathType]
    cases hlookup : e.pathTypes.lookup p with
    | none => exact HostType.returnFree_str
    | some t =>
      obtain ⟨front, back, heq, -⟩ := List.lookup_eq_some_iff.mp hlookup
      exact he.pathTypes (p, t) (by simp [heq])
  have hsegment : ∀ {value : Expr}, value.ReturnFree → (Expr.applyName "_segment"
      (value :: if isWildcard then [Expr.text "/"] else [])).ReturnFree := by
    intro value hvalue
    rw [Expr.returnFree_applyName_iff, List.forall_mem_cons]
    refine ⟨returnFree_ofList rfl, hvalue, ?_⟩
    split_ifs
    · exact List.forall_mem_singleton.mpr (Expr.returnFree_text _)
    · exact List.forall_mem_nil _
  have htarget : Text.ReturnFree ("_segment" ++ toString index) :=
    (returnFree_ofList rfl).append (returnFree_toString_nat index)
  have hflush := hb.flush
  rw [Builder.addParam]
  refine (preserving_lift (Imports.preserving_typeExpr htype)).bind fun shown hshown => ?_
  have hparams : ∀ q ∈ b.flush.params ++ [Param.typed p shown], q.ReturnFree :=
    List.forall_mem_append.mpr ⟨hflush.params,
      List.forall_mem_singleton.mpr (Param.returnFree_typed_iff.mpr ⟨hp, hshown⟩)⟩
  refine .ite (preserving_pure ⟨hparams, ?_, ?_, description?_append hflush.plain rfl⟩)
    ((preserving_encoded hp _).bind fun value hvalue =>
      preserving_pure ⟨hparams, hflush.body, ?_, hflush.plain⟩)
  · exact Stmt.allReturnFree_append_iff.mpr
      ⟨hflush.body, returnFree_encodeBody _ index hp htarget⟩
  · exact List.forall_mem_append.mpr ⟨hflush.parts,
      List.forall_mem_singleton.mpr (hsegment (Expr.returnFree_name_iff.mpr htarget))⟩
  · exact List.forall_mem_append.mpr ⟨hflush.parts,
      List.forall_mem_singleton.mpr (hsegment hvalue)⟩

theorem preserving_addSegments (host : Host) {e : Endpoint} (he : e.ReturnFree) {b : Builder}
    (hb : b.ReturnFree) (index : Nat) {segments : List Route.Segment}
    (hsegments : ∀ p ∈ Route.Path.params segments, Text.ReturnFree p) :
    Preserving (b.addSegments host e index segments) Builder.ReturnFree := by
  induction segments generalizing b index with
  | nil => exact preserving_pure hb
  | cons segment segments ih =>
    have hrest : ∀ p ∈ Route.Path.params segments, Text.ReturnFree p := fun p hp =>
      let ⟨s, hs, heq⟩ := List.mem_filterMap.mp hp
      hsegments p (List.mem_filterMap.mpr ⟨s, List.mem_cons_of_mem _ hs, heq⟩)
    have hname : ∀ p, segment.bound? = some p → Text.ReturnFree p := fun p hp =>
      hsegments p (List.mem_filterMap.mpr ⟨segment, List.mem_cons_self, hp⟩)
    cases segment with
    | literal text =>
      exact (preserving_pure ⟨hb.params, hb.body, hb.parts, hb.plain⟩).bind
        fun b' hb' => ih hb' _ hrest
    | finish => exact (preserving_pure hb).bind fun b' hb' => ih hb' _ hrest
    | param name =>
      exact (preserving_addParam host he hb (hname name rfl) index false).bind
        fun b' hb' => ih hb' _ hrest
    | wildcard name =>
      exact (preserving_addParam host he hb (hname name rfl) index true).bind
        fun b' hb' => ih hb' _ hrest

theorem preserving_urlClass (host : Host) {name : String} (hname : Text.ReturnFree name)
    {endpoints : List Endpoint} (hendpoints : ∀ e ∈ endpoints, e.ReturnFree) :
    Preserving (urlClass host name endpoints) Stmt.ReturnFree := by
  have hself : Text.ReturnFree "self" := returnFree_ofList rfl
  have hprefix : Text.ReturnFree "paths_prefix" := returnFree_ofList rfl
  have hstr : Text.ReturnFree "str" := returnFree_ofList rfl
  have hjoin : Text.ReturnFree "_join" := returnFree_ofList rfl
  have hresult : ∀ fallible, (pathResult fallible).ReturnFree := by
    have htuple : Text.ReturnFree "tuple" := returnFree_ofList rfl
    have hexception : Text.ReturnFree "Exception" := returnFree_ofList rfl
    intro fallible
    cases fallible <;> simp [pathResult, htuple, hstr, hexception]
  have hstart : Builder.ReturnFree ⟨[Param.plain "self"], [],
      [.attribute (.name "self") "paths_prefix"], [], false⟩ :=
    ⟨by simp [hself], trivial, by simp [hself, hprefix], rfl⟩
  have hmethod : ∀ {e : Endpoint}, e.ReturnFree →
      Preserving (urlMethod host e) Stmt.ReturnFree := by
    intro e he
    have hmade : ∀ {b : Builder} {result : Expr}, b.ReturnFree → result.ReturnFree →
        (Stmt.function false e.ident b.params (pathResult b.fallible)
          (b.body ++ [.ret result])).ReturnFree := by
      intro b result hb hfree
      refine ⟨he.ident, hb.params, hresult _, ?_, ?_⟩
      · exact Stmt.allReturnFree_append_iff.mpr ⟨hb.body, hfree, trivial⟩
      · rw [description?_append hb.plain rfl]
        rintro text ⟨⟩
    have hpath : ∀ {parts : List Expr} (isExact isFallible : Bool), (∀ e ∈ parts, e.ReturnFree) →
        let joined := Expr.applyName "_join" parts
        let path := if isExact then .binary joined .add (.text "/") else joined
        (if isFallible then .tuple [path, Expr.absent] else path).ReturnFree := by
      intro parts isExact isFallible hparts
      have hjoined := Expr.returnFree_applyName_iff.mpr ⟨hjoin, hparts⟩
      dsimp only
      generalize Expr.applyName "_join" parts = joined at hjoined ⊢
      split_ifs <;> simp [hjoined]
    rw [urlMethod]
    exact .ite
      ((preserving_pure hstart).bind fun b hb =>
        preserving_pure (hmade hb.flush (hpath _ _ hb.flush.parts)))
      ((preserving_addSegments host he hstart 1 he.params).bind fun b hb =>
        preserving_pure (hmade hb.flush (hpath _ _ hb.flush.parts)))
  have hmethods : Preserving (urlMethods host endpoints) Stmt.AllReturnFree := by
    induction endpoints with
    | nil => exact preserving_pure trivial
    | cons e endpoints ih =>
      rw [List.forall_mem_cons] at hendpoints
      exact (hmethod hendpoints.1).bind fun first hfirst => (ih hendpoints.2).bind
        fun rest hrest => preserving_pure ⟨hfirst, hrest⟩
  refine hmethods.bind fun methods hfree => preserving_pure ?_
  refine ⟨hname, List.forall_mem_nil _, ⟨Expr.returnFree_text _, ?_, hfree⟩, ?_⟩
  · have hinit : Text.ReturnFree "__init__" := returnFree_ofList rfl
    simp [hinit, hself, hprefix, hstr, description?, Stmt.setAttribute]
  · rintro text ⟨⟩
    exact returnFree_ofList rfl

end FragmentRoutes.RoutesModule
