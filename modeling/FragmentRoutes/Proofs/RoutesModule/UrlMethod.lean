import FragmentRoutes.Proofs.Resolution.Conversion
import FragmentRoutes.Proofs.Route.RouterPath
import FragmentRoutes.Proofs.RoutesModule.Making
import FragmentRoutes.RoutesModule.UrlBuilder
import Mathlib.Data.List.Forall2

/-!
# URL builders

The method that spells the path of an endpoint takes `self` and the path parameters in their order,
each with the type of the endpoint for it (`ensures_urlMethod`).  There is no method exactly if
values of one of these types cannot be written as texts.
-/

namespace FragmentRoutes.RoutesModule

open Code Host Resolution

/-- The types whose values have one form of text. -/
def basicNames : List String :=
  ["str", "bool", "int", "float"]

/-- A value of the type is written as a text: it writes itself, or has one form of text. -/
def IsWritable (host : Host) (t : HostType) : Prop :=
  host.isEncodable t = true ∨ ∃ name ∈ basicNames, t.isBuiltin name = true

/-- The fault is that values of a path parameter cannot be written as texts. -/
def IsUnwritable (host : Host) (e : Endpoint) (fault : Fault) : Prop :=
  ∃ p ∈ e.definition.label.params, fault = .pathType (e.pathType p) p ∧
    ¬IsWritable host (e.pathType p)

/-- The method **takes** the path parameter with its type, which can be written as a text. -/
structure Takes (host : Host) (e : Endpoint) (s : Imports) (p : String) (param : Param) : Prop where
  writable : IsWritable host (e.pathType p)
  annotated : ∃ c shown, e.pathType p = .cls c ∧ s.Shows c shown ∧ param = Param.typed p shown

section

variable {host : Host} {e : Endpoint}

theorem Takes.mono {s s' : Imports} {p : String} {param : Param} (hgrows : s.Grows s')
    (h : Takes host e s p param) : Takes host e s' p param := by
  obtain ⟨hwritable, c, shown, hc, hshown, hparam⟩ := h
  exact ⟨hwritable, c, shown, hc, hshown.mono hgrows, hparam⟩

/-- One expression shows the type of a path parameter. -/
theorem Takes.eq_typed {s : Imports} {p : String} {param : Param} (h : Takes host e s p param)
    {c : ClassId} {shown : Expr} (hc : e.pathType p = .cls c) (hshown : s.Shows c shown) :
    param = Param.typed p shown := by
  obtain ⟨-, c', shown', hc', hshown', hparam⟩ := h
  obtain rfl := HostType.cls.inj (hc.symm.trans hc')
  rw [hparam, hshown'.unique hshown]

/-- Putting literal parts together leaves the parameters. -/
theorem flush_params (b : Builder) : b.flush.params = b.params := by
  rw [Builder.flush]
  split_ifs <;> rfl

/-- A value of a class is written as a text if the class is one of the basic ones. -/
theorem ensures_encoded (s : Imports) (p : String) (c : ClassId) :
    Ensures (encoded p (.cls c)) s
      (fun fault => fault = .pathType (.cls c) p ∧
        ¬∃ name ∈ basicNames, (HostType.cls c).isBuiltin name = true)
      fun _ _ => ∃ name ∈ basicNames, (HostType.cls c).isBuiltin name = true := by
  rw [encoded]
  simp only [unwrap_cls]
  split_ifs with hstr hbool hnumber
  · exact ensures_pure ⟨"str", by decide, hstr⟩
  · exact ensures_pure ⟨"bool", by decide, hbool⟩
  · rcases (Bool.or_eq_true _ _).mp hnumber with hint | hfloat
    · exact ensures_pure ⟨"int", by decide, hint⟩
    · exact ensures_pure ⟨"float", by decide, hfloat⟩
  · refine ensures_throw ⟨rfl, ?_⟩
    rw [Bool.or_eq_true, not_or] at hnumber
    simp [basicNames, hstr, hbool, hnumber]

/-- One more path parameter is one more parameter of the method. -/
theorem ensures_addParam (s : Imports) (b : Builder) {p : String} {c : ClassId}
    (hc : e.pathType p = .cls c) (hp : p ∈ e.definition.label.params) (index : Nat)
    (isWildcard : Bool) :
    Ensures (b.addParam host e p index isWildcard) s (IsUnwritable host e)
      fun b' s' => ∃ param, b'.params = b.params ++ [param] ∧ Takes host e s' p param := by
  rw [Builder.addParam]
  simp only [hc, unwrap_cls]
  refine .bind ((ensures_lift (Imports.makes_typeExpr_cls s c)).mono fun shown s' _ hshown => ?_)
  have hparams : b.flush.params ++ [Param.typed p shown] = b.params ++ [Param.typed p shown] := by
    rw [flush_params]
  by_cases hencodable : host.isEncodable (.cls c) = true
  · rw [if_pos hencodable]
    have hwritable : IsWritable host (e.pathType p) := by
      rw [hc]
      exact Or.inl hencodable
    exact ensures_pure ⟨_, hparams, hwritable, c, shown, hc, hshown, rfl⟩
  · rw [if_neg hencodable]
    refine .bind (((ensures_encoded s' p c).mono_fails ?_).mono fun _ s'' hgrows hbasic => ?_)
    · rintro fault ⟨rfl, hbasic⟩
      refine ⟨p, hp, by rw [hc], ?_⟩
      rw [hc]
      exact not_or.mpr ⟨hencodable, hbasic⟩
    · have hwritable : IsWritable host (e.pathType p) := by
        rw [hc]
        exact Or.inr hbasic
      exact ensures_pure ⟨_, hparams, hwritable, c, shown, hc, hshown.mono hgrows, rfl⟩

/-- The segments of a path add their parameters. -/
theorem ensures_addSegments {segments : List Route.Segment} (s : Imports) (b : Builder)
    (index : Nat)
    (h : ∀ p ∈ Route.Path.params segments, p ∈ e.definition.label.params ∧
      ∃ c, e.pathType p = .cls c) :
    Ensures (b.addSegments host e index segments) s (IsUnwritable host e)
      fun b' s' => ∃ params, b'.params = b.params ++ params ∧
        List.Forall₂ (Takes host e s') (Route.Path.params segments) params := by
  induction segments generalizing s b index with
  | nil => exact ensures_pure ⟨[], by simp, .nil⟩
  | cons segment segments ih =>
    have hadd : ∀ (p : String) (isWildcard : Bool), segment.bound? = some p →
        Ensures (b.addParam host e p index isWildcard >>= fun b' =>
            b'.addSegments host e (index + 1) segments) s (IsUnwritable host e)
          fun b' s' => ∃ params, b'.params = b.params ++ params ∧
            List.Forall₂ (Takes host e s') (Route.Path.params (segment :: segments)) params := by
      intro p isWildcard hbound
      have hparams : Route.Path.params (segment :: segments) = p :: Route.Path.params segments := by
        rw [Route.Path.params, List.filterMap_cons_some hbound]
        rfl
      rw [hparams] at h ⊢
      obtain ⟨hp, c, hc⟩ := h p List.mem_cons_self
      refine .bind ((ensures_addParam s b hc hp index isWildcard).mono ?_)
      rintro b' s' - ⟨param, hb', hparam⟩
      refine (ih s' b' (index + 1) fun q hq => h q (List.mem_cons_of_mem _ hq)).mono ?_
      rintro b'' s'' hgrows ⟨params, hb'', hparams⟩
      refine ⟨param :: params, ?_, .cons (hparam.mono hgrows) hparams⟩
      rw [hb'', hb', List.append_assoc, List.singleton_append]
    cases segment with
    | literal text =>
      exact ih s { b with literals := b.literals ++ [text] } (index + 1) h
    | finish => exact ih s b (index + 1) h
    | param name => exact hadd name false rfl
    | wildcard name => exact hadd name true rfl

/-- The path is the root if no segment comes before the end. -/
theorem isRoot_iff {label : Route.Label} (h : label.Normal) :
    (label.path == "/" || label.path == "/\x7b$\x7d") = true ↔
      label.segments = [] ∨ label.segments = [.finish] := by
  rw [Bool.or_eq_true, beq_iff_eq, beq_iff_eq]
  constructor
  · have hparse := h.parse_path
    rintro (hroot | hroot)
    · rw [hroot] at hparse
      exact .inl (Except.ok.inj hparse).symm
    · rw [hroot] at hparse
      exact .inr (Except.ok.inj hparse).symm
  · have hpath := h.toList_path
    rintro (hnil | hfinish)
    · rw [h.subtree_of_segments_eq_nil hnil, hnil] at hpath
      exact .inl (String.ext hpath)
    · have hexact : label.exact = true := by
        rw [Route.Label.exact, hfinish]
        rfl
      rw [h.subtree_eq_false_of_exact hexact, hfinish] at hpath
      exact .inr (String.ext hpath)

/-- The root has no parameters. -/
theorem params_eq_nil_of_root {label : Route.Label} (h : label.Normal)
    (hroot : (label.path == "/" || label.path == "/\x7b$\x7d") = true) : label.params = [] := by
  rw [Route.Label.params]
  rcases (isRoot_iff h).mp hroot with hsegments | hsegments
  · rw [hsegments]
    rfl
  · rw [hsegments]
    rfl

/-- **The method of an endpoint** takes the path parameters with their types. -/
theorem ensures_urlMethod (s : Imports) (hlabel : e.definition.label.Normal)
    (htypes : ∀ p ∈ e.definition.label.params, ∃ c, e.pathType p = .cls c) :
    Ensures (urlMethod host e) s (IsUnwritable host e)
      fun made s' => ∃ params returns body,
        made = .function false e.ident (Param.plain "self" :: params) returns body ∧
        List.Forall₂ (Takes host e s') e.definition.label.params params := by
  rw [urlMethod]
  by_cases hroot : (e.definition.label.path == "/" ||
      e.definition.label.path == "/\x7b$\x7d") = true
  · rw [if_pos hroot]
    refine .bind (ensures_pure (ensures_pure ⟨[], _, _, rfl, ?_⟩))
    rw [params_eq_nil_of_root hlabel hroot]
    exact .nil
  · rw [if_neg hroot]
    refine .bind ((ensures_addSegments s _ 1 fun p hp => ⟨hp, htypes p hp⟩).mono ?_)
    rintro b s' - ⟨params, hb, hparams⟩
    have hself : b.flush.params = Param.plain "self" :: params := (flush_params b).trans hb
    exact ensures_pure
      ⟨params, _, _, congrArg (Stmt.function false e.ident · _ _) hself, hparams⟩

end

end FragmentRoutes.RoutesModule
