import FragmentRoutes.Proofs.Call.NameCall
import FragmentRoutes.Proofs.Definition
import FragmentRoutes.Proofs.Route.PathReading
import FragmentRoutes.Proofs.Text.FirstLetter

/-!
# Compatibility forms of path parameters

The names of path parameters are checked as they are written, but the identifiers of a call are in
their compatibility form.  The form of a name that passes the check is an identifier that does not
start with an underscore, but it may be a word that the check refuses, or the form of another
parameter (`freeForms_iff`).

In a call a parameter stands for its form.  So it is in scope if the form is, and it stands for
itself exactly if it is its own form (`refersTo_param_iff`).
-/

namespace FragmentRoutes

/-! ### Forms of names -/

namespace Route.Path

/-- The forms of the names are as the names of parameters have to be: no two are equal, and none is
a word of the grammar, starts with an underscore, or names something else. -/
structure FreeForms (names : List String) : Prop where
  nodup : (names.map Text.compatibilityForm).Nodup
  not_reserved : ∀ name ∈ names, Text.isReserved (Text.compatibilityForm name) = false
  not_underscore : ∀ name ∈ names, (Text.compatibilityForm name).toList.head? ≠ some '_'
  ne_self : ∀ name ∈ names, Text.compatibilityForm name ≠ "self"
  notMem_argumentNames : ∀ name ∈ names, Text.compatibilityForm name ∉ argumentNames
  notMem_generatedNames : ∀ name ∈ names, Text.compatibilityForm name ∉ generatedNames

variable {names : List String} (h : checkNames names = .ok ())

include h

/-- The form of a name that passes the check is an identifier without an underscore in front. -/
theorem form_of_checkNames :
    ∀ name ∈ names, Text.isIdentifier (Text.compatibilityForm name) = true ∧
      (Text.compatibilityForm name).toList.head? ≠ some '_' := by
  intro name hname
  have hparam := (checkNames_eq_ok_iff.mp h).1 name hname
  have hid := Text.isIdentifier_of_isName hparam.isName
  exact ⟨Text.isIdentifier_compatibilityForm hid,
    Text.head?_compatibilityForm_ne_underscore hid hparam.not_underscore⟩

/-- **The forms of names are free** exactly if they pass the check as the names do. -/
theorem freeForms_iff :
    FreeForms names ↔ checkNames (names.map Text.compatibilityForm) = .ok () := by
  have hforms := form_of_checkNames h
  rw [checkNames_eq_ok_iff, List.forall_mem_map]
  constructor
  · rintro ⟨hnodup, hreserved, hunderscore, hself, harguments, hgenerated⟩
    refine ⟨fun name hname => ⟨?_, hunderscore name hname, hself name hname,
      harguments name hname, hgenerated name hname⟩, hnodup⟩
    rw [Text.isName, (hforms name hname).1, hreserved name hname]
    rfl
  · rintro ⟨hparams, hnodup⟩
    refine ⟨hnodup, fun name hname => ?_, fun name hname => (hparams name hname).not_underscore,
      fun name hname => (hparams name hname).ne_self,
      fun name hname => (hparams name hname).notMem_argumentNames,
      fun name hname => (hparams name hname).notMem_generatedNames⟩
    have hname := (hparams name hname).isName
    rw [Text.isName, Bool.and_eq_true, Bool.not_eq_true'] at hname
    exact hname.2

/-- Names that are their own forms have free forms. -/
theorem freeForms_of_forall_eq (hsame : ∀ name ∈ names, Text.compatibilityForm name = name) :
    FreeForms names := by
  rw [freeForms_iff h, List.map_congr_left hsame, List.map_id']
  exact h

end Route.Path

/-! ### Calls of parameters -/

/-- A word that starts like an identifier and has no dot is no status. -/
theorem Route.Status.not_isStatusWord_of_startsIdentifier {c : Char} {cs : List Char}
    (hc : Text.startsIdentifier c = true) (hdot : '.' ∉ c :: cs) :
    isStatusWord (c :: cs) = false := by
  have hnamed : '.' ∉ dropFront "http.".toList (c :: cs) := by
    rw [dropFront]
    split_ifs
    · exact fun hmem => hdot (List.mem_of_mem_drop hmem)
    · exact hdot
  have hfront : "HTTPStatus.".toList.isPrefixOf (dropFront "http.".toList (c :: cs)) = false := by
    rw [← Bool.not_eq_true, List.isPrefixOf_iff_prefix]
    exact fun hstart => hnamed (hstart.subset (by decide))
  rw [isStatusWord, Text.not_isDecimal_of_startsIdentifier hc, hfront]
  rfl

namespace Definition

open Call

/-- The text defines a route whose call has the identifier for its one argument. -/
def RefersTo (text id : String) : Prop :=
  ∀ source group, ∃ d f, parse text source group = .ok (some d) ∧ d.call = some (nameCall f id)

/-- The pattern of a label with the call of a name behind it. -/
def calling (label : Route.Label) (f p : String) : String :=
  label.pattern ++ " " ++ (nameCall f p).render

/-- The label with the call of a name, and without status. -/
def callingLabel (label : Route.Label) (f p : String) : Route.Label :=
  { label with
    name := calling label f p
    status := Route.Status.ok
    explicitStatus := false
    callText := (nameCall f p).render }

section

variable {label : Route.Label} {f p : String} (hf : Text.isName f = true)
  (hp : Text.isName p = true)

include hf hp

/-- A call of a name is one word. -/
theorem isWord_render_nameCall : Text.IsWord (nameCall f p).render.toList := by
  refine ⟨by rw [toList_render_nameCall]; simp, fun c hc => ?_⟩
  rcases mem_render_nameCall hf hp c hc with hcontinues | hmark
  · exact Text.not_blank_of_continuesIdentifier hcontinues
  · rw [List.mem_cons, List.mem_singleton] at hmark
    rcases hmark with rfl | rfl
    · exact Text.not_blank_of_printed (by decide)
    · exact Text.not_blank_of_printed (by decide)

/-- A call of a name is no status. -/
theorem not_isStatusWord_render_nameCall :
    Route.Status.isStatusWord (nameCall f p).render.toList = false := by
  have hdot : '.' ∉ (nameCall f p).render.toList :=
    notMem_render_nameCall hf hp (by decide) (by decide)
  have hcallee := Text.isIdentifier_of_isName hf
  rw [Text.isIdentifier] at hcallee
  rw [toList_render_nameCall] at hdot ⊢
  cases hchars : f.toList with
  | nil =>
    rw [hchars] at hcallee
    cases hcallee
  | cons c cs =>
    rw [hchars, Text.isIdentifierChars, Bool.and_eq_true] at hcallee
    rw [hchars, List.cons_append] at hdot
    exact Route.Status.not_isStatusWord_of_startsIdentifier hcallee.1 hdot

/-- The pattern with the call is read as the label with the call. -/
theorem parse_label_calling (h : label.Normal) :
    Route.Label.parse (calling label f p) = .ok (some (callingLabel label f p)) := by
  have hword := isWord_render_nameCall hf hp
  have hwords : Text.words (calling label f p).toList =
      label.patternWords ++ [(nameCall f p).render.toList] := by
    have hne : label.patternWords ≠ [] := by simp [Route.Label.patternWords]
    have hall : ∀ w ∈ label.patternWords ++ [(nameCall f p).render.toList], Text.IsWord w :=
      List.forall_mem_append.mpr
        ⟨h.isWord_of_mem_patternWords, List.forall_mem_singleton.mpr hword⟩
    rw [← Text.words_unwords hall, Text.unwords_append_singleton hne, ← Route.Label.toList_pattern,
      calling, String.toList_append, String.toList_append, List.append_assoc]
    rfl
  refine h.parse_of_words_eq hwords ?_
  rw [Route.Label.statusAndCall, not_isStatusWord_render_nameCall hf hp,
    if_neg Bool.false_ne_true, Text.unwords, List.intercalate_singleton]

/-- **The call of a name defines a route** if the form of the name is in scope. -/
theorem parse_calling (h : label.Normal) (source group : String) :
    parse (calling label f p) source group =
      if Text.compatibilityForm p ∈ scope label then
        .ok (some ⟨callingLabel label f p,
          some (nameCall (Text.compatibilityForm f) (Text.compatibilityForm p)), source, group⟩)
      else .error ⟨.call (.inCall (Text.compatibilityForm f)
        (.unknownArgument (Text.compatibilityForm p) 0)), calling label f p⟩ := by
  have hcall : parseCall (callingLabel label f p) =
      if Text.compatibilityForm p ∈ scope label then
        .ok (some (nameCall (Text.compatibilityForm f) (Text.compatibilityForm p)))
      else .error (.inCall (Text.compatibilityForm f)
        (.unknownArgument (Text.compatibilityForm p) 0)) := by
    have hne : ¬(nameCall f p).render.isEmpty = true := by
      rw [String.isEmpty_iff, ← String.toList_eq_nil_iff]
      exact (isWord_render_nameCall hf hp).ne_nil
    have htext : (callingLabel label f p).callText = (nameCall f p).render := rfl
    have hscope : scope (callingLabel label f p) = scope label := rfl
    rw [parseCall, htext, hscope, if_neg hne, parse_render_nameCall hf hp, Except.ok_bind,
      checkScope_nameCall]
    split_ifs <;> rfl
  rw [parse, parse_label_calling hf hp h]
  dsimp only
  rw [hcall]
  split_ifs <;> rfl

end

/-- **A path parameter stands for its form** in a call.  For all names that pass the check, the
forms are identifiers that do not start with an underscore; they are free exactly if they pass the
check as well, so they are free if the names are their own forms.  For every label and every
parameter of its path, the pattern with a call of the parameter defines a route if the form of the
parameter is in scope, and the call then refers to the form; else the form is reported as an unknown
argument.  So the call refers to the parameter exactly if the parameter is its own form. -/
theorem refersTo_param_iff {names : List String} (hnames : Route.Path.checkNames names = .ok ())
    {text : String} {label : Route.Label} (hlabel : Route.Label.parse text = .ok (some label)) :
    ((∀ name ∈ names, Text.isIdentifier (Text.compatibilityForm name) = true ∧
        (Text.compatibilityForm name).toList.head? ≠ some '_') ∧
      (Route.Path.FreeForms names ↔
        Route.Path.checkNames (names.map Text.compatibilityForm) = .ok ()) ∧
      ((∀ name ∈ names, Text.compatibilityForm name = name) → Route.Path.FreeForms names)) ∧
    ∀ p ∈ label.params, ∀ f, Text.isName f = true →
      (Text.compatibilityForm p ∈ scope label →
        RefersTo (calling label f p) (Text.compatibilityForm p)) ∧
      (Text.compatibilityForm p ∉ scope label → ∀ source group,
        parse (calling label f p) source group = .error ⟨.call (.inCall
          (Text.compatibilityForm f) (.unknownArgument (Text.compatibilityForm p) 0)),
          calling label f p⟩) ∧
      (RefersTo (calling label f p) p ↔ Text.compatibilityForm p = p) := by
  refine ⟨⟨Route.Path.form_of_checkNames hnames, Route.Path.freeForms_iff hnames,
    Route.Path.freeForms_of_forall_eq hnames⟩, fun p hmem f hf => ?_⟩
  have hnormal := Route.Label.normal_of_parse hlabel
  have hp := (Route.Path.isParamName_of_mem_params hnormal.path_normal.plain hmem).isName
  have hrefers : Text.compatibilityForm p ∈ scope label →
      RefersTo (calling label f p) (Text.compatibilityForm p) := by
    intro hscope source group
    rw [parse_calling hf hp hnormal, if_pos hscope]
    exact ⟨_, _, rfl, rfl⟩
  refine ⟨hrefers, fun hscope source group => ?_, fun hself => ?_, fun hsame => ?_⟩
  · rw [parse_calling hf hp hnormal, if_neg hscope]
  · obtain ⟨d, f', hparse, hcall⟩ := hself "" ""
    rw [parse_calling hf hp hnormal] at hparse
    split_ifs at hparse
    obtain rfl := Option.some.inj (Except.ok.inj hparse)
    have hargs := (Call.mk.inj (Option.some.inj hcall)).2
    exact Argument.name.inj (List.cons.inj hargs).1
  · rw [hsame] at hrefers
    exact hrefers (List.mem_append_right _ hmem)

/-- A path with a parameter in ASCII and one beyond. -/
def tildeLabel : Route.Label :=
  ⟨"GET /\x7bid\x7d/\x7bñ\x7d", some .get, "", "/\x7bid\x7d/\x7bñ\x7d",
    [.param "id", .param "ñ"], 200, false, ""⟩

/-- The parameters of the path are their own forms. -/
theorem refersTo_param_iff_tilde :
    Route.Path.FreeForms ["id", "ñ"] ∧
      Route.Label.parse "GET /\x7bid\x7d/\x7bñ\x7d" = .ok (some tildeLabel) ∧
      RefersTo "GET /\x7bid\x7d/\x7bñ\x7d Show(ñ)" "ñ" := by
  have hparse : Route.Label.parse "GET /\x7bid\x7d/\x7bñ\x7d" = .ok (some tildeLabel) := by rfl
  have hsame : ∀ name ∈ ["id", "ñ"], Text.compatibilityForm name = name := by decide +kernel
  have htext : calling tildeLabel "Show" "ñ" = "GET /\x7bid\x7d/\x7bñ\x7d Show(ñ)" := by decide
  have hnames : Route.Path.checkNames ["id", "ñ"] = .ok () := by rfl
  obtain ⟨⟨-, -, hfree⟩, hcalls⟩ := refersTo_param_iff hnames hparse
  have hrefers := (hcalls "ñ" (by decide) "Show" (by decide)).2.2
  rw [htext] at hrefers
  exact ⟨hfree hsame, hparse, hrefers.mpr (hsame _ (by decide))⟩

/-- A path with a long s in a parameter. -/
def longLetterLabel : Route.Label :=
  ⟨"GET /\x7bſize\x7d", some .get, "", "/\x7bſize\x7d", [.param "ſize"], 200, false, ""⟩

/-- **Names that are not their own forms**: a name whose form is that of the instance passes the
check, and a parameter with such a letter cannot be written as an argument. -/
theorem not_refersTo_long_letter :
    (Route.Path.checkNames ["ſelf"] = .ok () ∧ ¬Route.Path.FreeForms ["ſelf"]) ∧
      Route.Label.parse "GET /\x7bſize\x7d" = .ok (some longLetterLabel) ∧
      longLetterLabel.params = ["ſize"] ∧
      parse "GET /\x7bſize\x7d F(ſize)" "" "" = .error
        ⟨.call (.inCall "F" (.unknownArgument "size" 0)), "GET /\x7bſize\x7d F(ſize)"⟩ := by
  have hparse : Route.Label.parse "GET /\x7bſize\x7d" = .ok (some longLetterLabel) := by rfl
  have hform : Text.compatibilityForm "ſize" = "size" ∧ Text.compatibilityForm "F" = "F" ∧
      Text.compatibilityForm "ſelf" = "self" := by decide +kernel
  have htext : calling longLetterLabel "F" "ſize" = "GET /\x7bſize\x7d F(ſize)" := by decide
  have hcalling := @parse_calling longLetterLabel "F" "ſize" (by decide) (by decide)
    (Route.Label.normal_of_parse hparse) "" ""
  rw [hform.1, hform.2.1, htext, if_neg (by decide)] at hcalling
  exact ⟨⟨rfl, fun hfree => hfree.ne_self "ſelf" List.mem_cons_self hform.2.2⟩, hparse, rfl,
    hcalling⟩

end Definition

end FragmentRoutes
