import FragmentRoutes.Proofs.Call.Rendering

/-!
# Calls of one name

A call of a function with one name is read for all names, with both in their compatibility form
(`parse_render_nameCall`), also where this form is a word of the grammar: the words are told before
the names are brought into their form.
-/

namespace FragmentRoutes.Call

open Code Code.Reader Code.Token

/-- The call of a function with a name. -/
def nameCall (f p : String) : Call :=
  ⟨f, [.name p]⟩

theorem toList_render_nameCall (f p : String) :
    (nameCall f p).render.toList = f.toList ++ '(' :: (p.toList ++ [')']) := by
  rw [render_eq, nameCall, toList_renderArgument_call]
  rfl

section

variable {f p : String} (hf : Text.isName f = true) (hp : Text.isName p = true)

theorem ofIdentifier_of_isName (hp : Text.isName p = true) :
    ofIdentifier p = .name (Text.compatibilityForm p) := by
  rw [Text.isName, Bool.and_eq_true, Bool.not_eq_true'] at hp
  rw [ofIdentifier, hp.2, if_neg Bool.false_ne_true]

/-- One name is read as the arguments of a call. -/
theorem arguments_name (n : Nat) (id : String) :
    arguments (n + 17) .positional [] [] [.name id, .mark ")", .newline] =
      some (([.name id], []), [.newline]) := by
  have hname : primary (n + 2) [.name id, .mark ")", .newline] =
      some (.name id, [.mark ")", .newline]) := primary_name .parenthesis
  rw [arguments_of_expression (by decide) (.inl rfl) (expression_of_primary .parenthesis hname)]
  rfl

include hf hp

/-- The call is written with characters of identifiers and parentheses. -/
theorem mem_render_nameCall :
    ∀ c ∈ (nameCall f p).render.toList, Text.continuesIdentifier c = true ∨ c ∈ ['(', ')'] := by
  have hname : ∀ {id : String}, Text.isName id = true → ∀ c ∈ id.toList,
      Text.continuesIdentifier c = true := fun hid =>
    List.all_eq_true.mp (Text.continuesIdentifier_of_isIdentifier (Text.isIdentifier_of_isName hid))
  rw [toList_render_nameCall, List.forall_mem_append, List.forall_mem_cons, List.forall_mem_append,
    List.forall_mem_singleton]
  exact ⟨fun c hc => .inl (hname hf c hc), .inr (by decide), fun c hc => .inl (hname hp c hc),
    .inr (by decide)⟩

/-- A character that is no part of an identifier and no parenthesis does not stand in the call. -/
theorem notMem_render_nameCall {c : Char} (hc : Text.continuesIdentifier c = false)
    (hmark : c ∉ ['(', ')']) : c ∉ (nameCall f p).render.toList := by
  intro hmem
  rcases mem_render_nameCall hf hp c hmem with hcontinues | hmem
  · rw [hc] at hcontinues
    cases hcontinues
  · exact hmark hmem

/-- **The scan of the call** gives both names in their compatibility form. -/
theorem scan_render_nameCall :
    scan (nameCall f p).render.toList = some [.name (Text.compatibilityForm f), .mark "(",
      .name (Text.compatibilityForm p), .mark ")", .newline] := by
  have hcallee := Text.isIdentifier_of_isName hf
  have hinside : Scans [] ('(' :: (p.toList ++ [')'])) [.mark "(", ofIdentifier p, .mark ")"] []
      [] :=
    (scans_opening (by decide)).trans
      ((scans_identifier (Text.isIdentifier_of_isName hp) (.closing [])).trans scans_closing)
  have hscans := (scans_identifier hcallee (.opening _)).trans hinside
  have hreturn : '\r' ∉ (nameCall f p).render.toList :=
    notMem_render_nameCall hf hp (by decide) (by decide)
  obtain ⟨c, cs, hcons, hpart, -⟩ := exists_toList_eq_cons hcallee
  rw [toList_render_nameCall, hcons, List.cons_append] at hreturn ⊢
  rw [hcons, List.cons_append] at hscans
  have hscan := (scan_of_scans hpart hreturn hscans).1
  rwa [ofIdentifier_of_isName hf, ofIdentifier_of_isName hp] at hscan

/-- **A call of a name is read**, with callee and argument in their compatibility form. -/
theorem parse_render_nameCall :
    parse (nameCall f p).render =
      .ok (nameCall (Text.compatibilityForm f) (Text.compatibilityForm p)) := by
  have hcallee := Text.isIdentifier_of_isName hf
  have hstrip : Text.stripChars (nameCall f p).render.toList = (nameCall f p).render.toList := by
    obtain ⟨c, cs, hcons, -, -⟩ := exists_toList_eq_cons hcallee
    have hblank : Text.isBlank c = false := by
      have hall := List.all_eq_true.mp (Text.continuesIdentifier_of_isIdentifier hcallee) c
      exact Text.not_blank_of_continuesIdentifier (hall (hcons ▸ List.mem_cons_self))
    have hends : (nameCall f p).render.toList = c :: (cs ++ '(' :: p.toList ++ [')']) := by
      rw [toList_render_nameCall, hcons]
      simp
    rw [hends]
    exact stripChars_eq_self hblank (by decide)
  have hnull : '\x00' ∉ (nameCall f p).render.toList :=
    notMem_render_nameCall hf hp (by decide) (by decide)
  have harguments := arguments_name (32 * (nameCall f p).render.toList.length + 96)
    (Text.compatibilityForm p)
  have hread := read_of_primary (scan_render_nameCall hf hp) (primary_call .newline harguments)
    (by omega)
  rw [parse, hstrip, if_neg (by simpa using hnull), hread]
  exact ofExpr_exprOfArgument (Text.compatibilityForm f) [.name (Text.compatibilityForm p)]

end

/-- The scope of a call of a name is checked for the name. -/
theorem checkScope_nameCall (scope : List String) (f p : String) :
    (nameCall f p).checkScope scope =
      if p ∈ scope then .ok () else .error (.inCall f (.unknownArgument p 0)) := by
  rw [nameCall, checkScope, checkArguments, checkArgument, checkArguments]
  by_cases hp : p ∈ scope
  · rw [if_pos hp, if_pos (List.contains_iff_mem.mpr hp)]
    rfl
  · rw [if_neg hp, if_neg (mt List.contains_iff_mem.mp hp)]
    rfl

end FragmentRoutes.Call
