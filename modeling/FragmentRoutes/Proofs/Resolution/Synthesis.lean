import FragmentRoutes.Proofs.Naming
import FragmentRoutes.Proofs.Resolution.Step
import FragmentRoutes.Proofs.Text.Identifier
import Mathlib.Data.List.Forall2

/-!
# Signatures made from calls

A call whose callee the application does not have is given a signature with one parameter for each
argument.  Every parameter has the type of its argument, and the parameters have different names
that can name something (`synthesize_wellFormed`).

A method of a protocol has the parameter `self` before these.  A parameter is called `self` if its
argument is spelled so, as the nested call `Self()` is, and no other parameter is.
-/

namespace FragmentRoutes.Resolution

open Text

/-! ### Names of parameters -/

/-- The name that an argument is spelled like: its identifier, or the words of its callee. -/
def spelling : Argument → String
  | .name id => id
  | .call callee _ => Naming.snakeCase callee

/-- The name that an argument suggests is the one it is spelled like, or has a number. -/
theorem suggestedName_cases (index : Nat) (arg : Argument) :
    suggestedName index arg = spelling arg ∧ isName (spelling arg) = true ∨
      suggestedName index arg = "arg" ++ toString index ∧ ¬isName (spelling arg) = true := by
  have hbase : suggestedName index arg =
      if isName (spelling arg) then spelling arg else "arg" ++ toString index := by
    cases arg <;> rfl
  rw [hbase]
  split_ifs with hname
  · exact .inl ⟨rfl, hname⟩
  · exact .inr ⟨rfl, hname⟩

/-- The name that an argument suggests can name something. -/
theorem isName_suggestedName (index : Nat) (arg : Argument) :
    isName (suggestedName index arg) = true := by
  rcases suggestedName_cases index arg with ⟨hsame, hname⟩ | ⟨hnumbered, -⟩
  · rwa [hsame]
  · rw [hnumbered]
    exact isName_append_number (by decide) index

/-- An argument suggests a name that ends with no digit exactly if it is spelled so. -/
theorem suggestedName_eq_iff {name : String} (hname : isName name = true)
    (hend : endsWithDigit name = false) (index : Nat) (arg : Argument) :
    suggestedName index arg = name ↔ spelling arg = name := by
  rcases suggestedName_cases index arg with ⟨hsame, -⟩ | ⟨hnumbered, hunusable⟩
  · rw [hsame]
  · rw [hnumbered]
    refine iff_of_false (append_number_ne hend) ?_
    rintro rfl
    exact hunusable hname

/-- The search among the names with an underscore is that among the numbered names. -/
theorem freeNameWithin_eq_numbered (used : List String) (base : String) (fuel n : Nat) :
    freeNameWithin used base fuel n = Naming.numbered used (base ++ "_") n fuel := by
  induction fuel generalizing n with
  | zero => rfl
  | succ fuel ih => rw [freeNameWithin, Naming.numbered, ih]

/-- **The name of a parameter** is the suggested one if it is not used, and else one with a number
after it that is not used. -/
theorem freeName_cases (used : List String) (base : String) :
    freeName used base = base ∧ base ∉ used ∨
      base ∈ used ∧ freeName used base ∉ used ∧
        ∃ n : Nat, freeName used base = base ++ "_" ++ toString n := by
  rw [freeName]
  split_ifs with hused
  · have hmem : base ∈ used := by simpa using hused
    obtain ⟨k, hle, hbound, hnew⟩ := exists_numbered_not_mem used (base ++ "_") 2
    rw [freeNameWithin_eq_numbered]
    exact .inr ⟨hmem, Naming.numbered_not_mem hle hbound hnew, Naming.exists_numbered_eq _ _ _ _⟩
  · exact .inl ⟨rfl, by simpa using hused⟩

theorem freeName_not_mem (used : List String) (base : String) : freeName used base ∉ used := by
  rcases freeName_cases used base with ⟨hsame, hfree⟩ | ⟨-, hfree, -⟩
  · rwa [hsame]
  · exact hfree

theorem isName_freeName (used : List String) {base : String} (h : isName base = true) :
    isName (freeName used base) = true := by
  rcases freeName_cases used base with ⟨hsame, -⟩ | ⟨-, -, n, hnumbered⟩
  · rwa [hsame]
  · have hunderscore : isIdentifier (base ++ "_") = true :=
      isIdentifier_append (isIdentifier_of_isName h) (by decide)
    rw [hnumbered]
    exact isName_append_number hunderscore n

/-- A name that ends with no digit is used now exactly if it was used before or is asked for now. -/
theorem mem_cons_freeName_iff {name : String}
    (hend : endsWithDigit name = false) (used : List String)
    (base : String) : name ∈ freeName used base :: used ↔ base = name ∨ name ∈ used := by
  rw [List.mem_cons]
  rcases freeName_cases used base with ⟨hsame, -⟩ | ⟨hused, -, n, hnumbered⟩
  · rw [hsame, eq_comm]
  · have hne : name ≠ freeName used base := hnumbered ▸ (append_number_ne hend).symm
    have himp : base = name → name ∈ used := by
      rintro rfl
      exact hused
    rw [or_iff_right hne, or_iff_right_of_imp himp]

/-! ### The parameters of a call -/

section

variable {signatures : List Signature} {used : List String} {index : Nat} {args : List Argument}
  {params : List Signature.Param}

/-- The parameter for an argument is named, and then those for the arguments after it. -/
theorem synthesizeParams_cons_eq_ok {arg : Argument}
    (h : synthesizeParams signatures used index (arg :: args) = .ok params) :
    ∃ type rest, argumentType signatures arg = .ok type ∧
      synthesizeParams signatures (freeName used (suggestedName index arg) :: used) (index + 1)
        args = .ok rest ∧
      params = ⟨freeName used (suggestedName index arg), type⟩ :: rest := by
  rw [synthesizeParams, Except.bind_eq_ok] at h
  obtain ⟨type, htype, h⟩ := h
  rw [Except.bind_eq_ok] at h
  obtain ⟨rest, hrest, h⟩ := h
  exact ⟨type, rest, htype, hrest, (Except.ok.inj h).symm⟩

/-- Every argument has a parameter of its type. -/
theorem forall₂_argumentType (h : synthesizeParams signatures used index args = .ok params) :
    List.Forall₂ (fun arg p => argumentType signatures arg = .ok p.type) args params := by
  induction args generalizing used index params with
  | nil =>
    obtain rfl := Except.ok.inj h
    exact .nil
  | cons arg args ih =>
    obtain ⟨type, rest, htype, hrest, rfl⟩ := synthesizeParams_cons_eq_ok h
    exact .cons htype (ih hrest)

theorem isName_of_mem_params (h : synthesizeParams signatures used index args = .ok params) :
    ∀ p ∈ params, isName p.name = true := by
  induction args generalizing used index params with
  | nil =>
    obtain rfl := Except.ok.inj h
    simp
  | cons arg args ih =>
    obtain ⟨type, rest, -, hrest, rfl⟩ := synthesizeParams_cons_eq_ok h
    refine List.forall_mem_cons.mpr ⟨?_, ih hrest⟩
    exact isName_freeName used (isName_suggestedName index arg)

/-- No two parameters have one name, and none has a name in use. -/
theorem nodup_names (h : synthesizeParams signatures used index args = .ok params) :
    (params.map (·.name)).Nodup ∧ ∀ p ∈ params, p.name ∉ used := by
  induction args generalizing used index params with
  | nil =>
    obtain rfl := Except.ok.inj h
    simp
  | cons arg args ih =>
    obtain ⟨type, rest, -, hrest, rfl⟩ := synthesizeParams_cons_eq_ok h
    obtain ⟨hnodup, hfree⟩ := ih hrest
    constructor
    · rw [List.map_cons, List.nodup_cons, List.mem_map]
      refine ⟨?_, hnodup⟩
      rintro ⟨p, hp, hsame⟩
      exact hfree p hp (hsame ▸ List.mem_cons_self)
    · refine List.forall_mem_cons.mpr ⟨freeName_not_mem used _, fun p hp hused => ?_⟩
      exact hfree p hp (List.mem_cons_of_mem _ hused)

/-- A name that ends with no digit is that of a parameter exactly if an argument is spelled so,
names in use apart. -/
theorem mem_names_iff {name : String} (hname : isName name = true)
    (hend : endsWithDigit name = false)
    (h : synthesizeParams signatures used index args = .ok params) :
    name ∈ params.map (·.name) ∨ name ∈ used ↔
      (∃ arg ∈ args, spelling arg = name) ∨ name ∈ used := by
  induction args generalizing used index params with
  | nil =>
    obtain rfl := Except.ok.inj h
    simp
  | cons arg args ih =>
    obtain ⟨type, rest, -, hrest, rfl⟩ := synthesizeParams_cons_eq_ok h
    have hmem := mem_cons_freeName_iff hend used (suggestedName index arg)
    rw [suggestedName_eq_iff hname hend] at hmem
    have hlater := ih hrest
    rw [hmem] at hlater
    rw [List.mem_cons] at hmem
    rw [List.map_cons, List.mem_cons, List.exists_mem_cons_iff]
    dsimp only
    rw [or_assoc, or_left_comm, hmem, hlater, or_left_comm, ← or_assoc]

end

/-- **A signature made from a call is well-formed.**  If the callees of the nested calls are
recorded, each argument has one parameter of its type, the names of the parameters can name
something and are all different, and they are different from the `self` before them exactly if no
argument is spelled like it. -/
theorem synthesize_wellFormed {signatures : List Signature} {call : Call}
    (h : ∀ inner ∈ call.nested, inner.callee ∈ signatures.map (·.name)) :
    ∃ g, synthesize signatures call = .ok g ∧ g.name = call.callee ∧
      List.Forall₂ (fun arg p => argumentType signatures arg = .ok p.type) call.args g.params ∧
      (∀ p ∈ g.params, isName p.name = true) ∧ (g.params.map (·.name)).Nodup ∧
      (("self" :: g.params.map (·.name)).Nodup ↔ ∀ arg ∈ call.args, spelling arg ≠ "self") := by
  obtain ⟨params, hparams⟩ := synthesizeParams_eq_ok h [] 0
  obtain ⟨hnodup, -⟩ := nodup_names hparams
  have hname : isName "self" = true := by decide
  have hend : endsWithDigit "self" = false := by decide
  have hself := mem_names_iff hname hend hparams
  simp only [List.not_mem_nil, or_false] at hself
  refine ⟨⟨call.callee, params, .any, .value, .synthesized, false, .any, ""⟩, ?_, rfl,
    forall₂_argumentType hparams, isName_of_mem_params hparams, hnodup, ?_⟩
  · rw [synthesize, hparams]
    rfl
  · rw [List.nodup_cons, hself, and_iff_left hnodup]
    push Not
    rfl

/-- The signature made from a call without arguments. -/
def bareSignature (callee : String) : Signature :=
  ⟨callee, [], .any, .value, .synthesized, false, .any, ""⟩

/-- Two parameters for one callee, and one for an identifier that is spelled like the second. -/
theorem synthesize_wellFormed_repeated :
    ∃ g, synthesize [bareSignature "Load"]
        ⟨"Render", [.call "Load" [], .call "Load" [], .name "load_2"]⟩ = .ok g ∧
      g.params.map (·.name) = ["load", "load_2", "load_2_2"] ∧
      ("self" :: g.params.map (·.name)).Nodup := by
  have hrecorded : ∀ inner ∈ (Call.mk "Render"
      [.call "Load" [], .call "Load" [], .name "load_2"]).nested,
        inner.callee ∈ [bareSignature "Load"].map (·.name) := by decide
  have hspelled : ∀ arg ∈ [.call "Load" [], .call "Load" [], .name "load_2"],
      spelling arg ≠ "self" := by decide
  obtain ⟨g, hg, -, -, -, -, hself⟩ := synthesize_wellFormed hrecorded
  have hnames : (synthesize [bareSignature "Load"]
      ⟨"Render", [.call "Load" [], .call "Load" [], .name "load_2"]⟩).map
        (fun g => g.params.map (·.name)) = .ok ["load", "load_2", "load_2_2"] := by rfl
  rw [hg] at hnames
  exact ⟨g, hg, Except.ok.inj hnames, hself.mpr hspelled⟩

/-- The parameter for the nested call `Self()` has the name of the parameter before it. -/
theorem synthesize_of_self :
    ∃ g, synthesize [bareSignature "Self"] ⟨"F", [.call "Self" []]⟩ = .ok g ∧
      g.params.map (·.name) = ["self"] :=
  ⟨_, rfl, by decide⟩

end FragmentRoutes.Resolution
