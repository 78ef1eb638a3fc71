import FragmentRoutes.Proofs.Call.Reading
import FragmentRoutes.Proofs.Call.Scanning

/-!
# Reading what is written

The text of a call spells the call again, if no name in it is a word of the grammar: the tokens of
the text are read as the expression that the call is written as (`reads_of_named`), and this is
narrowed to the call (`parse_render`).  A name that is a word of the grammar is no name among the
tokens, so a text with one does not spell the call (`parse_render_iff`).
-/

namespace FragmentRoutes

open Code

namespace Code.Reader

variable {n : Nat} {f : String} {t u : Token} {us rest : List Token} {e : Expr}

/-- A name without trailers. -/
theorem primary_name (ht : Closes t) :
    primary (n + 2) (.name f :: t :: rest) = some (.name f, t :: rest) := by
  rw [primary, atom, Option.bind_eq_bind, Option.bind_some]
  dsimp only
  rw [trailers]
  all_goals cases ht <;> simp

/-- An argument is read, and what follows it is left to `argumentsNext`. -/
theorem arguments_of_expression {args : List Expr} (hu : u ≠ .mark "=" ∧ u ≠ .mark ":=")
    (ht : t = .mark ")" ∨ t = .mark ",")
    (h : expression n (.name f :: u :: us) = some (e, t :: rest)) :
    arguments (n + 2) .positional args [] (.name f :: u :: us) =
      argumentsNext (n + 1) .positional (e :: args) [] (t :: rest) := by
  have hnamed : named (n + 1) (.name f :: u :: us) = some (e, t :: rest) := by
    rw [named]
    · rw [h]
      rcases ht with rfl | rfl <;> rfl
    · intro id rest' heq
      exact hu.2 (List.cons.inj (List.cons.inj heq).2).1
  rw [arguments]
  · simp only [hnamed, Option.bind_eq_bind, Option.bind_some]
    rcases ht with rfl | rfl <;> simp [startsClause]
  all_goals simp [hu.1]

end Code.Reader

namespace Call

open Code.Reader Code.Token

mutual

/-- The expression that an argument is written as. -/
def exprOfArgument : Argument → Expr
  | .name id => .name id
  | .call callee args => .call (.name callee) (exprsOfArguments args) []

/-- The expressions that arguments are written as. -/
def exprsOfArguments : List Argument → List Expr
  | [] => []
  | a :: as => exprOfArgument a :: exprsOfArguments as

end

/-- The identifier is no word of the grammar. -/
def Free (id : String) : Prop :=
  Text.isReserved id = false

theorem ofForm_of_free {id : String} (h : Free id) : ofForm id = .name id := by
  rw [ofForm, if_neg (by rw [h]; exact Bool.false_ne_true)]

theorem free_of_name_eq_ofForm {id id' : String} (h : .name id = ofForm id') : Free id := by
  rw [ofForm] at h
  split_ifs at h with hreserved
  obtain rfl := Token.name.inj h
  exact Bool.eq_false_iff.mpr hreserved

section

variable {n fuel : Nat} {a : Argument} {as : List Argument} {t : Token} {rest : List Token}

/-- An argument starts with a name, and goes on with its parenthesis or ends there. -/
theorem exists_tokensOfArgument_append (h : a.Named Free n) (t : Token) (rest : List Token) :
    ∃ f u us, tokensOfArgument a ++ t :: rest = .name f :: u :: us ∧ (u = .mark "(" ∨ u = t) := by
  cases h with
  | name hid =>
    rw [tokensOfArgument, ofForm_of_free hid]
    exact ⟨_, _, _, rfl, .inr rfl⟩
  | call hcallee =>
    rw [tokensOfArgument, ofForm_of_free hcallee]
    exact ⟨_, _, _, rfl, .inl rfl⟩

/-- The argument is read with every bound that is large enough for its tokens. -/
def Reads (a : Argument) : Prop :=
  ∀ fuel t rest, Closes t → 16 * (tokensOfArgument a).length ≤ fuel + 13 →
    primary fuel (tokensOfArgument a ++ t :: rest) = some (exprOfArgument a, t :: rest)

/-- An argument that is read is put in front of those read before it. -/
theorem arguments_of_reads {args : List Expr} (hnamed : a.Named Free n) (h : Reads a)
    (ht : t = .mark ")" ∨ t = .mark ",") (hfuel : 16 * (tokensOfArgument a).length ≤ fuel) :
    arguments (fuel + 2) .positional args [] (tokensOfArgument a ++ t :: rest) =
      argumentsNext (fuel + 1) .positional (exprOfArgument a :: args) [] (t :: rest) := by
  have hcloses : Closes t := by
    rcases ht with rfl | rfl
    · exact .parenthesis
    · exact .comma
  obtain ⟨f, u, us, heq, hu⟩ := exists_tokensOfArgument_append hnamed t rest
  have hmark : u ≠ .mark "=" ∧ u ≠ .mark ":=" := by
    rcases hu with rfl | rfl
    · decide
    · rcases ht with rfl | rfl <;> decide
  have hlength : 0 < (tokensOfArgument a).length := by
    cases hnamed <;> simp [tokensOfArgument]
  obtain ⟨bound, rfl⟩ : ∃ bound, fuel = bound + 13 := ⟨fuel - 13, by omega⟩
  have hprimary := h bound t rest hcloses hfuel
  rw [heq] at hprimary ⊢
  exact arguments_of_expression hmark ht (expression_of_primary hcloses hprimary)

/-- Behind an argument comes a comma, or the parenthesis that closes the arguments. -/
theorem exists_tokensOfFurther_append (as : List Argument) (rest : List Token) :
    ∃ t us, tokensOfFurther as ++ Token.mark ")" :: rest = t :: us ∧
      (t = .mark ")" ∨ t = .mark ",") := by
  cases as with
  | nil => exact ⟨_, _, rfl, .inl rfl⟩
  | cons a as =>
    rw [tokensOfFurther]
    exact ⟨_, _, rfl, .inr rfl⟩

/-- An argument is read, and what follows it is read as further arguments. -/
theorem arguments_append_further {args : List Expr} (ha : a.Named Free n ∧ Reads a)
    (hfuel : 16 * (tokensOfArgument a).length ≤ fuel) :
    arguments (fuel + 2) .positional args []
        (tokensOfArgument a ++ (tokensOfFurther as ++ Token.mark ")" :: rest)) =
      argumentsNext (fuel + 1) .positional (exprOfArgument a :: args) []
        (tokensOfFurther as ++ Token.mark ")" :: rest) := by
  obtain ⟨t, us, heq, ht⟩ := exists_tokensOfFurther_append as rest
  rw [heq]
  exact arguments_of_reads ha.1 ha.2 ht hfuel

/-- **Further arguments are read** up to the parenthesis that closes them. -/
theorem argumentsNext_of_reads {args : List Expr} (h : ∀ a ∈ as, a.Named Free n ∧ Reads a)
    (hfuel : 16 * (tokensOfFurther as).length < fuel) :
    argumentsNext fuel .positional args [] (tokensOfFurther as ++ Token.mark ")" :: rest) =
      some ((args.reverse ++ exprsOfArguments as, []), rest) := by
  induction as generalizing fuel args with
  | nil =>
    obtain ⟨bound, rfl⟩ : ∃ bound, fuel = bound + 1 := ⟨fuel - 1, by omega⟩
    rw [tokensOfFurther, exprsOfArguments, List.append_nil]
    rfl
  | cons a as ih =>
    obtain ⟨ha, has⟩ := List.forall_mem_cons.mp h
    rw [tokensOfFurther, List.cons_append, List.length_cons, List.length_append] at hfuel
    obtain ⟨bound, rfl⟩ : ∃ bound, fuel = bound + 3 := ⟨fuel - 3, by omega⟩
    rw [tokensOfFurther, exprsOfArguments, List.cons_append, List.cons_append, List.append_assoc,
      argumentsNext, arguments_append_further ha (by omega), ih has (by omega),
      List.reverse_cons, List.append_assoc]
    rfl

/-- **Arguments are read** up to the parenthesis that closes them. -/
theorem arguments_of_forall_reads (h : ∀ a ∈ as, a.Named Free n ∧ Reads a)
    (hfuel : 16 * (tokensOfArguments as).length + 2 ≤ fuel) :
    arguments fuel .positional [] [] (tokensOfArguments as ++ Token.mark ")" :: rest) =
      some ((exprsOfArguments as, []), rest) := by
  obtain ⟨bound, rfl⟩ : ∃ bound, fuel = bound + 2 := ⟨fuel - 2, by omega⟩
  cases as with
  | nil =>
    rw [tokensOfArguments, exprsOfArguments]
    exact arguments_nil
  | cons a as =>
    obtain ⟨ha, has⟩ := List.forall_mem_cons.mp h
    rw [tokensOfArguments, List.length_append] at hfuel
    rw [tokensOfArguments, exprsOfArguments, List.append_assoc,
      arguments_append_further ha (by omega), argumentsNext_of_reads has (by omega)]
    rfl

/-- **An argument is read** as the expression that it is written as. -/
theorem reads_of_named (h : a.Named Free n) : Reads a := by
  induction h with
  | name hid =>
    intro fuel t rest ht hfuel
    rw [tokensOfArgument, List.length_singleton] at hfuel
    obtain ⟨bound, rfl⟩ : ∃ bound, fuel = bound + 2 := ⟨fuel - 2, by omega⟩
    rw [tokensOfArgument, exprOfArgument, ofForm_of_free hid]
    exact primary_name ht
  | @call n callee args hcallee hargs ih =>
    intro fuel t rest ht hfuel
    rw [tokensOfArgument] at hfuel
    simp only [List.length_append, List.length_cons, List.length_nil] at hfuel
    obtain ⟨bound, rfl⟩ : ∃ bound, fuel = bound + 3 := ⟨fuel - 3, by omega⟩
    rw [tokensOfArgument, exprOfArgument, ofForm_of_free hcallee, List.append_assoc,
      List.append_assoc]
    refine primary_call ht ?_
    exact arguments_of_forall_reads (fun a ha => ⟨hargs a ha, ih a ha⟩) (by omega)

end

/-! ### Narrowing the expression -/

mutual

theorem argumentOf_exprOfArgument (index : Nat) : ∀ a : Argument,
    argumentOf index (exprOfArgument a) = .ok a
  | .name id => by rw [exprOfArgument, argumentOf]
  | .call callee args => by
    rw [exprOfArgument, argumentOf, ofParts, argumentsOf_exprsOfArguments 0 args]
    rfl

theorem argumentsOf_exprsOfArguments (index : Nat) : ∀ as : List Argument,
    argumentsOf index (exprsOfArguments as) = .ok as
  | [] => by rw [exprsOfArguments, argumentsOf]
  | a :: as => by
    rw [exprsOfArguments, argumentsOf, argumentOf_exprOfArgument index a,
      argumentsOf_exprsOfArguments (index + 1) as]
    rfl

end

theorem ofExpr_exprOfArgument (callee : String) (args : List Argument) :
    ofExpr (exprOfArgument (.call callee args)) = .ok ⟨callee, args⟩ := by
  rw [exprOfArgument, ofExpr, ofParts, argumentsOf_exprsOfArguments 0 args]
  rfl

/-- A text with the tokens of a call spells the call, if no name in it is a word of the grammar. -/
theorem parse_of_scan {text : String} {call : Call} {n : Nat} (hfree : call.Named Free n)
    (hscan : scan (Text.stripChars text.toList) = some (call.tokens ++ [Token.newline]))
    (hlength : call.tokens.length ≤ (Text.stripChars text.toList).length)
    (hnull : '\x00' ∉ Text.stripChars text.toList) : parse text = .ok call := by
  obtain ⟨f, u, us, heq, -⟩ := exists_tokensOfArgument_append hfree .newline []
  have hprimary := reads_of_named hfree (32 * ((Text.stripChars text.toList).length + 4) - 13)
    .newline [] .newline (by rw [tokens] at hlength; omega)
  rw [tokens, heq] at hscan
  rw [heq] at hprimary
  have hread := read_of_primary hscan hprimary (by omega)
  rw [parse, if_neg (by simpa using hnull), hread]
  exact ofExpr_exprOfArgument call.callee call.args

/-- **What is written is read**, if no name in it is a word of the grammar. -/
theorem parse_render {call : Call} {n : Nat} (h : call.Named IsForm maxDepth)
    (hfree : call.Named Free n) : parse call.render = .ok call := by
  obtain ⟨hscan, hlength⟩ := scan_render h
  rw [← stripChars_render h] at hscan hlength
  refine parse_of_scan hfree hscan hlength ?_
  rw [stripChars_render h]
  exact notMem_render h (by decide) (by decide)

/-! ### Words of the grammar -/

mutual

/-- The names among the tokens of an argument are no words of the grammar. -/
theorem free_of_mem_tokensOfArgument {id : String} : ∀ a : Argument,
    .name id ∈ tokensOfArgument a → Free id
  | .name id', h => by
    rw [tokensOfArgument, List.mem_singleton] at h
    exact free_of_name_eq_ofForm h
  | .call callee args, h => by
    rw [tokensOfArgument, List.mem_append, List.mem_append] at h
    rcases h with (h | h) | h
    · rcases List.mem_cons.mp h with h | h
      · exact free_of_name_eq_ofForm h
      · simp at h
    · exact free_of_mem_tokensOfArguments args h
    · simp at h

theorem free_of_mem_tokensOfArguments {id : String} : ∀ as : List Argument,
    .name id ∈ tokensOfArguments as → Free id
  | [], h => by cases h
  | a :: as, h => by
    rw [tokensOfArguments, List.mem_append] at h
    exact h.elim (free_of_mem_tokensOfArgument a) (free_of_mem_tokensOfFurther as)

theorem free_of_mem_tokensOfFurther {id : String} : ∀ as : List Argument,
    .name id ∈ tokensOfFurther as → Free id
  | [], h => by cases h
  | a :: as, h => by
    rw [tokensOfFurther, List.mem_append] at h
    rcases h with h | h
    · exact free_of_mem_tokensOfArgument a (by simpa using h)
    · exact free_of_mem_tokensOfFurther as h

end

/-- The names of a call are among the tokens of its text, so none of them is a word of the grammar
if the text spells it. -/
theorem free_of_parse_render {call : Call} (h : call.Named IsForm maxDepth)
    (hparse : parse call.render = .ok call) : call.Named Free maxDepth := by
  refine named_of_spelled hparse fun ts hts => (spelled_scan hts).of_forall_name fun id hid => ?_
  rw [stripChars_render h, (scan_render h).1] at hts
  obtain rfl := Option.some.inj hts
  rw [List.mem_append] at hid
  exact hid.elim (free_of_mem_tokensOfArgument _) (by simp)

/-- **A call that is written is read again** exactly if no callee and no identifier in it is a word
of the grammar, as the compatibility form of a name may be. -/
theorem parse_render_iff {text : String} {call : Call} (h : parse text = .ok call) :
    parse call.render = .ok call ↔
      (∀ c ∈ call.walk, Text.isReserved c.callee = false) ∧
        ∀ id ∈ call.identifiers, Text.isReserved id = false := by
  have hform : call.Named IsForm maxDepth := (named_of_parse h).imp fun _ => IsFormOfName.isForm
  exact Iff.trans ⟨free_of_parse_render hform, parse_render hform⟩ (named_iff hform)

/-- A call with a nested one. -/
def nestedCall : Call :=
  ⟨"Show", [.name "ctx", .call "Load" [.name "id"]]⟩

/-- A text of the call with other spaces than it is written with. -/
theorem parse_nestedCall : parse "Show( ctx,Load(id) )" = .ok nestedCall := by
  have hfree : nestedCall.Named Free 2 := by
    refine .call rfl (List.forall_mem_cons.mpr ⟨.name rfl, List.forall_mem_singleton.mpr ?_⟩)
    exact .call rfl (List.forall_mem_singleton.mpr (.name rfl))
  exact parse_of_scan hfree (by decide +kernel) (by decide +kernel) (by decide +kernel)

/-- What is written for the call is read again. -/
theorem parse_render_iff_nestedCall :
    parse "Show( ctx,Load(id) )" = .ok nestedCall ∧
      parse nestedCall.render = .ok nestedCall :=
  ⟨parse_nestedCall, (parse_render_iff parse_nestedCall).mpr (by decide +kernel)⟩

/-- A call whose callee is a word of the grammar. -/
def definingCall : Call :=
  ⟨"def", [.name "x"]⟩

/-- A name whose compatibility form is the word is read. -/
theorem parse_definingCall : parse "ｄｅｆ(x)" = .ok definingCall := by
  have hscan : scan "ｄｅｆ(x)".toList =
      some [.name "def", .mark "(", .name "x", .mark ")", .newline] := by decide +kernel
  have hfree : Argument.Named Free 0 (.name "x") := .name rfl
  have hargs : arguments 305 .positional [] []
      (tokensOfArguments [.name "x"] ++ [Token.mark ")", Token.newline]) =
        some (([.name "x"], []), [.newline]) :=
    arguments_of_forall_reads (List.forall_mem_singleton.mpr ⟨hfree, reads_of_named hfree⟩)
      (by decide)
  have hread := read_of_primary hscan (primary_call .newline hargs) (by decide)
  have hstrip : Text.stripChars "ｄｅｆ(x)".toList = "ｄｅｆ(x)".toList := by decide
  rw [parse, hstrip, if_neg (by decide), hread]
  exact ofExpr_exprOfArgument "def" [.name "x"]

/-- **A call with a word of the grammar** for a callee is read, and what is written for it is not
read as the call. -/
theorem not_parse_render_of_word :
    parse "ｄｅｆ(x)" = .ok definingCall ∧ parse definingCall.render ≠ .ok definingCall := by
  refine ⟨parse_definingCall, fun hparse => ?_⟩
  have hform := (named_of_parse parse_definingCall).imp fun _ => IsFormOfName.isForm
  have hfree : Text.isReserved "def" = false := (free_of_parse_render hform hparse).callee
  exact absurd hfree (by decide)

end Call

end FragmentRoutes
