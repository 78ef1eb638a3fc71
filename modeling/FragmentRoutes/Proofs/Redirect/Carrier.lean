import FragmentRoutes.Proofs.Redirect.Reach

/-!
# Where the carrier goes

The analysis counts a template as harmless only if no template that it can reach has a suspicious
node, whatever cannot be read elsewhere in the library (`not_reachesOff_of_mayRedirect`).

An expression may evaluate to the carrier without being its name: a conditional expression one of
whose branches does, or a junction one of whose operands does (`CarrierValued`).  A node exposes
such an expression by reading an attribute or item of it that is not known as safe, by handing it
on to a call, a filter or a test, or by binding it to another name (`Node.Hands`,
`Node.defaults`).  Of the harmless templates none hands on the bare name of the carrier, but any
other expression for the carrier and all defaults of macro parameters are passed over
(`exposes_nothing_iff`): a template that redirects through one of them counts as harmless
(`exposes_of_harmless`).
-/

namespace FragmentRoutes.Redirect

open Template

/-! ### Harmless answers -/

theorem orElse_eq_false_iff {answer : Except Fault Bool} {next : Unit → Except Fault Bool} :
    orElse answer next = .ok false ↔ answer = .ok false ∧ next () = .ok false := by
  rcases answer with fault | _ | _ <;> simp [orElse]

section

variable {follow follow' : String → Except Fault Bool}

theorem anyName_eq_false_of
    (hfollow : ∀ name, follow name = .ok false → follow' name = .ok false) : ∀ names : List String,
    anyName follow names = .ok false → anyName follow' names = .ok false
  | [], _ => rfl
  | name :: names, h => by
    rw [anyName, orElse_eq_false_iff] at h ⊢
    exact h.imp (hfollow name) (anyName_eq_false_of hfollow names)

mutual

/-- A statement that is harmless stays so if every harmless reference does. -/
theorem inStmt_eq_false_of
    (hfollow : ∀ name, follow name = .ok false → follow' name = .ok false) :
    ∀ s : Stmt, inStmt follow s = .ok false → inStmt follow' s = .ok false
  | .data _, _ => by rw [inStmt]
  | .output _, h => by rwa [inStmt] at h ⊢
  | .assign _ _, h => by rwa [inStmt] at h ⊢
  | .reference template, h => by
    rw [inStmt] at h ⊢
    cases hnames : referencedNames template with
    | none =>
      rw [hnames] at h
      exact h
    | some names =>
      rw [hnames] at h
      rw [orElse_eq_false_iff] at h ⊢
      exact h.imp_left (anyName_eq_false_of hfollow names)
  | .assignBlock _ _ body, h => by
    rw [inStmt, orElse_eq_false_iff] at h ⊢
    exact h.imp_right (inStmts_eq_false_of hfollow body)
  | .loop _ _ body otherwise _, h => by
    rw [inStmt, orElse_eq_false_iff, orElse_eq_false_iff, orElse_eq_false_iff] at h ⊢
    exact h.imp_right fun h => h.imp (inStmts_eq_false_of hfollow body) fun h =>
      h.imp_left (inStmts_eq_false_of hfollow otherwise)
  | .branch _ body elifs otherwise, h => by
    rw [inStmt, orElse_eq_false_iff, orElse_eq_false_iff, orElse_eq_false_iff] at h ⊢
    exact h.imp_right fun h => h.imp (inStmts_eq_false_of hfollow body) fun h =>
      h.imp (inStmts_eq_false_of hfollow elifs) (inStmts_eq_false_of hfollow otherwise)
  | .routine _ _ body, h => by
    rw [inStmt, orElse_eq_false_iff] at h ⊢
    exact h.imp_right (inStmts_eq_false_of hfollow body)
  | .callBlock _ _ body, h => by
    rw [inStmt, orElse_eq_false_iff] at h ⊢
    exact h.imp_right (inStmts_eq_false_of hfollow body)
  | .filterBlock _ body, h => by
    rw [inStmt, orElse_eq_false_iff] at h ⊢
    exact h.imp_left (inStmts_eq_false_of hfollow body)
  | .binding _ _ body, h => by
    rw [inStmt, orElse_eq_false_iff] at h ⊢
    exact h.imp_right (inStmts_eq_false_of hfollow body)
  | .block _ body, h => by
    rw [inStmt] at h ⊢
    exact inStmts_eq_false_of hfollow body h
  | .escaping _ body, h => by
    rw [inStmt, orElse_eq_false_iff] at h ⊢
    exact h.imp_right (inStmts_eq_false_of hfollow body)

/-- Statements that are harmless stay so if every harmless reference does. -/
theorem inStmts_eq_false_of
    (hfollow : ∀ name, follow name = .ok false → follow' name = .ok false) : ∀ stmts : List Stmt,
    inStmts follow stmts = .ok false → inStmts follow' stmts = .ok false
  | [], _ => by rw [inStmts]
  | s :: stmts, h => by
    rw [inStmts, orElse_eq_false_iff] at h ⊢
    exact h.imp (inStmt_eq_false_of hfollow s) (inStmts_eq_false_of hfollow stmts)

end

end

/-- In harmless statements no node is suspicious, and every reference is harmless. -/
theorem not_flagged_of_inStmts {follow : String → Except Fault Bool} {stmts : List Stmt}
    (h : inStmts follow stmts = .ok false) {s : Stmt} (hs : s ∈ stmts) {m : Node}
    (hm : m.Within (.stmt s)) :
    m.isSuspicious = false ∧ ∀ name ∈ m.references, follow name = .ok false := by
  -- with every other answer taken for a redirect, there is an answer for all references
  let sure : String → Except Fault Bool := fun name => .ok (!decide (follow name = .ok false))
  have hsure : inStmts sure stmts = .ok false :=
    inStmts_eq_false_of (fun name hname => by simp [sure, hname]) stmts h
  have hanswers : ∀ name, ∃ b, sure name = .ok b := fun name => ⟨_, rfl⟩
  have hdecides := decides_inStmts hanswers stmts
  have hnone : ¬m.Flags sure := by
    intro hflags
    have hflagged := hdecides.eq_ok_iff.mpr ⟨s, hs, m, hm, hflags⟩
    rw [hsure] at hflagged
    cases hflagged
  rw [Node.Flags, not_or] at hnone
  refine ⟨by simpa using hnone.1, fun name hname => ?_⟩
  by_contra hfollow
  exact hnone.2 ⟨name, hname, by simp [sure, hfollow]⟩

/-- **A template that counts as harmless reaches no suspicious one**, also if the library has
templates that cannot be read. -/
theorem not_reachesOff_of_mayRedirect {library : Library} (visited : List String) (name : String)
    (h : mayRedirect library visited name = .ok false) : ¬ReachesOff library visited name := by
  induction visited, name using mayRedirect.induct library with
  | case1 visited name hvisited =>
    rw [reachesOff_iff]
    rw [List.contains_iff_mem] at hvisited
    simp [hvisited]
  | case2 visited name hnew hunknown =>
    rw [reachesOff_iff]
    simp [Suspicious, RefersTo, not_hasNode_of_unknown hunknown]
  | case3 visited name hnew fragment hknown fault hfault =>
    rw [mayRedirect_of_known hnew hknown, hfault] at h
    cases h
  | case4 visited name hnew fragment hknown stmts hstmts ih =>
    rw [mayRedirect_of_known hnew hknown, hstmts] at h
    have htree : tree? library name = some stmts := tree?_of_known hknown hstmts
    rw [reachesOff_iff, not_and, not_or]
    refine fun _ => ⟨?_, ?_⟩
    · rintro ⟨stmts', htree', s, hs, m, hm, hsuspicious⟩
      obtain rfl := Option.some.inj (htree.symm.trans htree')
      rw [(not_flagged_of_inStmts h hs hm).1] at hsuspicious
      cases hsuspicious
    · rintro ⟨b, ⟨stmts', htree', s, hs, m, hm, hb⟩, hreaches⟩
      obtain rfl := Option.some.inj (htree.symm.trans htree')
      exact ih b ((not_flagged_of_inStmts h hs hm).2 b hb) hreaches

/-! ### Expressions for the carrier -/

/-- The expression may evaluate to the carrier: it is its name, or a choice one of whose results
may evaluate to it. -/
inductive CarrierValued : Expr → Prop where
  | name : CarrierValued (.name carrier)
  | body {test body : Expr} {otherwise : Option Expr} (h : CarrierValued body) :
    CarrierValued (.conditional test body otherwise)
  | otherwise {test body otherwise : Expr} (h : CarrierValued otherwise) :
    CarrierValued (.conditional test body (some otherwise))
  | left {isAnd : Bool} {left right : Expr} (h : CarrierValued left) :
    CarrierValued (.junction isAnd left right)
  | right {isAnd : Bool} {left right : Expr} (h : CarrierValued right) :
    CarrierValued (.junction isAnd left right)

/-- **A choice is never taken for the carrier**, so the analysis takes it for harmless wherever
it stands. -/
theorem CarrierValued.isRiskyArgument_eq_false {e : Expr} (h : CarrierValued e)
    (hne : e ≠ .name carrier) : isRiskyArgument e = false := by
  cases h with
  | name => exact absurd rfl hne
  | body _ => rfl
  | otherwise _ => rfl
  | left _ => rfl
  | right _ => rfl

namespace Node

/-- The node **hands on** the expression: it reads an attribute or an item of it that is not known
as safe, passes it to a call, a filter or a test, or binds it to a name. -/
inductive Hands : Node → Expr → Prop where
  | read {subject : Expr} {name : String} (h : name ∉ safeAccessors) :
    Hands (.expr (.attribute subject name)) subject
  | indexed {subject key : Expr} (h : ∀ name, key = .text name → name ∉ safeAccessors) :
    Hands (.expr (.item subject key)) subject
  | argument {callee arg : Expr} {args : List Expr} (h : arg ∈ args) :
    Hands (.expr (.call callee args)) arg
  | filtered {subject : Expr} {name : String} {args : List Expr} :
    Hands (.expr (.filter (some subject) name args)) subject
  | filterArgument {subject : Option Expr} {name : String} {arg : Expr} {args : List Expr}
    (h : arg ∈ args) : Hands (.expr (.filter subject name args)) arg
  | tested {subject : Expr} {name : String} {args : List Expr} :
    Hands (.expr (.test subject name args)) subject
  | testArgument {subject : Expr} {name : String} {arg : Expr} {args : List Expr}
    (h : arg ∈ args) : Hands (.expr (.test subject name args)) arg
  | assigned {target value : Expr} : Hands (.stmt (.assign target value)) value
  | bound {targets values : List Expr} {value : Expr} {body : List Stmt} (h : value ∈ values) :
    Hands (.stmt (.binding targets values body)) value
  | looped {target iter : Expr} {body otherwise : List Stmt} {test : Option Expr} :
    Hands (.stmt (.loop target iter body otherwise test)) iter

/-- The defaults of the parameters of a macro, or of a call block, which is one without a name. -/
def defaults : Node → List Expr
  | .stmt (.routine _ defaults _) => defaults
  | .stmt (.callBlock _ defaults _) => defaults
  | _ => []

/-- The node **exposes** the expression: another part of a template may get hold of its value. -/
def Exposes (m : Node) (e : Expr) : Prop :=
  m.Hands e ∨ e ∈ m.defaults

/-- **A node that hands on the bare carrier is suspicious.** -/
theorem Hands.isSuspicious_of_name {m : Node} (h : m.Hands (.name carrier)) :
    m.isSuspicious = true := by
  have hcarrier : isCarrier (.name carrier) = true := rfl
  have hany : ∀ {args : List Expr}, Expr.name carrier ∈ args → args.any isRiskyArgument = true :=
    fun hmem => List.any_eq_true.mpr ⟨_, hmem, rfl⟩
  generalize he : Expr.name carrier = e at h hcarrier hany
  cases h with
  | read hname =>
    simp [Node.isSuspicious, Redirect.isSuspicious, hcarrier, hname]
  | @indexed _ key hkey =>
    cases key with
    | text name => simp [Node.isSuspicious, Redirect.isSuspicious, hcarrier, hkey name rfl]
    | _ => simp [Node.isSuspicious, Redirect.isSuspicious, hcarrier]
  | argument hmem => simp only [Node.isSuspicious, Redirect.isSuspicious, hany hmem]
  | filtered => simp [Node.isSuspicious, Redirect.isSuspicious, hcarrier]
  | filterArgument hmem =>
    simp only [Node.isSuspicious, Redirect.isSuspicious, hany hmem, Bool.or_true]
  | tested => simp [Node.isSuspicious, Redirect.isSuspicious, hcarrier]
  | testArgument hmem =>
    simp only [Node.isSuspicious, Redirect.isSuspicious, hany hmem, Bool.or_true]
  | assigned => exact hcarrier
  | bound hmem => exact List.any_eq_true.mpr ⟨_, hmem, hcarrier⟩
  | looped => exact hcarrier

end Node

/-! ### What harmless templates expose -/

/-- The template can be **reached** from the start by references. -/
def Reaches (library : Library) (start name : String) : Prop :=
  Relation.ReflTransGen (RefersTo library) start name

/-- No template that can be reached from the start exposes an expression for the carrier. -/
def ExposesNothing (library : Library) (start : String) : Prop :=
  ∀ name, Reaches library start name → ∀ e, CarrierValued e →
    ¬HasNode library name fun m => m.Exposes e

/-- **What a harmless template exposes.**  If a template counts as harmless, no template that it
can reach hands on the bare name of the carrier.  So none exposes an expression for the carrier at
all exactly if none hands on a choice that may evaluate to the carrier, and none has such a choice
or the carrier as the default of a parameter.  The analysis itself takes any such choice for
harmless. -/
theorem exposes_nothing_iff {library : Library} {start : String}
    (h : mayRedirect library [] start = .ok false) :
    (∀ name, Reaches library start name →
      ¬HasNode library name fun m => m.Hands (.name carrier)) ∧
    (ExposesNothing library start ↔ ∀ name, Reaches library start name → ∀ e, CarrierValued e →
      (e ≠ .name carrier → ¬HasNode library name fun m => m.Hands e) ∧
        ¬HasNode library name fun m => e ∈ m.defaults) ∧
    ∀ e, CarrierValued e → e ≠ .name carrier → isRiskyArgument e = false := by
  have hname : ∀ name, Reaches library start name →
      ¬HasNode library name fun m => m.Hands (.name carrier) := by
    rintro name hreaches ⟨stmts, htree, s, hs, m, hm, hhands⟩
    have hsuspicious : Suspicious library name :=
      ⟨stmts, htree, s, hs, m, hm, hhands.isSuspicious_of_name⟩
    exact not_reachesOff_of_mayRedirect [] start h
      (reachesOff_nil_iff.mpr ⟨name, hreaches, hsuspicious⟩)
  refine ⟨hname, ?_, fun e he hne => he.isRiskyArgument_eq_false hne⟩
  have hor : ∀ name e, (HasNode library name fun m => m.Exposes e) ↔
      (HasNode library name fun m => m.Hands e) ∨ HasNode library name fun m => e ∈ m.defaults :=
    fun name e => by simp only [HasNode, Node.Exposes, and_or_left, exists_or]
  constructor
  · intro hnothing name hreaches e he
    have hnone := hnothing name hreaches e he
    rw [hor, not_or] at hnone
    exact ⟨fun _ => hnone.1, hnone.2⟩
  · intro hchoices name hreaches e he
    obtain ⟨hhands, hdefaults⟩ := hchoices name hreaches e he
    rw [hor, not_or]
    refine ⟨?_, hdefaults⟩
    by_cases hbare : e = .name carrier
    · rw [hbare]
      exact hname name hreaches
    · exact hhands hbare

/-- The tree reads the result from the carrier and writes it. -/
def writesResult : List Stmt → Bool
  | [.output [.attribute (.name "data") "result"]] => true
  | _ => false

theorem eq_of_writesResult {stmts : List Stmt} (h : writesResult stmts = true) :
    stmts = [.output [.attribute (.name "data") "result"]] := by
  unfold writesResult at h
  split at h
  · rfl
  · cases h

/-- A template that reads the result only: by the criterion nothing is exposed, since it holds no
choice and no default. -/
theorem exposes_nothing_iff_accessor :
    let library : Library := ⟨[], [⟨"GET /", "\x7b\x7b data.result \x7d\x7d", none⟩]⟩
    mayRedirect library [] "GET /" = .ok false ∧ ExposesNothing library "GET /" := by
  intro library
  obtain ⟨hresult, hany⟩ : (mayRedirect library [] "GET /").toOption = some false ∧
      (tree? library "GET /").any writesResult = true := by
    decide +kernel
  have h : mayRedirect library [] "GET /" = .ok false := Except.toOption_eq_some.mp hresult
  obtain ⟨stmts, hstmts, hshape⟩ := (Option.any_eq_true _ _).mp hany
  obtain rfl := eq_of_writesResult hshape
  have hnode : ∀ p, HasNode library "GET /" p →
      p (.stmt (.output [.attribute (.name "data") "result"])) ∨
        p (.expr (.attribute (.name "data") "result")) ∨ p (.expr (.name "data")) := by
    rintro p ⟨stmts, htree, s, hs, m, hm, hp⟩
    obtain rfl := Option.some.inj (hstmts.symm.trans htree)
    obtain rfl := List.mem_singleton.mp hs
    cases hm with
    | self => exact Or.inl hp
    | child hc hm =>
      obtain rfl := List.mem_singleton.mp hc
      cases hm with
      | self => exact Or.inr (Or.inl hp)
      | child hc hm =>
        obtain rfl := List.mem_singleton.mp hc
        cases hm with
        | self => exact Or.inr (Or.inr hp)
        | child hc _ => cases hc
  have hreaches : ∀ name, Reaches library "GET /" name → name = "GET /" := by
    intro name hname
    induction hname with
    | refl => rfl
    | tail _ hrefers ih =>
      subst ih
      rcases hnode _ hrefers with h | h | h <;> cases h
  refine ⟨h, (exposes_nothing_iff h).2.1.mpr fun name hname e he => ?_⟩
  obtain rfl := hreaches name hname
  refine ⟨fun hne hhands => ?_, fun hdefaults => ?_⟩
  · rcases hnode _ hhands with h | h | h
    · cases h
    · cases h
      exact hne rfl
    · cases h
  · rcases hnode _ hdefaults with h | h | h <;> cases h

/-- A template that redirects by the carrier read from a junction. -/
def junctionLibrary : Library :=
  ⟨[], [⟨"GET /", "\x7b\x7b (data or x)['redirect']('/') \x7d\x7d", none⟩]⟩

/-- A template that redirects by a parameter whose default is the carrier. -/
def defaultLibrary : Library :=
  ⟨[], [⟨"GET /", "\x7b% macro f(d=data) %\x7d\x7b\x7b d['redirect']('/') \x7d\x7d" ++
    "\x7b% endmacro %\x7d\x7b\x7b f() \x7d\x7d", none⟩]⟩

/-- The tree calls `redirect` of a junction whose first operand is the carrier. -/
def redirectsByJunction : List Stmt → Bool
  | [.output [.call (.item (.junction _ (.name "data") _) (.text "redirect")) _]] => true
  | _ => false

theorem exists_of_redirectsByJunction {stmts : List Stmt} (h : redirectsByJunction stmts = true) :
    ∃ isAnd right args, stmts = [.output
      [.call (.item (.junction isAnd (.name carrier) right) (.text "redirect")) args]] := by
  unfold redirectsByJunction at h
  split at h
  · exact ⟨_, _, _, rfl⟩
  · cases h

/-- The tree begins with a macro whose only default is the carrier. -/
def defaultsToCarrier : List Stmt → Bool
  | .routine _ [.name "data"] _ :: _ => true
  | _ => false

theorem exists_of_defaultsToCarrier {stmts : List Stmt} (h : defaultsToCarrier stmts = true) :
    ∃ params body rest, stmts = .routine params [.name carrier] body :: rest := by
  unfold defaultsToCarrier at h
  split at h
  · exact ⟨_, _, _, rfl⟩
  · cases h

/-- Both templates count as harmless, and both expose an expression for the carrier. -/
theorem exposes_of_harmless :
    (mayRedirect junctionLibrary [] "GET /" = .ok false ∧
      ¬ExposesNothing junctionLibrary "GET /") ∧
    mayRedirect defaultLibrary [] "GET /" = .ok false ∧
      ¬ExposesNothing defaultLibrary "GET /" := by
  -- each template is read once, for the analysis and for the shape of its tree
  have hjunction : (mayRedirect junctionLibrary [] "GET /").toOption = some false ∧
      (tree? junctionLibrary "GET /").any redirectsByJunction = true := by
    decide +kernel
  have hdefault : (mayRedirect defaultLibrary [] "GET /").toOption = some false ∧
      (tree? defaultLibrary "GET /").any defaultsToCarrier = true := by
    decide +kernel
  refine ⟨⟨Except.toOption_eq_some.mp hjunction.1, fun hnothing => ?_⟩,
    Except.toOption_eq_some.mp hdefault.1, fun hnothing => ?_⟩
  · obtain ⟨stmts, hstmts, hshape⟩ := (Option.any_eq_true _ _).mp hjunction.2
    obtain ⟨isAnd, right, args, rfl⟩ := exists_of_redirectsByJunction hshape
    let choice : Expr := .junction isAnd (.name carrier) right
    have hread : (Node.expr (.item choice (.text "redirect"))).Within
        (.stmt (.output [.call (.item choice (.text "redirect")) args])) :=
      .child List.mem_cons_self (.child List.mem_cons_self (.self _))
    have hhands : (Node.expr (.item choice (.text "redirect"))).Hands choice :=
      .indexed (by simp [safeAccessors])
    exact hnothing "GET /" .refl choice (.left .name)
      ⟨_, hstmts, _, List.mem_singleton_self _, _, hread, .inl hhands⟩
  · obtain ⟨stmts, hstmts, hshape⟩ := (Option.any_eq_true _ _).mp hdefault.2
    obtain ⟨params, body, rest, rfl⟩ := exists_of_defaultsToCarrier hshape
    exact hnothing "GET /" .refl (.name carrier) .name
      ⟨_, hstmts, _, List.mem_cons_self, _, .self _, .inr (List.mem_singleton_self _)⟩

end FragmentRoutes.Redirect
