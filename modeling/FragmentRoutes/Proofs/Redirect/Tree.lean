import FragmentRoutes.Redirect
import Mathlib.Data.List.Basic

/-!
# Nodes of a template

The analysis walks expressions and statements in functions of their own, with early exits and
in a fixed order.  Here both are nodes of one tree: a node has children, and lies within another
if it is that node or lies within a child of it (`Node.Within`).

`inExpr` answers whether a node that flags a redirect lies within an expression (`inExpr_iff`),
and `inStmts` whether one lies within statements, if there is an answer for every reference
(`decides_inStmts`).  A node flags a redirect by itself or by a reference to a template that may
redirect (`Node.Flags`).
-/

namespace FragmentRoutes.Redirect

open Template

/-! ### Nodes -/

/-- The expressions that an expression is made of. -/
def operands : Expr → List Expr
  | .name _ => []
  | .spaceName _ _ => []
  | .text _ => []
  | .constant => []
  | .tuple items => items
  | .list items => items
  | .dict entries => entries.flatMap fun entry => [entry.1, entry.2]
  | .conditional test body otherwise => test :: body :: otherwise.toList
  | .junction _ left right => [left, right]
  | .operation operands => operands
  | .slice bounds => bounds
  | .attribute subject _ => [subject]
  | .item subject key => [subject, key]
  | .call callee args => callee :: args
  | .filter subject _ args => subject.toList ++ args
  | .test subject _ args => subject :: args

/-- The expressions that a statement holds itself. -/
def heads : Stmt → List Expr
  | .data _ => []
  | .output exprs => exprs
  | .reference template => [template]
  | .assign target value => [target, value]
  | .assignBlock target filter _ => target :: filter.toList
  | .loop target iter _ _ test => target :: iter :: test.toList
  | .branch test _ _ _ => [test]
  | .routine _ defaults _ => defaults
  | .callBlock call defaults _ => call :: defaults
  | .filterBlock filter _ => [filter]
  | .binding targets values _ => targets ++ values
  | .block _ _ => []
  | .escaping option _ => [option]

/-- The statements in a statement. -/
def bodies : Stmt → List Stmt
  | .data _ => []
  | .output _ => []
  | .reference _ => []
  | .assign _ _ => []
  | .assignBlock _ _ body => body
  | .loop _ _ body otherwise _ => body ++ otherwise
  | .branch _ body elifs otherwise => body ++ elifs ++ otherwise
  | .routine _ _ body => body
  | .callBlock _ _ body => body
  | .filterBlock _ body => body
  | .binding _ _ body => body
  | .block _ body => body
  | .escaping _ body => body

/-- A node of the tree of a template. -/
inductive Node where
  | expr (e : Expr)
  | stmt (s : Stmt)

namespace Node

/-- The nodes directly below a node. -/
def children : Node → List Node
  | .expr e => (operands e).map .expr
  | .stmt s => (heads s).map .expr ++ (bodies s).map .stmt

/-- A node lies **within** a node: it is that node, or lies within a child of it. -/
inductive Within : Node → Node → Prop where
  | self (n : Node) : Within n n
  | child {m c n : Node} (hc : c ∈ n.children) (h : Within m c) : Within m n

/-- The node may redirect by itself, whatever it refers to: a suspicious expression, the carrier
as what is assigned, bound or looped over, or a reference by a name that is not constant. -/
def isSuspicious : Node → Bool
  | .expr e => Redirect.isSuspicious e
  | .stmt (.reference template) => (referencedNames template).isNone
  | .stmt (.assign _ value) => isCarrier value
  | .stmt (.loop _ iter _ _ _) => isCarrier iter
  | .stmt (.binding _ values _) => values.any isCarrier
  | .stmt _ => false

/-- The names of the templates that a node refers to by constant names. -/
def references : Node → List String
  | .stmt (.reference template) => (referencedNames template).getD []
  | _ => []

/-- A node **flags** a redirect by itself, or by a reference that `follow` answers so. -/
def Flags (follow : String → Except Fault Bool) (n : Node) : Prop :=
  n.isSuspicious = true ∨ ∃ name ∈ n.references, follow name = .ok true

/-- A node that flags a redirect lies within the node. -/
def Flagged (follow : String → Except Fault Bool) (n : Node) : Prop :=
  ∃ m : Node, m.Within n ∧ m.Flags follow

variable {follow : String → Except Fault Bool}

theorem flagged_iff {n : Node} :
    n.Flagged follow ↔ n.Flags follow ∨ ∃ c ∈ n.children, c.Flagged follow := by
  constructor
  · rintro ⟨m, hm, hflags⟩
    cases hm with
    | self => exact Or.inl hflags
    | child hc h => exact Or.inr ⟨_, hc, m, h, hflags⟩
  · rintro (hflags | ⟨c, hc, m, h, hflags⟩)
    · exact ⟨n, .self n, hflags⟩
    · exact ⟨m, .child hc h, hflags⟩

theorem flagged_expr_iff {e : Expr} :
    (Node.expr e).Flagged follow ↔
      Redirect.isSuspicious e = true ∨ ∃ o ∈ operands e, (Node.expr o).Flagged follow := by
  rw [flagged_iff]
  simp [Flags, children, isSuspicious, references]

theorem flagged_stmt_iff {s : Stmt} :
    (Node.stmt s).Flagged follow ↔
      (Node.stmt s).Flags follow ∨ (∃ e ∈ heads s, (Node.expr e).Flagged follow) ∨
        ∃ t ∈ bodies s, (Node.stmt t).Flagged follow := by
  rw [flagged_iff]
  simp [children, or_and_right, exists_or]

/-- A statement that does not flag a redirect itself leaves that to its parts. -/
theorem flagged_stmt_iff_of_parts {s : Stmt} (hself : (Node.stmt s).isSuspicious = false)
    (hreferences : (Node.stmt s).references = []) :
    (Node.stmt s).Flagged follow ↔
      (∃ e ∈ heads s, (Node.expr e).Flagged follow) ∨
        ∃ t ∈ bodies s, (Node.stmt t).Flagged follow := by
  rw [flagged_stmt_iff, Flags, hself, hreferences]
  simp

end Node

/-! ### Expressions -/

section

variable (follow : String → Except Fault Bool)

mutual

/-- **`inExpr` finds what flags a redirect** in an expression; expressions do not refer to
templates, so the answers for them do not matter. -/
theorem inExpr_iff : ∀ e : Expr,
    inExpr e = true ↔ (Node.expr e).Flagged follow
  | .name id => by
    rw [Node.flagged_expr_iff]
    simp [inExpr, isSuspicious, operands]
  | .spaceName space id => by
    rw [Node.flagged_expr_iff]
    simp [inExpr, isSuspicious, operands]
  | .text value => by
    rw [Node.flagged_expr_iff]
    simp [inExpr, isSuspicious, operands]
  | .constant => by
    rw [Node.flagged_expr_iff]
    simp [inExpr, isSuspicious, operands]
  | .tuple items => by
    rw [Node.flagged_expr_iff, inExpr, inExprs_iff items]
    simp [isSuspicious, operands]
  | .list items => by
    rw [Node.flagged_expr_iff, inExpr, inExprs_iff items]
    simp [isSuspicious, operands]
  | .dict entries => by
    rw [Node.flagged_expr_iff, inExpr, inEntries_iff entries]
    simp [isSuspicious, operands]
  | .conditional test body otherwise => by
    rw [Node.flagged_expr_iff, inExpr, Bool.or_eq_true, Bool.or_eq_true, inExpr_iff test,
      inExpr_iff body, inOptional_iff otherwise]
    simp [isSuspicious, operands, or_assoc]
  | .junction isAnd left right => by
    rw [Node.flagged_expr_iff, inExpr, Bool.or_eq_true, inExpr_iff left, inExpr_iff right]
    simp [isSuspicious, operands]
  | .operation es => by
    rw [Node.flagged_expr_iff, inExpr, inExprs_iff es]
    simp [isSuspicious, operands]
  | .slice bounds => by
    rw [Node.flagged_expr_iff, inExpr, inExprs_iff bounds]
    simp [isSuspicious, operands]
  | .attribute subject name => by
    rw [Node.flagged_expr_iff, inExpr, Bool.or_eq_true, inExpr_iff subject]
    simp [operands]
  | .item subject key => by
    rw [Node.flagged_expr_iff, inExpr, Bool.or_eq_true, Bool.or_eq_true, inExpr_iff subject,
      inExpr_iff key]
    simp [operands, or_assoc]
  | .call callee args => by
    rw [Node.flagged_expr_iff, inExpr, Bool.or_eq_true, Bool.or_eq_true, inExpr_iff callee,
      inExprs_iff args]
    simp [operands, or_assoc]
  | .filter subject name args => by
    rw [Node.flagged_expr_iff, inExpr, Bool.or_eq_true, Bool.or_eq_true, inOptional_iff subject,
      inExprs_iff args]
    simp [operands, or_assoc, or_and_right, exists_or]
  | .test subject name args => by
    rw [Node.flagged_expr_iff, inExpr, Bool.or_eq_true, Bool.or_eq_true, inExpr_iff subject,
      inExprs_iff args]
    simp [operands, or_assoc]

theorem inExprs_iff : ∀ es : List Expr,
    inExprs es = true ↔ ∃ e ∈ es, (Node.expr e).Flagged follow
  | [] => by simp [inExprs]
  | e :: es => by
    rw [inExprs, Bool.or_eq_true, inExpr_iff e, inExprs_iff es, List.exists_mem_cons_iff]

theorem inOptional_iff : ∀ o : Option Expr,
    inOptional o = true ↔ ∃ e ∈ o.toList, (Node.expr e).Flagged follow
  | none => by simp [inOptional]
  | some e => by
    rw [inOptional, inExpr_iff e]
    simp

theorem inEntries_iff : ∀ entries : List (Expr × Expr),
    inEntries entries = true ↔
      ∃ e ∈ entries.flatMap fun entry => [entry.1, entry.2], (Node.expr e).Flagged follow
  | [] => by simp [inEntries]
  | (key, value) :: rest => by
    rw [inEntries, Bool.or_eq_true, Bool.or_eq_true, inExpr_iff key, inExpr_iff value,
      inEntries_iff rest, List.flatMap_cons]
    simp [or_assoc]

end

end

/-! ### Statements -/

/-- There is an answer, and it says whether `p` holds. -/
def Decides (answer : Except Fault Bool) (p : Prop) : Prop :=
  ∃ b, answer = .ok b ∧ (b = true ↔ p)

theorem decides_ok {b : Bool} {p : Prop} (h : b = true ↔ p) : Decides (.ok b) p :=
  ⟨b, rfl, h⟩

theorem Decides.eq_ok_iff {answer : Except Fault Bool} {p : Prop} (h : Decides answer p) :
    answer = .ok true ↔ p := by
  obtain ⟨b, rfl, hb⟩ := h
  rw [Except.ok.injEq, hb]

/-- Answers that say whether the same holds are the same. -/
theorem Decides.eq_of {answer answer' : Except Fault Bool} {p : Prop} (h : Decides answer p)
    (h' : Decides answer' p) : answer = answer' := by
  obtain ⟨b, rfl, hb⟩ := h
  obtain ⟨b', rfl, hb'⟩ := h'
  rw [Bool.eq_iff_iff.mpr (hb.trans hb'.symm)]

theorem Decides.congr {answer : Except Fault Bool} {p q : Prop} (h : Decides answer p)
    (hpq : p ↔ q) : Decides answer q := by
  obtain ⟨b, hb, hp⟩ := h
  exact ⟨b, hb, hp.trans hpq⟩

theorem Decides.orElse {answer : Except Fault Bool} {next : Unit → Except Fault Bool}
    {p q : Prop} (h : Decides answer p) (hnext : Decides (next ()) q) :
    Decides (orElse answer next) (p ∨ q) := by
  obtain ⟨b, rfl, hb⟩ := h
  rw [Redirect.orElse.eq_def]
  cases b with
  | false =>
    refine hnext.congr ?_
    rw [← hb]
    simp
  | true => exact decides_ok (by simp [← hb])

section

variable {follow : String → Except Fault Bool}

theorem decides_anyName (hfollow : ∀ name, ∃ b, follow name = .ok b) : ∀ names : List String,
    Decides (anyName follow names) (∃ name ∈ names, follow name = .ok true)
  | [] => decides_ok (by simp)
  | name :: names => by
    rw [anyName]
    have hname : Decides (follow name) (follow name = .ok true) := by
      obtain ⟨b, hb⟩ := hfollow name
      rw [hb]
      exact decides_ok (by simp)
    refine (hname.orElse (decides_anyName hfollow names)).congr ?_
    rw [List.exists_mem_cons_iff]

mutual

theorem decides_inStmt (hfollow : ∀ name, ∃ b, follow name = .ok b) :
    ∀ s : Stmt, Decides (inStmt follow s) ((Node.stmt s).Flagged follow)
  | .data blank => by
    rw [inStmt, Node.flagged_stmt_iff_of_parts rfl rfl]
    exact decides_ok (by simp [heads, bodies])
  | .output exprs => by
    rw [inStmt, Node.flagged_stmt_iff_of_parts rfl rfl]
    refine (decides_ok (inExprs_iff follow exprs)).congr ?_
    simp [heads, bodies]
  | .reference template => by
    rw [inStmt, Node.flagged_stmt_iff]
    cases hnames : referencedNames template with
    | none =>
      -- a name that is not constant is suspicious by itself
      exact decides_ok (by simp [Node.Flags, Node.isSuspicious, hnames])
    | some names =>
      refine ((decides_anyName hfollow names).orElse
        (decides_ok (inExpr_iff follow template))).congr ?_
      simp [Node.Flags, Node.isSuspicious, Node.references, heads, bodies, hnames]
  | .assign target value => by
    rw [inStmt, Node.flagged_stmt_iff]
    refine decides_ok ?_
    rw [Bool.or_eq_true, Bool.or_eq_true, inExpr_iff follow target, inExpr_iff follow value]
    simp [Node.Flags, Node.isSuspicious, Node.references, heads, bodies, or_assoc]
  | .assignBlock target filter body => by
    rw [inStmt, Node.flagged_stmt_iff_of_parts rfl rfl]
    refine (decides_ok ?_).orElse (decides_inStmts hfollow body)
    rw [Bool.or_eq_true, inExpr_iff follow target, inOptional_iff follow filter, heads,
      List.exists_mem_cons_iff]
  | .loop target iter body otherwise test => by
    rw [inStmt, Node.flagged_stmt_iff]
    have hhead : (isCarrier iter || inExpr target || inExpr iter) = true ↔
        isCarrier iter = true ∨ (Node.expr target).Flagged follow ∨
          (Node.expr iter).Flagged follow := by
      rw [Bool.or_eq_true, Bool.or_eq_true, inExpr_iff follow target, inExpr_iff follow iter,
        or_assoc]
    refine ((decides_ok hhead).orElse ((decides_inStmts hfollow body).orElse
      ((decides_inStmts hfollow otherwise).orElse
        (decides_ok (inOptional_iff follow test))))).congr ?_
    rw [heads, bodies, List.exists_mem_cons_iff, List.exists_mem_cons_iff]
    simp only [Node.Flags, Node.isSuspicious, Node.references, List.mem_append, or_and_right,
      exists_or, List.not_mem_nil, false_and, exists_false, or_false]
    -- the same parts in another order: the test of a loop is looked at after its bodies
    refine iff_of_eq ?_
    ac_rfl
  | .branch test body elifs otherwise => by
    rw [inStmt, Node.flagged_stmt_iff_of_parts rfl rfl]
    refine ((decides_ok (inExpr_iff follow test)).orElse ((decides_inStmts hfollow body).orElse
      ((decides_inStmts hfollow elifs).orElse (decides_inStmts hfollow otherwise)))).congr ?_
    simp [heads, bodies, or_and_right, exists_or]
  | .routine name defaults body => by
    rw [inStmt, Node.flagged_stmt_iff_of_parts rfl rfl]
    exact (decides_ok (inExprs_iff follow defaults)).orElse (decides_inStmts hfollow body)
  | .callBlock call defaults body => by
    rw [inStmt, Node.flagged_stmt_iff_of_parts rfl rfl]
    refine (decides_ok ?_).orElse (decides_inStmts hfollow body)
    rw [Bool.or_eq_true, inExpr_iff follow call, inExprs_iff follow defaults, heads,
      List.exists_mem_cons_iff]
  | .filterBlock filter body => by
    rw [inStmt, Node.flagged_stmt_iff_of_parts rfl rfl]
    refine ((decides_inStmts hfollow body).orElse (decides_ok (inExpr_iff follow filter))).congr ?_
    simp [heads, bodies, or_comm]
  | .binding targets values body => by
    rw [inStmt, Node.flagged_stmt_iff]
    refine ((decides_ok ?_).orElse (decides_inStmts hfollow body)).congr or_assoc
    rw [Bool.or_eq_true, Bool.or_eq_true, inExprs_iff follow targets, inExprs_iff follow values]
    simp [Node.Flags, Node.isSuspicious, Node.references, heads, or_and_right, exists_or,
      or_assoc]
  | .block name body => by
    rw [inStmt, Node.flagged_stmt_iff_of_parts rfl rfl]
    refine (decides_inStmts hfollow body).congr ?_
    simp [heads, bodies]
  | .escaping option body => by
    rw [inStmt, Node.flagged_stmt_iff_of_parts rfl rfl]
    refine ((decides_ok (inExpr_iff follow option)).orElse (decides_inStmts hfollow body)).congr ?_
    simp [heads, bodies]

/-- **`inStmts` finds what flags a redirect** in statements. -/
theorem decides_inStmts (hfollow : ∀ name, ∃ b, follow name = .ok b) :
    ∀ stmts : List Stmt, Decides (inStmts follow stmts)
      (∃ s ∈ stmts, (Node.stmt s).Flagged follow)
  | [] => by
    rw [inStmts]
    exact decides_ok (by simp)
  | s :: stmts => by
    rw [inStmts]
    refine ((decides_inStmt hfollow s).orElse (decides_inStmts hfollow stmts)).congr ?_
    rw [List.exists_mem_cons_iff]

end

end

end FragmentRoutes.Redirect
