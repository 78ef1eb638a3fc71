import FragmentRoutes.Code.Stmt
import Mathlib.Data.List.Basic

/-!
# What code consists of

The expressions in an expression or a statement, at any depth and in the order in which they are
written.  The names that an expression mentions and the callees of the calls in it are read off
them.
-/

namespace FragmentRoutes.Code

/-! ### Expressions -/

/-- The name that an expression is. -/
def Expr.name? : Expr → Option String
  | .name id => some id
  | _ => none

/-- The callee of the call that an expression is. -/
def Expr.callee? : Expr → Option Expr
  | .call callee _ _ => some callee
  | _ => none

mutual

/-- The expression and those in it. -/
def Expr.subterms : Expr → List Expr
  | .name id => [.name id]
  | .constant value => [.constant value]
  | .attribute value name => .attribute value name :: value.subterms
  | .subscript value index => .subscript value index :: (value.subterms ++ index.subterms)
  | .call callee args keywords =>
    .call callee args keywords ::
      (callee.subterms ++ Expr.subtermsOf args ++ Expr.keywordSubterms keywords)
  | .starred value => .starred value :: value.subterms
  | .unary op operand => .unary op operand :: operand.subterms
  | .binary left op right => .binary left op right :: (left.subterms ++ right.subterms)
  | .boolean op operands => .boolean op operands :: Expr.subtermsOf operands
  | .compare first rest => .compare first rest :: (first.subterms ++ Expr.comparedSubterms rest)
  | .conditional test body otherwise =>
    .conditional test body otherwise :: (test.subterms ++ body.subterms ++ otherwise.subterms)
  | .lambda params body => .lambda params body :: (Param.subtermsOf params ++ body.subterms)
  | .tuple items => .tuple items :: Expr.subtermsOf items
  | .list items => .list items :: Expr.subtermsOf items
  | .set items => .set items :: Expr.subtermsOf items
  | .dict items => .dict items :: Expr.entrySubterms items
  | .listOf element clauses =>
    .listOf element clauses :: (element.subterms ++ Clause.subtermsOf clauses)
  | .setOf element clauses =>
    .setOf element clauses :: (element.subterms ++ Clause.subtermsOf clauses)
  | .generator element clauses =>
    .generator element clauses :: (element.subterms ++ Clause.subtermsOf clauses)
  | .dictOf key value clauses =>
    .dictOf key value clauses :: (key.subterms ++ value.subterms ++ Clause.subtermsOf clauses)
  | .await value => .await value :: value.subterms
  | .yield value => .yield value :: Expr.optionalSubterms value
  | .yieldFrom value => .yieldFrom value :: value.subterms
  | .binding name value => .binding name value :: value.subterms
  | .template parts => .template parts :: TemplatePart.subtermsOf parts
  | .slice lower upper step =>
    .slice lower upper step :: (Expr.optionalSubterms lower ++ Expr.optionalSubterms upper ++
      Expr.optionalSubterms step)

/-- The expressions and those in them. -/
def Expr.subtermsOf : List Expr → List Expr
  | [] => []
  | e :: es => e.subterms ++ Expr.subtermsOf es

/-- The expression, if there is one, and those in it. -/
def Expr.optionalSubterms : Option Expr → List Expr
  | none => []
  | some e => e.subterms

/-- The values of keyword arguments and the expressions in them. -/
def Expr.keywordSubterms : List (Option String × Expr) → List Expr
  | [] => []
  | (_, e) :: rest => e.subterms ++ Expr.keywordSubterms rest

/-- The operands of comparisons after the first and the expressions in them. -/
def Expr.comparedSubterms : List (CompareOp × Expr) → List Expr
  | [] => []
  | (_, e) :: rest => e.subterms ++ Expr.comparedSubterms rest

/-- The keys and values of a dictionary and the expressions in them. -/
def Expr.entrySubterms : List (Option Expr × Expr) → List Expr
  | [] => []
  | (none, value) :: rest => value.subterms ++ Expr.entrySubterms rest
  | (some key, value) :: rest => key.subterms ++ value.subterms ++ Expr.entrySubterms rest

/-- The expressions in the clauses of a comprehension. -/
def Clause.subtermsOf : List Clause → List Expr
  | [] => []
  | .mk _ target iter conditions :: rest =>
    target.subterms ++ iter.subterms ++ Expr.subtermsOf conditions ++ Clause.subtermsOf rest

/-- The expressions in the pieces of a text. -/
def TemplatePart.subtermsOf : List TemplatePart → List Expr
  | [] => []
  | .literal _ :: rest => TemplatePart.subtermsOf rest
  | .value expr _ none :: rest => expr.subterms ++ TemplatePart.subtermsOf rest
  | .value expr _ (some format) :: rest =>
    expr.subterms ++ TemplatePart.subtermsOf format ++ TemplatePart.subtermsOf rest

/-- The types and defaults of parameters and the expressions in them. -/
def Param.subtermsOf : List Param → List Expr
  | [] => []
  | .mk _ _ type default :: rest =>
    Expr.optionalSubterms type ++ Expr.optionalSubterms default ++ Param.subtermsOf rest

end

attribute [simp] Expr.subterms Expr.subtermsOf Expr.optionalSubterms Expr.keywordSubterms
  Expr.comparedSubterms Expr.entrySubterms Param.subtermsOf

theorem Expr.subtermsOf_eq_flatMap (es : List Expr) :
    Expr.subtermsOf es = es.flatMap Expr.subterms := by
  induction es with
  | nil => rw [Expr.subtermsOf, List.flatMap_nil]
  | cons e es ih => rw [Expr.subtermsOf, List.flatMap_cons, ih]

mutual

/-- The expressions in a statement, at any depth. -/
def Stmt.subterms : Stmt → List Expr
  | .expr value => value.subterms
  | .assign target value => target.subterms ++ value.subterms
  | .typedAssign target type value => target.subterms ++ type.subterms ++ value.subterms
  | .ret value => value.subterms
  | .pass => []
  | .ifElse test body otherwise =>
    test.subterms ++ Stmt.subtermsOf body ++ Stmt.subtermsOf otherwise
  | .attempt body error _ handler otherwise =>
    Stmt.subtermsOf body ++ error.subterms ++ Stmt.subtermsOf handler ++ Stmt.subtermsOf otherwise
  | .each target iter body => target.subterms ++ iter.subterms ++ Stmt.subtermsOf body
  | .function _ _ params returns body =>
    Param.subtermsOf params ++ returns.subterms ++ Stmt.subtermsOf body
  | .classDef _ bases body => Expr.subtermsOf bases ++ Stmt.subtermsOf body
  | .importModule _ => []
  | .importFrom _ _ => []

/-- The expressions in statements, at any depth. -/
def Stmt.subtermsOf : List Stmt → List Expr
  | [] => []
  | s :: ss => s.subterms ++ Stmt.subtermsOf ss

end

attribute [simp] Stmt.subterms Stmt.subtermsOf

/-! ### Names -/

/-- The names that an expression mentions. -/
def Expr.names (e : Expr) : List String :=
  e.subterms.filterMap Expr.name?

/-- The names that a statement mentions, at any depth. -/
def Stmt.names (s : Stmt) : List String :=
  s.subterms.filterMap Expr.name?

@[simp]
theorem Expr.names_name (id : String) : (Expr.name id).names = [id] := by
  rw [Expr.names, Expr.subterms]
  rfl

@[simp]
theorem Expr.names_constant (value : Constant) : (Expr.constant value).names = [] := by
  rw [Expr.names, Expr.subterms]
  rfl

@[simp]
theorem Expr.names_absent : Expr.absent.names = [] :=
  Expr.names_constant _

@[simp]
theorem Expr.names_attribute (value : Expr) (name : String) :
    (Expr.attribute value name).names = value.names := by
  rw [Expr.names, Expr.subterms]
  rfl

@[simp]
theorem Expr.names_attrs (value : Expr) (path : List String) :
    (value.attrs path).names = value.names := by
  induction path generalizing value with
  | nil => rfl
  | cons name path ih =>
    have hattrs : value.attrs (name :: path) = (Expr.attribute value name).attrs path := rfl
    rw [hattrs, ih, Expr.names_attribute]

@[simp]
theorem Expr.names_subscript (value index : Expr) :
    (Expr.subscript value index).names = value.names ++ index.names := by
  rw [Expr.names, Expr.subterms, List.filterMap_cons_none rfl, List.filterMap_append]
  rfl

@[simp]
theorem Expr.names_binary (left : Expr) (op : BinaryOp) (right : Expr) :
    (Expr.binary left op right).names = left.names ++ right.names := by
  rw [Expr.names, Expr.subterms, List.filterMap_cons_none rfl, List.filterMap_append]
  rfl

theorem Expr.filterMap_subtermsOf (es : List Expr) :
    (Expr.subtermsOf es).filterMap Expr.name? = es.flatMap Expr.names := by
  rw [Expr.subtermsOf_eq_flatMap, List.filterMap_flatMap]
  rfl

@[simp]
theorem Expr.names_tuple (items : List Expr) :
    (Expr.tuple items).names = items.flatMap Expr.names := by
  rw [Expr.names, Expr.subterms, List.filterMap_cons_none rfl, Expr.filterMap_subtermsOf]

@[simp]
theorem Expr.names_list (items : List Expr) :
    (Expr.list items).names = items.flatMap Expr.names := by
  rw [Expr.names, Expr.subterms, List.filterMap_cons_none rfl, Expr.filterMap_subtermsOf]

/-! ### Calls -/

/-- The callees of the calls in an expression. -/
def Expr.callees (e : Expr) : List Expr :=
  e.subterms.filterMap Expr.callee?

/-- The callees of the calls in a statement. -/
def Stmt.callees (s : Stmt) : List Expr :=
  s.subterms.filterMap Expr.callee?

/-- The callees of the calls in statements. -/
def Stmt.calleesOf (ss : List Stmt) : List Expr :=
  ss.flatMap Stmt.callees

theorem Expr.filterMap_callee?_subtermsOf (es : List Expr) :
    (Expr.subtermsOf es).filterMap Expr.callee? = es.flatMap Expr.callees := by
  rw [Expr.subtermsOf_eq_flatMap, List.filterMap_flatMap]
  rfl

theorem Stmt.filterMap_callee?_subtermsOf (ss : List Stmt) :
    (Stmt.subtermsOf ss).filterMap Expr.callee? = Stmt.calleesOf ss := by
  induction ss with
  | nil => rw [Stmt.subtermsOf]; rfl
  | cons s ss ih => rw [Stmt.subtermsOf, List.filterMap_append, ih]; rfl

@[simp]
theorem Expr.callees_name (id : String) : (Expr.name id).callees = [] := by
  rw [Expr.callees, Expr.subterms]
  rfl

@[simp]
theorem Expr.callees_constant (value : Constant) : (Expr.constant value).callees = [] := by
  rw [Expr.callees, Expr.subterms]
  rfl

@[simp]
theorem Expr.callees_text (value : String) : (Expr.text value).callees = [] :=
  Expr.callees_constant _

@[simp]
theorem Expr.callees_int (value : Int) : (Expr.int value).callees = [] :=
  Expr.callees_constant _

@[simp]
theorem Expr.callees_absent : Expr.absent.callees = [] :=
  Expr.callees_constant _

@[simp]
theorem Expr.callees_attribute (value : Expr) (name : String) :
    (Expr.attribute value name).callees = value.callees := by
  rw [Expr.callees, Expr.subterms]
  rfl

@[simp]
theorem Expr.callees_attrs (value : Expr) (path : List String) :
    (value.attrs path).callees = value.callees := by
  induction path generalizing value with
  | nil => rfl
  | cons name path ih =>
    have hattrs : value.attrs (name :: path) = (Expr.attribute value name).attrs path := rfl
    rw [hattrs, ih, Expr.callees_attribute]

@[simp]
theorem Expr.callees_subscript (value index : Expr) :
    (Expr.subscript value index).callees = value.callees ++ index.callees := by
  rw [Expr.callees, Expr.subterms, List.filterMap_cons_none rfl, List.filterMap_append]
  rfl

@[simp]
theorem Expr.callees_call (callee : Expr) (args : List Expr)
    (keywords : List (Option String × Expr)) :
    (Expr.call callee args keywords).callees =
      callee :: (callee.callees ++ args.flatMap Expr.callees ++
        keywords.flatMap fun keyword => keyword.2.callees) := by
  have hkeywords : (Expr.keywordSubterms keywords).filterMap Expr.callee? =
      keywords.flatMap fun keyword => keyword.2.callees := by
    induction keywords with
    | nil => rw [Expr.keywordSubterms]; rfl
    | cons keyword keywords ih => rw [Expr.keywordSubterms, List.filterMap_append, ih]; rfl
  have hself : (Expr.call callee args keywords).callee? = some callee := rfl
  rw [Expr.callees, Expr.subterms, List.filterMap_cons_some hself, List.filterMap_append,
    List.filterMap_append, Expr.filterMap_callee?_subtermsOf, hkeywords]
  rfl

@[simp]
theorem Expr.callees_apply (callee : Expr) (args : List Expr) :
    (callee.apply args).callees = callee :: (callee.callees ++ args.flatMap Expr.callees) := by
  rw [Expr.apply, Expr.callees_call, List.flatMap_nil, List.append_nil]

@[simp]
theorem Expr.callees_applyName (callee : String) (args : List Expr) :
    (Expr.applyName callee args).callees = .name callee :: args.flatMap Expr.callees := by
  rw [Expr.applyName, Expr.callees_call]
  simp

@[simp]
theorem Expr.callees_unary (op : UnaryOp) (operand : Expr) :
    (Expr.unary op operand).callees = operand.callees := by
  rw [Expr.callees, Expr.subterms]
  rfl

@[simp]
theorem Expr.callees_binary (left : Expr) (op : BinaryOp) (right : Expr) :
    (Expr.binary left op right).callees = left.callees ++ right.callees := by
  rw [Expr.callees, Expr.subterms, List.filterMap_cons_none rfl, List.filterMap_append]
  rfl

@[simp]
theorem Expr.callees_boolean (op : BoolOp) (operands : List Expr) :
    (Expr.boolean op operands).callees = operands.flatMap Expr.callees := by
  rw [Expr.callees, Expr.subterms, List.filterMap_cons_none rfl, Expr.filterMap_callee?_subtermsOf]

@[simp]
theorem Expr.callees_compare (first : Expr) (rest : List (CompareOp × Expr)) :
    (Expr.compare first rest).callees =
      first.callees ++ rest.flatMap fun operand => operand.2.callees := by
  have hrest : (Expr.comparedSubterms rest).filterMap Expr.callee? =
      rest.flatMap fun operand => operand.2.callees := by
    induction rest with
    | nil => rw [Expr.comparedSubterms]; rfl
    | cons operand rest ih => rw [Expr.comparedSubterms, List.filterMap_append, ih]; rfl
  rw [Expr.callees, Expr.subterms, List.filterMap_cons_none rfl, List.filterMap_append, hrest]
  rfl

@[simp]
theorem Expr.callees_conditional (test body otherwise : Expr) :
    (Expr.conditional test body otherwise).callees =
      test.callees ++ body.callees ++ otherwise.callees := by
  rw [Expr.callees, Expr.subterms, List.filterMap_cons_none rfl, List.filterMap_append,
    List.filterMap_append]
  rfl

@[simp]
theorem Expr.callees_tuple (items : List Expr) :
    (Expr.tuple items).callees = items.flatMap Expr.callees := by
  rw [Expr.callees, Expr.subterms, List.filterMap_cons_none rfl, Expr.filterMap_callee?_subtermsOf]

@[simp]
theorem Expr.callees_list (items : List Expr) :
    (Expr.list items).callees = items.flatMap Expr.callees := by
  rw [Expr.callees, Expr.subterms, List.filterMap_cons_none rfl, Expr.filterMap_callee?_subtermsOf]

@[simp]
theorem Expr.callees_dict (entries : List (Option Expr × Expr)) :
    (Expr.dict entries).callees =
      entries.flatMap fun entry => entry.1.elim [] Expr.callees ++ entry.2.callees := by
  have hentries : (Expr.entrySubterms entries).filterMap Expr.callee? =
      entries.flatMap fun entry => entry.1.elim [] Expr.callees ++ entry.2.callees := by
    induction entries with
    | nil => rw [Expr.entrySubterms]; rfl
    | cons entry entries ih =>
      obtain ⟨key, value⟩ := entry
      cases key with
      | none => rw [Expr.entrySubterms, List.filterMap_append, ih]; rfl
      | some key =>
        rw [Expr.entrySubterms, List.filterMap_append, List.filterMap_append, ih]
        rfl
  rw [Expr.callees, Expr.subterms, List.filterMap_cons_none rfl, hentries]

@[simp]
theorem Expr.callees_await (value : Expr) : (Expr.await value).callees = value.callees := by
  rw [Expr.callees, Expr.subterms]
  rfl

@[simp]
theorem Stmt.callees_expr (value : Expr) : (Stmt.expr value).callees = value.callees := by
  rw [Stmt.callees, Stmt.subterms]
  rfl

@[simp]
theorem Stmt.callees_assign (target value : Expr) :
    (Stmt.assign target value).callees = target.callees ++ value.callees := by
  rw [Stmt.callees, Stmt.subterms, List.filterMap_append]
  rfl

@[simp]
theorem Stmt.callees_set (name : String) (value : Expr) :
    (Stmt.set name value).callees = value.callees := by
  rw [Stmt.set, Stmt.callees_assign, Expr.callees_name, List.nil_append]

@[simp]
theorem Stmt.callees_setAttribute (owner name : String) (value : Expr) :
    (Stmt.setAttribute owner name value).callees = value.callees := by
  rw [Stmt.setAttribute, Stmt.callees_assign]
  simp

@[simp]
theorem Stmt.callees_ret (value : Expr) : (Stmt.ret value).callees = value.callees := by
  rw [Stmt.callees, Stmt.subterms]
  rfl

@[simp]
theorem Stmt.callees_ifElse (test : Expr) (body otherwise : List Stmt) :
    (Stmt.ifElse test body otherwise).callees =
      test.callees ++ Stmt.calleesOf body ++ Stmt.calleesOf otherwise := by
  rw [Stmt.callees, Stmt.subterms, List.filterMap_append, List.filterMap_append,
    Stmt.filterMap_callee?_subtermsOf, Stmt.filterMap_callee?_subtermsOf]
  rfl

@[simp]
theorem Stmt.callees_when (test : Expr) (body : List Stmt) :
    (Stmt.when test body).callees = test.callees ++ Stmt.calleesOf body := by
  rw [Stmt.when, Stmt.callees_ifElse]
  exact List.append_nil _

@[simp]
theorem Stmt.callees_attempt (body : List Stmt) (error : Expr) (name : Option String)
    (handler otherwise : List Stmt) :
    (Stmt.attempt body error name handler otherwise).callees =
      Stmt.calleesOf body ++ error.callees ++ Stmt.calleesOf handler ++
        Stmt.calleesOf otherwise := by
  rw [Stmt.callees, Stmt.subterms, List.filterMap_append, List.filterMap_append,
    List.filterMap_append, Stmt.filterMap_callee?_subtermsOf, Stmt.filterMap_callee?_subtermsOf,
    Stmt.filterMap_callee?_subtermsOf]
  rfl

@[simp]
theorem Stmt.callees_each (target iter : Expr) (body : List Stmt) :
    (Stmt.each target iter body).callees =
      target.callees ++ iter.callees ++ Stmt.calleesOf body := by
  rw [Stmt.callees, Stmt.subterms, List.filterMap_append, List.filterMap_append,
    Stmt.filterMap_callee?_subtermsOf]
  rfl

@[simp]
theorem Stmt.callees_function (isAsync : Bool) (name : String) (params : List Param)
    (returns : Expr) (body : List Stmt) :
    (Stmt.function isAsync name params returns body).callees =
      (Param.subtermsOf params).filterMap Expr.callee? ++ returns.callees ++
        Stmt.calleesOf body := by
  rw [Stmt.callees, Stmt.subterms, List.filterMap_append, List.filterMap_append,
    Stmt.filterMap_callee?_subtermsOf]
  rfl

@[simp]
theorem Stmt.calleesOf_nil : Stmt.calleesOf [] = [] :=
  rfl

@[simp]
theorem Stmt.calleesOf_cons (s : Stmt) (ss : List Stmt) :
    Stmt.calleesOf (s :: ss) = s.callees ++ Stmt.calleesOf ss :=
  List.flatMap_cons

@[simp]
theorem Stmt.calleesOf_append (ss ts : List Stmt) :
    Stmt.calleesOf (ss ++ ts) = Stmt.calleesOf ss ++ Stmt.calleesOf ts :=
  List.flatMap_append

end FragmentRoutes.Code
