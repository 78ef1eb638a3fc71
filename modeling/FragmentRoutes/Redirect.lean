/-
  Which templates may redirect.

  While a template is rendered, the data of the request stands under one name, the
  carrier.  Its accessors are harmless but for those that may redirect.  The analysis
  walks the tree of a template and of every template that it refers to, and takes for
  a redirect what it cannot prove harmless: an accessor that is not known as safe, the
  carrier handed on to a call, a filter, a test, another name or a loop, and a
  reference to a template whose name is not constant.

  A template on the way from the start is not walked again; since every start is
  walked in full, a redirect in it is found where the way began.
-/
import FragmentRoutes.Fragment.Library
import FragmentRoutes.Template.Reader

namespace FragmentRoutes.Redirect

open Template

/-- The name under which the data of the request stands. -/
def carrier : String := "data"

/-- The accessors of the data that never redirect. -/
def safeAccessors : List String := [
  "result", "err", "request", "receiver", "ok", "path", "status_code", "header", "version"]

/-! ### Suspicious expressions -/

/-- The expression is the carrier itself. -/
def isCarrier : Expr → Bool
  | .name id => id == carrier
  | _ => false

/-- The root of a chain of attributes and items is the result of a call. -/
def startsAtCall : Expr → Bool
  | .attribute subject _ => startsAtCall subject
  | .item subject _ => startsAtCall subject
  | .call _ _ => true
  | _ => false

/-- The expression is a chain of attributes and items on the result of a call. -/
def isChainOnCall : Expr → Bool
  | .attribute subject _ => startsAtCall subject
  | .item subject _ => startsAtCall subject
  | _ => false

/-- The argument may carry the data into a call. -/
def isRiskyArgument (e : Expr) : Bool :=
  isCarrier e || isChainOnCall e

/-- The expression may redirect by itself, whatever its operands do. -/
def isSuspicious : Expr → Bool
  | .attribute subject name =>
    name == "redirect" || (isCarrier subject && !safeAccessors.contains name)
  | .item subject key =>
    isCarrier subject && match key with
      | .text name => !safeAccessors.contains name
      | _ => true
  | .call _ args => args.any isRiskyArgument
  | .filter subject _ args => (subject.map isCarrier).getD false || args.any isRiskyArgument
  | .test subject _ args => isCarrier subject || args.any isRiskyArgument
  | _ => false

mutual

/-- The expression or one in it is suspicious. -/
def inExpr : Expr → Bool
  | .name _ => false
  | .spaceName _ _ => false
  | .text _ => false
  | .constant => false
  | .tuple items => inExprs items
  | .list items => inExprs items
  | .dict entries => inEntries entries
  | .conditional test body otherwise => inExpr test || inExpr body || inOptional otherwise
  | .junction _ left right => inExpr left || inExpr right
  | .operation operands => inExprs operands
  | .slice bounds => inExprs bounds
  | .attribute subject name => isSuspicious (.attribute subject name) || inExpr subject
  | .item subject key => isSuspicious (.item subject key) || inExpr subject || inExpr key
  | .call callee args => isSuspicious (.call callee args) || inExpr callee || inExprs args
  | .filter subject name args =>
    isSuspicious (.filter subject name args) || inOptional subject || inExprs args
  | .test subject name args =>
    isSuspicious (.test subject name args) || inExpr subject || inExprs args

/-- One of the expressions or one in them is suspicious. -/
def inExprs : List Expr → Bool
  | [] => false
  | e :: es => inExpr e || inExprs es

/-- The expression, when there is one, or one in it is suspicious. -/
def inOptional : Option Expr → Bool
  | none => false
  | some e => inExpr e

/-- A key or a value or an expression in one is suspicious. -/
def inEntries : List (Expr × Expr) → Bool
  | [] => false
  | (key, value) :: rest => inExpr key || inExpr value || inEntries rest

end

/-! ### References -/

/-- The constant texts among expressions, `none` when one is not constant. -/
def constantTexts : List Expr → Option (List String)
  | [] => some []
  | .text name :: es => (constantTexts es).map (name :: ·)
  | _ :: _ => none

/-- The names that a reference may stand for, `none` when they are not constant. -/
def referencedNames : Expr → Option (List String)
  | .text name => some [name]
  | .list items => constantTexts items
  | .tuple items => constantTexts items
  | _ => none

/-- An answer, or the next one if the first is that no redirect is possible. -/
def orElse (answer : Except Fault Bool) (next : Unit → Except Fault Bool) : Except Fault Bool :=
  match answer with
  | .ok false => next ()
  | answer => answer

/-- The first name for which `follow` answers that a redirect is possible; a fault
before it is one of the whole. -/
def anyName (follow : String → Except Fault Bool) : List String → Except Fault Bool
  | [] => .ok false
  | name :: names => orElse (follow name) fun _ => anyName follow names

mutual

/-- Whether a statement may redirect, where `follow` answers for the templates that it
refers to.  The parts are looked at in order up to the first that may redirect. -/
def inStmt (follow : String → Except Fault Bool) : Stmt → Except Fault Bool
  | .data _ => .ok false
  | .output exprs => .ok (inExprs exprs)
  | .reference template =>
    match referencedNames template with
    | none => .ok true
    | some names => orElse (anyName follow names) fun _ => .ok (inExpr template)
  | .assign target value => .ok (isCarrier value || inExpr target || inExpr value)
  | .assignBlock target filter body =>
    orElse (.ok (inExpr target || inOptional filter)) fun _ => inStmts follow body
  | .loop target iter body otherwise test =>
    orElse (.ok (isCarrier iter || inExpr target || inExpr iter)) fun _ =>
      orElse (inStmts follow body) fun _ =>
        orElse (inStmts follow otherwise) fun _ => .ok (inOptional test)
  | .branch test body elifs otherwise =>
    orElse (.ok (inExpr test)) fun _ =>
      orElse (inStmts follow body) fun _ =>
        orElse (inStmts follow elifs) fun _ => inStmts follow otherwise
  | .routine _ defaults body => orElse (.ok (inExprs defaults)) fun _ => inStmts follow body
  | .callBlock call defaults body =>
    orElse (.ok (inExpr call || inExprs defaults)) fun _ => inStmts follow body
  | .filterBlock filter body => orElse (inStmts follow body) fun _ => .ok (inExpr filter)
  | .binding targets values body =>
    orElse (.ok (values.any isCarrier || inExprs targets || inExprs values)) fun _ =>
      inStmts follow body
  | .block _ body => inStmts follow body
  | .escaping option body => orElse (.ok (inExpr option)) fun _ => inStmts follow body

/-- Whether one of the statements may redirect. -/
def inStmts (follow : String → Except Fault Bool) : List Stmt → Except Fault Bool
  | [] => .ok false
  | stmt :: stmts => orElse (inStmt follow stmt) fun _ => inStmts follow stmts

end

/-! ### Templates -/

/-- The fragments that are not on the way. -/
def offWay (library : Library) (visited : List String) : List Fragment :=
  library.known.filter fun f => !visited.contains f.name

/-- A step to a known template takes it off the fragments that are not on the way. -/
theorem length_offWay_cons_lt {library : Library} {visited : List String} {name : String}
    {fragment : Fragment} (hnew : ¬visited.contains name)
    (hknown : library.get? name = some fragment) :
    (offWay library (name :: visited)).length < (offWay library visited).length := by
  have hfilter : offWay library (name :: visited) =
      (offWay library visited).filter fun f => f.name != name := by
    rw [offWay, offWay, List.filter_filter]
    congr 1
    funext f
    rw [Bool.eq_iff_iff]
    simp
  rw [hfilter, List.length_filter_lt_length_iff_exists]
  have hname := Library.name_of_get? hknown
  refine ⟨fragment, List.mem_filter.mpr ⟨Library.mem_known_of_get? hknown, ?_⟩, ?_⟩
  · rw [hname]
    simpa using hnew
  · simp [hname]

/-- Whether rendering a template may redirect, where `visited` are the names on the way
to it, which are not walked again.  A name that the library does not know does not
redirect. -/
def mayRedirect (library : Library) (visited : List String) (name : String) :
    Except Fault Bool :=
  if _ : visited.contains name then .ok false
  else match _ : library.get? name with
    | none => .ok false
    | some fragment =>
      match parse fragment.source with
      | .error fault => .error fault
      | .ok stmts => inStmts (mayRedirect library (name :: visited)) stmts
termination_by (offWay library visited).length
decreasing_by exact length_offWay_cons_lt ‹_› ‹_›

end FragmentRoutes.Redirect
