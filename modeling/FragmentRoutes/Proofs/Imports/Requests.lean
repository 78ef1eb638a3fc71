import FragmentRoutes.Proofs.Code.Subterms
import FragmentRoutes.Proofs.Imports.Writes

/-!
# Requests to the imports

While code is made, names are reserved and modules, symbols and types are asked for (`Request`).
The expression for a type mentions the classes in it, from left to right (`typeMentions`); asking
for it asks for these and nothing else (`mentions_typeExpr`).  So what a request records is a run of
writes (`run_snd`), and all that is known of runs holds of requests (`records_after`).
-/

namespace FragmentRoutes.Imports

open Code Host

/-! ### What expressions mention -/

/-- What a name in an expression stands for: a symbol of a module, the package of a module that is
imported whole, or something that is there without an import. -/
inductive Referent where
  | symbol (owner : Owner)
  | package (head : String)
  | plain (name : String)
  deriving DecidableEq

namespace Referent

/-- The symbol that is mentioned. -/
def owner? : Referent → Option Owner
  | symbol owner => some owner
  | _ => none

/-- The name that stands for the referent under the imports. -/
def name (s : Imports) : Referent → String
  | symbol owner => s.localOf owner
  | package head => head
  | plain name => name

end Referent

/-- What the expression for a class mentions. -/
def classMentions (c : ClassId) : Referent :=
  if c.isBuiltin then .plain c.qualname
  else if isHidden c then .symbol ⟨"typing", "Any"⟩
  else .symbol ⟨c.module, outerName c⟩

mutual

/-- What the expression for a type mentions, from left to right. -/
def typeMentions : HostType → List Referent
  | .any => [.symbol ⟨"typing", "Any"⟩]
  | .var _ => [.symbol ⟨"typing", "Any"⟩]
  | .nothing => []
  | .ellipsis => []
  | .generated name => [.plain name]
  | .params types => typesMentions types
  | .union _ types => typesMentions types
  | .annotated base _ => typeMentions base
  | .literal _ => [.symbol ⟨"typing", "Literal"⟩]
  | .applied _ c types => classMentions c :: typesMentions types
  | .synonym _ c => [classMentions c]
  | .cls c => if c == .builtin "NoneType" then [] else [classMentions c]
  | .newType _ _ _ => [.symbol ⟨"typing", "Any"⟩]
  | .special _ _ => [.symbol ⟨"typing", "Any"⟩]
  | .value _ => [.symbol ⟨"typing", "Any"⟩]
  | .forward _ => [.symbol ⟨"typing", "Any"⟩]

/-- What the expressions for types mention, from left to right. -/
def typesMentions : List HostType → List Referent
  | [] => []
  | t :: ts => typeMentions t ++ typesMentions ts

end

/-- Making the code **mentions** the referents: it asks for the symbols among them and records
nothing else, the names in the code are theirs, and it makes the same code once they are known. -/
structure Mentions {α : Type} (namesOf : α → List String) (x : Making α) (refs : List Referent) :
    Prop where
  run : ∀ s, (x.run s).2 = (refs.filterMap Referent.owner?).foldl ask s
  names : ∀ {s s'}, (x.run s).2.Grows s' → namesOf (x.run s).1 = refs.map (Referent.name s')
  again : ∀ {s s'}, (x.run s).2.Grows s' → x.run s' = ((x.run s).1, s')

section

variable {α β γ : Type} {namesOf : α → List String} {namesOf' : β → List String}
  {namesOf'' : γ → List String} {x : Making α} {y : Making β} {refs refs' : List Referent}

theorem mentions_pure {a : α} (h : namesOf a = []) : Mentions namesOf (pure a) [] :=
  ⟨fun _ => rfl, fun _ => h, fun _ => rfl⟩

theorem Mentions.map {f : α → β} (h : Mentions namesOf x refs)
    (hnames : ∀ a, namesOf' (f a) = namesOf a) :
    Mentions namesOf' (do let a ← x; return f a) refs where
  run := h.run
  names hgrows := (hnames _).trans (h.names hgrows)
  again {s s'} hgrows := by
    show (f (x.run s').1, (x.run s').2) = (f (x.run s).1, s')
    rw [h.again hgrows]

/-- The code that is made in two steps mentions what the first mentions and then what the second
does. -/
theorem Mentions.pair {f : α → β → γ} (h : Mentions namesOf x refs) (h' : Mentions namesOf' y refs')
    (hgrows' : ∀ s : Imports, s.Grows (y.run s).2)
    (hnames : ∀ a b, namesOf'' (f a b) = namesOf a ++ namesOf' b) :
    Mentions namesOf'' (do let a ← x; let b ← y; return f a b) (refs ++ refs') where
  run s := by
    show (y.run (x.run s).2).2 = _
    rw [h'.run, h.run, List.filterMap_append, List.foldl_append]
  names {s s'} hgrows := by
    have hfirst : (x.run s).2.Grows s' := (hgrows' _).trans hgrows
    have hsecond : namesOf' (y.run (x.run s).2).1 = refs'.map (Referent.name s') := h'.names hgrows
    show namesOf'' (f (x.run s).1 (y.run (x.run s).2).1) = _
    rw [hnames, h.names hfirst, hsecond, List.map_append]
  again {s s'} hgrows := by
    have hfirst : (x.run s).2.Grows s' := (hgrows' _).trans hgrows
    show (f (x.run s').1 (y.run (x.run s').2).1, (y.run (x.run s').2).2) = _
    have hsecond : y.run s' = ((y.run (x.run s).2).1, s') := h'.again hgrows
    rw [h.again hfirst, hsecond]
    rfl

end

theorem mentions_ref (module symbol : String) :
    Mentions Expr.names (ref module symbol) [.symbol ⟨module, symbol⟩] where
  run _ := rfl
  names {s s'} hgrows := by
    have hlocal := (hasLocal_ask s ⟨module, symbol⟩).mono hgrows
    show (Expr.name (s.localOf ⟨module, symbol⟩)).names = [s'.localOf ⟨module, symbol⟩]
    rw [Expr.names_name, localOf_of_hasLocal hlocal]
  again {s s'} hgrows := by
    have hlocal := (hasLocal_ask s ⟨module, symbol⟩).mono hgrows
    show (Expr.name (s'.localOf ⟨module, symbol⟩), s'.ask ⟨module, symbol⟩) = _
    rw [localOf, ask, run_localName_of_hasLocal hlocal]
    rfl

theorem mentions_classExpr (c : ClassId) :
    Mentions Expr.names (classExpr c) [classMentions c] := by
  unfold classExpr classMentions outerName
  split_ifs
  · exact ⟨fun _ => rfl, fun _ => Expr.names_name _, fun _ => rfl⟩
  · exact mentions_ref "typing" "Any"
  · split
    · rename_i hparts
      rw [hparts]
      exact mentions_ref c.module c.qualname
    · rename_i head rest hparts
      rw [hparts]
      exact (mentions_ref c.module head).map fun e => Expr.names_attrs e rest

theorem names_applied (value : Expr) (items : List Expr) :
    (subscript value items).names = value.names ++ items.flatMap Expr.names := by
  unfold subscript
  split
  · simp
  · simp
  · rw [Expr.names_subscript, Expr.names_tuple]

theorem names_barred (items : List Expr) : (barred items).names = items.flatMap Expr.names := by
  have hfold : ∀ (es : List Expr) (e : Expr),
      (es.foldl (fun left right => .binary left .bitOr right) e).names =
        e.names ++ es.flatMap Expr.names := by
    intro es
    induction es with
    | nil => simp
    | cons e' es ih =>
      intro e
      rw [List.foldl_cons, ih, Expr.names_binary, List.flatMap_cons, List.append_assoc]
  cases items with
  | nil => exact Expr.names_absent
  | cons e es => exact hfold es e

mutual

/-- **The expression for a type mentions the classes in it**, from left to right. -/
theorem mentions_typeExpr : ∀ t : HostType, Mentions Expr.names (typeExpr t) (typeMentions t)
  | .any => by
    rw [typeExpr, typeMentions]
    exact mentions_ref "typing" "Any"
  | .var _ => by
    rw [typeExpr, typeMentions]
    exact mentions_ref "typing" "Any"
  | .nothing => by
    rw [typeExpr, typeMentions]
    exact mentions_pure Expr.names_absent
  | .ellipsis => by
    rw [typeExpr, typeMentions]
    exact mentions_pure (Expr.names_constant _)
  | .generated name => by
    rw [typeExpr, typeMentions]
    exact ⟨fun _ => rfl, fun _ => Expr.names_name name, fun _ => rfl⟩
  | .params types => by
    rw [typeExpr, typeMentions]
    exact (mentions_typeExprs types).map Expr.names_list
  | .union _ types => by
    rw [typeExpr, typeMentions]
    exact (mentions_typeExprs types).map names_barred
  | .annotated base _ => by
    rw [typeExpr, typeMentions]
    exact mentions_typeExpr base
  | .literal values => by
    rw [typeExpr, typeMentions]
    refine (mentions_ref "typing" "Literal").map fun e => ?_
    rw [names_applied, List.flatMap_map]
    simp
  | .applied _ c types => by
    rw [typeExpr, typeMentions]
    exact (mentions_classExpr c).pair (mentions_typeExprs types)
      (fun s => (makes_typeExprs types s).1) names_applied
  | .synonym _ c => by
    rw [typeExpr, typeMentions]
    exact mentions_classExpr c
  | .cls c => by
    rw [typeExpr, typeMentions]
    split_ifs
    · exact mentions_pure Expr.names_absent
    · exact mentions_classExpr c
  | .newType _ _ _ => by
    rw [typeExpr, typeMentions]
    exact mentions_ref "typing" "Any"
  | .special _ _ => by
    rw [typeExpr, typeMentions]
    exact mentions_ref "typing" "Any"
  | .value _ => by
    rw [typeExpr, typeMentions]
    exact mentions_ref "typing" "Any"
  | .forward _ => by
    rw [typeExpr, typeMentions]
    exact mentions_ref "typing" "Any"

theorem mentions_typeExprs : ∀ ts : List HostType,
    Mentions (fun es => es.flatMap Expr.names) (typeExprs ts) (typesMentions ts)
  | [] => by
    rw [typeExprs, typesMentions]
    exact mentions_pure rfl
  | t :: ts => by
    rw [typeExprs, typesMentions]
    exact (mentions_typeExpr t).pair (mentions_typeExprs ts) (fun s => (makes_typeExprs ts s).1)
      fun _ _ => rfl

end

theorem names_dotted (path : String) : (Expr.dotted path).names = [headOf path] := by
  unfold Expr.dotted headOf
  split
  · rename_i hparts
    rw [hparts, Expr.names_name]
    rfl
  · rename_i head rest hparts
    rw [hparts, Expr.names_attrs, Expr.names_name]
    rfl

/-! ### Requests -/

/-- What the imports are asked for. -/
inductive Request where
  | reserve (names : List String)
  | module (name : String)
  | symbol (owner : Owner)
  | type (type : HostType)

namespace Request

/-- The expression that a request is answered with, where it has one. -/
def run : Request → Making (Option Expr)
  | reserve names => do
    modify (·.reserve names)
    return none
  | module name => return some (← moduleExpr name)
  | symbol owner => return some (← ref owner.module owner.symbol)
  | type t => return some (← typeExpr t)

/-- What the expression mentions. -/
def mentions : Request → List Referent
  | reserve _ => []
  | module name => [.package (headOf name)]
  | symbol owner => [.symbol owner]
  | type t => typeMentions t

/-- The symbols that are asked for. -/
def asked (r : Request) : List Owner :=
  r.mentions.filterMap Referent.owner?

/-- The names that are reserved. -/
def reserved : Request → List String
  | reserve names => names
  | _ => []

/-- The modules that are imported whole. -/
def modules : Request → List String
  | module name => [name]
  | _ => []

/-- What a request records, step by step. -/
def writes (r : Request) : List Write :=
  r.reserved.map .reserve ++ r.modules.map .module ++ r.asked.map .symbol

theorem run_snd (r : Request) (s : Imports) :
    (r.run.run s).2 = r.writes.foldl Write.apply s := by
  cases r with
  | reserve names =>
    show names.foldl (fun s name => s.grant name ⟨"", name⟩) s = _
    simp only [writes, asked, reserved, modules, mentions, List.map_nil, List.filterMap_nil,
      List.append_nil, List.foldl_map]
    rfl
  | module name => rfl
  | symbol owner => rfl
  | type t =>
    show ((typeExpr t).run s).2 = _
    rw [(mentions_typeExpr t).run]
    simp only [writes, asked, reserved, modules, mentions, List.map_nil, List.nil_append,
      List.foldl_map]
    rfl

/-- **The names in an answer** are those of what it mentions. -/
theorem names_run (r : Request) {s s' : Imports} (hgrows : (r.run.run s).2.Grows s') :
    ∀ e ∈ (r.run.run s).1, e.names = r.mentions.map (Referent.name s') := by
  intro e he
  cases r with
  | reserve names => cases he
  | module name =>
    obtain rfl : Expr.dotted name = e := Option.some.inj he
    exact names_dotted name
  | symbol owner =>
    obtain rfl : ((ref owner.module owner.symbol).run s).1 = e := Option.some.inj he
    exact (mentions_ref owner.module owner.symbol).names hgrows
  | type t =>
    obtain rfl : ((typeExpr t).run s).1 = e := Option.some.inj he
    exact (mentions_typeExpr t).names hgrows

end Request

/-! ### Sequences of requests -/

/-- The imports of a new module after requests. -/
def after (requests : List Request) : Imports :=
  requests.foldl (fun s r => (r.run.run s).2) (start "")

/-- The symbols that were asked for. -/
def askedBy (requests : List Request) : List Owner :=
  requests.flatMap Request.asked

/-- The names that were reserved. -/
def reservedBy (requests : List Request) : List String :=
  requests.flatMap Request.reserved

/-- The modules that were imported whole. -/
def modulesOf (requests : List Request) : List String :=
  requests.flatMap Request.modules

theorem after_eq (requests : List Request) :
    after requests = (requests.flatMap Request.writes).foldl Write.apply (start "") := by
  have hfold : ∀ s : Imports, requests.foldl (fun s r => (r.run.run s).2) s =
      (requests.flatMap Request.writes).foldl Write.apply s := by
    induction requests with
    | nil => exact fun _ => rfl
    | cons r rest ih =>
      intro s
      rw [List.foldl_cons, List.flatMap_cons, List.foldl_append, ih, r.run_snd]
  exact hfold (start "")

theorem extends_after (requests more : List Request) :
    (after requests).Extends (after (requests ++ more)) := by
  rw [after_eq, after_eq, List.flatMap_append, List.foldl_append]
  exact extends_foldl _ _

theorem after_append_singleton (requests : List Request) (r : Request) :
    after (requests ++ [r]) = (r.run.run (after requests)).2 := by
  unfold after
  rw [List.foldl_append]
  rfl

theorem symbol_mem_writes {requests : List Request} {owner : Owner} :
    Write.symbol owner ∈ requests.flatMap Request.writes ↔ owner ∈ askedBy requests := by
  simp [askedBy, Request.writes]

theorem module_mem_writes {requests : List Request} {name : String} :
    Write.module name ∈ requests.flatMap Request.writes ↔ name ∈ modulesOf requests := by
  simp [modulesOf, Request.writes]

theorem reserve_mem_writes {requests : List Request} {name : String} :
    Write.reserve name ∈ requests.flatMap Request.writes ↔ name ∈ reservedBy requests := by
  simp [reservedBy, Request.writes]

/-- **Requests have recorded all that they asked for.** -/
theorem records_after (requests : List Request) :
    Records (requests.flatMap Request.writes) (after requests) := by
  rw [after_eq]
  exact records_foldl _

end FragmentRoutes.Imports
