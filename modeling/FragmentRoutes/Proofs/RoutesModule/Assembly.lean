import FragmentRoutes.Proofs.RoutesModule.Grouping
import FragmentRoutes.Proofs.RoutesModule.ReceiverCalls
import FragmentRoutes.Proofs.RoutesModule.Recording
import FragmentRoutes.Proofs.RoutesModule.UrlMethod

/-!
# The parts of a made module

A module is put together of its imports, the helpers, the protocols, the classes, the entry
function, the functions of the groups and the class of the URL builders (`Parts.pieces`).  Here each
part is said to be made of what it lists: a protocol of the methods that are required
(`Declares`), the function of a group of the handlers of its endpoints (`Registers`), the class of
the URL builders of one method for each endpoint (`Builds`).

Whatever a module is made from, its parts are of this kind if the making ends well (`ensures_make`).
-/

namespace FragmentRoutes.RoutesModule

open Code Host

/-! ### Methods of protocols -/

/-- The expression for a type that was made under earlier imports. -/
def Annotates (s : Imports) (t : HostType) (e : Expr) : Prop :=
  ∃ before, e = ((Imports.typeExpr t).run before).1 ∧ ((Imports.typeExpr t).run before).2.Grows s

/-- The statement **declares** the method that a signature requires: it has the name and the
parameters of the signature and is asynchronous if the signature is. -/
def Declares (s : Imports) (g : Signature) (stmt : Stmt) : Prop :=
  ∃ params returns,
    stmt = .function g.isAsync g.name (Param.plain "self" :: params) returns
      [.expr (.constant .ellipsis)] ∧
    List.Forall₂ (fun p param => ∃ type, param = Param.typed p.name type ∧ Annotates s p.type type)
      g.params params ∧
    Annotates s g.returns returns

section

variable {s s' : Imports}

theorem Annotates.mono (hgrows : s.Grows s') {t : HostType} {e : Expr} (h : Annotates s t e) :
    Annotates s' t e := by
  obtain ⟨before, he, hbefore⟩ := h
  exact ⟨before, he, hbefore.trans hgrows⟩

/-- Made again, the expression for a type is the same. -/
theorem Annotates.eq {t : HostType} {e : Expr} (h : Annotates s t e) :
    e = ((Imports.typeExpr t).run s).1 := by
  obtain ⟨before, rfl, hbefore⟩ := h
  rw [(Imports.mentions_typeExpr t).again hbefore]

theorem makes_annotated (s : Imports) (t : HostType) :
    Imports.Makes (Imports.typeExpr t) s fun e s' => Annotates s' t e :=
  (Imports.makes_typeExpr t s).imp_right fun _ => ⟨s, rfl, .refl _⟩

theorem Declares.mono (hgrows : s.Grows s') {g : Signature} {stmt : Stmt} (h : Declares s g stmt) :
    Declares s' g stmt := by
  obtain ⟨params, returns, hstmt, hparams, hreturns⟩ := h
  refine ⟨params, returns, hstmt, hparams.imp ?_, hreturns.mono hgrows⟩
  rintro p param ⟨type, hparam, htype⟩
  exact ⟨type, hparam, htype.mono hgrows⟩

theorem makes_paramsOf (s : Imports) (ps : List Signature.Param) :
    Imports.Makes (paramsOf ps) s fun params s' =>
      List.Forall₂ (fun p param => ∃ type, param = Param.typed p.name type ∧
        Annotates s' p.type type) ps params := by
  induction ps generalizing s with
  | nil => exact Imports.makes_pure .nil
  | cons p ps ih =>
    rw [paramsOf]
    refine .bind ((makes_annotated s p.type).mono fun type s₁ _ htype => ?_)
    refine .bind ((ih s₁).mono fun params s₂ hgrows hparams => ?_)
    exact Imports.makes_pure (.cons ⟨type, rfl, htype.mono hgrows⟩ hparams)

/-- **The method that a signature requires is declared.** -/
theorem makes_protocolMethod (s : Imports) (g : Signature) :
    Imports.Makes (protocolMethod g) s fun stmt s' => Declares s' g stmt := by
  rw [protocolMethod]
  refine .bind ((makes_paramsOf s g.params).mono fun params s₁ _ hparams => ?_)
  refine .bind ((makes_annotated s₁ g.returns).mono fun returns s₂ hgrows hreturns => ?_)
  refine Imports.makes_pure ⟨params, returns, rfl, hparams.imp ?_, hreturns⟩
  rintro p param ⟨type, hparam, htype⟩
  exact ⟨type, hparam, htype.mono hgrows⟩

theorem makes_protocolMethods (s : Imports) (gs : List Signature) :
    Imports.Makes (protocolMethods gs) s fun stmts s' => List.Forall₂ (Declares s') gs stmts := by
  induction gs generalizing s with
  | nil => exact Imports.makes_pure .nil
  | cons g gs ih =>
    rw [protocolMethods]
    refine .bind ((makes_protocolMethod s g).mono fun stmt s₁ _ hstmt => ?_)
    refine .bind ((ih s₁).mono fun stmts s₂ hgrows hstmts => ?_)
    exact Imports.makes_pure (.cons (hstmt.mono hgrows) hstmts)

end

/-! ### Protocols -/

/-- The groups that have a name. -/
def named (groups : List EndpointGroup) : List EndpointGroup :=
  groups.filter fun g => !g.ident.isEmpty

/-- The groups of the routes without a name; there is one at most. -/
def unnamed (groups : List EndpointGroup) : List EndpointGroup :=
  groups.filter fun g => g.ident.isEmpty

theorem named_cons (g : EndpointGroup) (groups : List EndpointGroup) :
    named (g :: groups) = if g.ident.isEmpty then named groups else g :: named groups := by
  rw [named, List.filter_cons]
  cases g.ident.isEmpty <;> rfl

theorem unnamed_cons (g : EndpointGroup) (groups : List EndpointGroup) :
    unnamed (g :: groups) = if g.ident.isEmpty then g :: unnamed groups else unnamed groups := by
  rw [unnamed, List.filter_cons]
  rfl

section

variable (context : Context) (s : Imports)

/-- The statement is the **protocol of a group**: it declares what the calls of its endpoints
require. -/
def IsProtocol (protocol : Expr) (g : EndpointGroup) (stmt : Stmt) : Prop :=
  ∃ methods, List.Forall₂ (Declares s) (required context g.endpoints) methods ∧
    stmt = .classDef (Group.protocolName context.config g.ident) [protocol]
      (if methods.isEmpty then [.pass] else methods)

/-- The statement is the **protocol of the whole receiver**: it extends those of the groups and
declares what the calls of routes without a group require. -/
def IsWholeProtocol (protocol : Expr) (groups : List EndpointGroup) (stmt : Stmt) : Prop :=
  ∃ methods, List.Forall₂ (Declares s) ((unnamed groups).flatMap fun g => required context g.endpoints)
      methods ∧
    stmt = .classDef context.config.receiverInterface
      ((named groups).map (fun g => .name (Group.protocolName context.config g.ident)) ++ [protocol])
      (.expr (.text "Everything the generated handlers call on the receiver.") :: methods)

end

section

variable {context : Context} {s s' : Imports}

theorem forall₂_declares_mono (hgrows : s.Grows s') {gs : List Signature} {stmts : List Stmt}
    (h : List.Forall₂ (Declares s) gs stmts) : List.Forall₂ (Declares s') gs stmts :=
  h.imp fun _ _ => Declares.mono hgrows

theorem IsProtocol.mono (hgrows : s.Grows s') {protocol : Expr} {g : EndpointGroup} {stmt : Stmt}
    (h : IsProtocol context s protocol g stmt) : IsProtocol context s' protocol g stmt := by
  obtain ⟨methods, hmethods, hstmt⟩ := h
  exact ⟨methods, forall₂_declares_mono hgrows hmethods, hstmt⟩

theorem IsWholeProtocol.mono (hgrows : s.Grows s') {protocol : Expr} {groups : List EndpointGroup}
    {stmt : Stmt} (h : IsWholeProtocol context s protocol groups stmt) :
    IsWholeProtocol context s' protocol groups stmt := by
  obtain ⟨methods, hmethods, hstmt⟩ := h
  exact ⟨methods, forall₂_declares_mono hgrows hmethods, hstmt⟩

theorem makes_groupProtocols (s : Imports) (protocol : Expr) (groups : List EndpointGroup) :
    Imports.Makes (groupProtocols context protocol groups) s fun r s' =>
      List.Forall₂ (IsProtocol context s' protocol) (named groups) r.1 ∧
        List.Forall₂ (Declares s')
          ((unnamed groups).flatMap fun g => required context g.endpoints) r.2 := by
  induction groups generalizing s with
  | nil => exact Imports.makes_pure ⟨.nil, .nil⟩
  | cons g groups ih =>
    rw [groupProtocols]
    refine .bind ((makes_protocolMethods s _).mono fun methods s₁ _ hmethods => ?_)
    refine .bind ((ih s₁).mono ?_)
    rintro ⟨protocols, others⟩ s₂ hgrows ⟨hprotocols, hothers⟩
    have hmethods := forall₂_declares_mono hgrows hmethods
    dsimp only
    by_cases hident : g.ident.isEmpty = true
    · rw [if_pos hident, named_cons, if_pos hident, unnamed_cons, if_pos hident,
        List.flatMap_cons]
      exact Imports.makes_pure ⟨hprotocols, List.rel_append hmethods hothers⟩
    · rw [if_neg hident, named_cons, if_neg hident, unnamed_cons, if_neg hident]
      exact Imports.makes_pure ⟨.cons ⟨methods, hmethods, rfl⟩ hprotocols, hothers⟩

/-- **The protocols of the groups and of the whole receiver.** -/
theorem makes_protocols (s : Imports) (groups : List EndpointGroup) :
    Imports.Makes (protocols context groups) s fun stmts s' =>
      ∃ protocol grouped whole, s'.HasLocal "typing" "Protocol" protocol ∧
        stmts = grouped ++ [whole] ∧
        List.Forall₂ (IsProtocol context s' (.name protocol)) (named groups) grouped ∧
        IsWholeProtocol context s' (.name protocol) groups whole := by
  rw [protocols]
  refine .bind ((Imports.makes_ref s "typing" "Protocol").mono ?_)
  rintro _ s₁ - ⟨protocol, rfl, hprotocol⟩
  refine .bind ((makes_groupProtocols s₁ _ groups).mono ?_)
  rintro ⟨grouped, methods⟩ s₂ hgrows ⟨hgrouped, hmethods⟩
  refine Imports.makes_pure
    ⟨protocol, grouped, _, hprotocol.mono hgrows, rfl, hgrouped, methods, hmethods, ?_⟩
  rw [named, List.filter_map, List.map_map]
  rfl

end

/-! ### Registration -/

/-- The statements of the entry function: it extends the entries by those of each group and puts
them into the router. -/
def entryBody (config : Config) (groups : List EndpointGroup) : List Stmt :=
  [.expr (.text
      "Register a handler for every route template on ``router`` and return the URL builders."),
    .typedAssign (.name "_entries") entriesType (.list [])] ++
  groups.map (fun g => .expr (.apply (.attribute (.name "_entries") "extend")
    [.applyName (Group.functionName config g.ident)
      ([.name "receiver", if config.pathPrefix then Expr.name "paths_prefix" else .text ""] ++
        if config.logger then [.name "logger"] else [])])) ++
  [.expr (.applyName "_register_routes" [.name "router", .name "_entries"]),
    .ret (.applyName config.routePathsType
      (if config.pathPrefix then [.name "paths_prefix"] else []))]

/-- The statement is the **entry function**. -/
def IsEntry (config : Config) (groups : List EndpointGroup) (stmt : Stmt) : Prop :=
  ∃ params, stmt = .function false config.routesFunction params (.name config.routePathsType)
    (entryBody config groups)

/-- The statement is the **function of a group**: it makes the handlers of its endpoints and
returns their routes. -/
def Registers (context : Context) (s : Imports) (g : EndpointGroup) (stmt : Stmt) : Prop :=
  ∃ front params made, List.Forall₂ (Handles context s) g.endpoints made ∧
    (front = [] ∨ front = [.set "logger" (.boolean .or [.name "logger", .name "_logger"])]) ∧
    stmt = .function false (Group.functionName context.config g.ident) params entriesType
      (front ++ [.set "_paths" (.applyName context.config.routePathsType [.name "paths_prefix"])] ++
        made ++ [.ret (.list (g.endpoints.map routeEntry))])

theorem Registers.mono {context : Context} {s s' : Imports} (hgrows : s.Grows s')
    {g : EndpointGroup} {stmt : Stmt} (h : Registers context s g stmt) :
    Registers context s' g stmt := by
  obtain ⟨front, params, made, hmade, hfront, hstmt⟩ := h
  exact ⟨front, params, made, hmade.imp fun _ _ => Handles.mono hgrows, hfront, hstmt⟩

section

variable {context : Context}

theorem makes_optionalParams (s : Imports) (kind : ParamKind) (hasPrefix : Bool) :
    Imports.Makes (optionalParams context kind hasPrefix) s fun _ _ => True := by
  unfold optionalParams
  by_cases hlogger : context.config.logger = true
  · rw [if_pos hlogger]
    exact .bind ((Imports.makes_moduleExpr s "logging").mono fun _ _ _ _ =>
      Imports.makes_pure trivial)
  · rw [if_neg hlogger]
    exact Imports.makes_pure trivial

theorem makes_entryFunction (s : Imports) (groups : List EndpointGroup) :
    Imports.Makes (entryFunction context groups) s fun stmt _ =>
      IsEntry context.config groups stmt := by
  rw [entryFunction]
  exact .bind ((makes_optionalParams s _ _).mono fun _ _ _ _ => Imports.makes_pure ⟨_, rfl⟩)

section

variable {fails : Fault → Prop}

theorem ensures_handlers {endpoints : List Endpoint}
    (h : ∀ e ∈ endpoints, ∀ s, Ensures (handler context e) s fails
      fun made s' => Handles context s' e made) (s : Imports) :
    Ensures (handlers context endpoints) s fails
      fun made s' => List.Forall₂ (Handles context s') endpoints made := by
  induction endpoints generalizing s with
  | nil => exact ensures_pure .nil
  | cons e endpoints ih =>
    rw [handlers]
    refine .bind ((h e List.mem_cons_self s).mono fun first s₁ _ hfirst => ?_)
    refine .bind ((ih (fun e' he' => h e' (List.mem_cons_of_mem _ he')) s₁).mono ?_)
    exact fun rest s₂ hgrows hrest => ensures_pure (.cons (hfirst.mono hgrows) hrest)

theorem ensures_groupFunction {g : EndpointGroup}
    (h : ∀ e ∈ g.endpoints, ∀ s, Ensures (handler context e) s fails
      fun made s' => Handles context s' e made) (s : Imports) :
    Ensures (groupFunction context g) s fails fun stmt s' => Registers context s' g stmt := by
  rw [groupFunction]
  refine .bind ((ensures_handlers h s).mono fun made s₁ _ hmade => ?_)
  refine .bind ((ensures_lift (makes_optionalParams s₁ _ _)).mono fun params s₂ hgrows _ => ?_)
  refine ensures_pure ⟨_, _, made, hmade.imp fun _ _ => Handles.mono hgrows, ?_, rfl⟩
  split_ifs
  · exact .inr rfl
  · exact .inl rfl

/-- **The functions of the groups** are made unless a handler is not. -/
theorem ensures_groupFunctions {groups : List EndpointGroup}
    (h : ∀ g ∈ groups, ∀ e ∈ g.endpoints, ∀ s, Ensures (handler context e) s fails
      fun made s' => Handles context s' e made) (s : Imports) :
    Ensures (groupFunctions context groups) s fails
      fun stmts s' => List.Forall₂ (Registers context s') groups stmts := by
  induction groups generalizing s with
  | nil => exact ensures_pure .nil
  | cons g groups ih =>
    rw [groupFunctions]
    refine .bind ((ensures_groupFunction (h g List.mem_cons_self) s).mono fun first s₁ _ hfirst => ?_)
    refine .bind ((ih (fun g' hg' => h g' (List.mem_cons_of_mem _ hg')) s₁).mono ?_)
    exact fun rest s₂ hgrows hrest => ensures_pure (.cons (hfirst.mono hgrows) hrest)

end

end

/-! ### URL builders -/

/-- The constructor of the class of the URL builders. -/
def urlConstructor : Stmt :=
  .function false "__init__"
    [Param.plain "self", .mk .positional "paths_prefix" (some (.name "str")) (some (.text ""))]
    Expr.absent [.setAttribute "self" "paths_prefix" (.name "paths_prefix")]

/-- The statement is the method that **spells** the path of the endpoint. -/
def Spells (e : Endpoint) (stmt : Stmt) : Prop :=
  ∃ params returns body,
    stmt = .function false e.ident (Param.plain "self" :: params) returns body

/-- The statement is the **class of the URL builders**: after its constructor it has the methods of
the endpoints. -/
def Builds (name : String) (endpoints : List Endpoint) (stmt : Stmt) : Prop :=
  ∃ methods, List.Forall₂ Spells endpoints methods ∧
    stmt = .classDef name [] (.expr (.text
      "URL builders for every route, relative to ``paths_prefix``.") :: urlConstructor :: methods)

section

variable {host : Host}

theorem ensures_encoded_any (s : Imports) (p : String) (t : HostType) :
    Ensures (encoded p t) s (fun _ => True) fun _ _ => True := by
  rw [encoded]
  split_ifs
  · exact ensures_pure trivial
  · exact ensures_pure trivial
  · exact ensures_pure trivial
  · exact ensures_throw trivial

theorem ensures_addParam_any (s : Imports) (b : Builder) (e : Endpoint) (p : String) (index : Nat)
    (isWildcard : Bool) :
    Ensures (b.addParam host e p index isWildcard) s (fun _ => True)
      fun b' _ => ∃ params, b'.params = b.params ++ params := by
  rw [Builder.addParam]
  dsimp only
  refine .bind ((ensures_lift (Imports.makes_typeExpr _ s)).mono fun shown s' _ _ => ?_)
  have hparams : b.flush.params ++ [Param.typed p shown] = b.params ++ [Param.typed p shown] := by
    rw [flush_params]
  by_cases hencodable : host.isEncodable (e.pathType p).unwrap = true
  · rw [if_pos hencodable]
    exact ensures_pure ⟨_, hparams⟩
  · rw [if_neg hencodable]
    exact .bind ((ensures_encoded_any s' p _).mono fun _ _ _ _ => ensures_pure ⟨_, hparams⟩)

theorem ensures_addSegments_any (s : Imports) (b : Builder) (e : Endpoint) (index : Nat)
    (segments : List Route.Segment) :
    Ensures (b.addSegments host e index segments) s (fun _ => True)
      fun b' _ => ∃ params, b'.params = b.params ++ params := by
  induction segments generalizing s b index with
  | nil => exact ensures_pure ⟨[], by simp⟩
  | cons segment segments ih =>
    have hadd : ∀ (p : String) (isWildcard : Bool),
        Ensures (b.addParam host e p index isWildcard >>= fun b' =>
            b'.addSegments host e (index + 1) segments) s (fun _ => True)
          fun b' _ => ∃ params, b'.params = b.params ++ params := by
      intro p isWildcard
      refine .bind ((ensures_addParam_any s b e p index isWildcard).mono ?_)
      rintro b' s' - ⟨params, hb'⟩
      refine (ih s' b' (index + 1)).mono ?_
      rintro b'' s'' - ⟨params', hb''⟩
      exact ⟨params ++ params', by rw [hb'', hb', List.append_assoc]⟩
    cases segment with
    | literal text => exact ih s { b with literals := b.literals ++ [text] } (index + 1)
    | finish => exact ih s b (index + 1)
    | param name => exact hadd name false
    | wildcard name => exact hadd name true

/-- **The method of an endpoint** is named for it, whatever its path parameters are. -/
theorem ensures_urlMethod_spells (s : Imports) (e : Endpoint) :
    Ensures (urlMethod host e) s (fun _ => True) fun made _ => Spells e made := by
  rw [urlMethod]
  by_cases hroot : (e.definition.label.path == "/" ||
      e.definition.label.path == "/\x7b$\x7d") = true
  · rw [if_pos hroot]
    exact .bind (ensures_pure (ensures_pure ⟨[], _, _, rfl⟩))
  · rw [if_neg hroot]
    refine .bind ((ensures_addSegments_any s _ e 1 _).mono ?_)
    rintro b s' - ⟨params, hb⟩
    have hself : b.flush.params = Param.plain "self" :: params := (flush_params b).trans hb
    exact ensures_pure ⟨params, _, _, congrArg (Stmt.function false e.ident · _ _) hself⟩

/-- **The class of the URL builders** is made unless one of its methods is not. -/
theorem ensures_urlClass {fails : Fault → Prop} {endpoints : List Endpoint}
    (h : ∀ e ∈ endpoints, ∀ s, Ensures (urlMethod host e) s fails fun made _ => Spells e made)
    (s : Imports) (name : String) :
    Ensures (urlClass host name endpoints) s fails fun stmt _ => Builds name endpoints stmt := by
  have hmethods : Ensures (urlMethods host endpoints) s fails
      fun made _ => List.Forall₂ Spells endpoints made := by
    induction endpoints generalizing s with
    | nil => exact ensures_pure .nil
    | cons e endpoints ih =>
      rw [urlMethods]
      refine .bind ((h e List.mem_cons_self s).mono fun first s₁ _ hfirst => ?_)
      refine .bind ((ih (fun e' he' => h e' (List.mem_cons_of_mem _ he')) s₁).mono ?_)
      exact fun rest s₂ _ hrest => ensures_pure (.cons hfirst hrest)
  rw [urlClass]
  exact .bind (hmethods.mono fun methods _ _ hmethods => ensures_pure ⟨methods, hmethods, rfl⟩)

end

/-! ### The whole module -/

/-- What a module is put together of. -/
structure Parts where
  imports : Imports
  grouped : List Stmt
  whole : Stmt
  entry : Stmt
  functions : List Stmt
  urls : Stmt

namespace Parts

/-- The parts in their order, between the helpers and classes that every module has. -/
def pieces (config : Config) (p : Parts) : List Piece :=
  p.imports.statements.map .stmt ++ (Support.helpers ++ (p.grouped ++ [p.whole]).map .stmt ++
    Support.classes config ++ (p.entry :: p.functions ++ [p.urls]).map .stmt)

/-- The parts are made from the endpoints. -/
structure Made (context : Context) (endpoints : List Endpoint) (p : Parts) : Prop where
  protocols : ∃ protocol, p.imports.HasLocal "typing" "Protocol" protocol ∧
    List.Forall₂ (IsProtocol context p.imports (.name protocol))
      (named (EndpointGroup.ofEndpoints endpoints)) p.grouped ∧
    IsWholeProtocol context p.imports (.name protocol) (EndpointGroup.ofEndpoints endpoints) p.whole
  entry : IsEntry context.config (EndpointGroup.ofEndpoints endpoints) p.entry
  functions : List.Forall₂ (Registers context p.imports) (EndpointGroup.ofEndpoints endpoints)
    p.functions
  urls : Builds context.config.routePathsType endpoints p.urls

end Parts

/-- The expression is that for the templates. -/
def IsTemplates (config : Config) (attributeName : String) (s : Imports) (e : Expr) : Prop :=
  ∃ name, s.HasLocal config.templatesModule config.templatesVariable name ∧
    e = if attributeName.isEmpty then Expr.name name else (Expr.name name).attribute attributeName

/-- The handlers of the endpoints and the methods that spell their paths are made, or there is a
fault of the given kind. -/
structure Makeable (context : Context) (endpoints : List Endpoint) (fails : Fault → Prop) :
    Prop where
  handler : ∀ e ∈ endpoints, ∀ s, Ensures (handler context e) s fails
    fun made s' => Handles context s' e made
  urlMethod : ∀ e ∈ endpoints, ∀ s, Ensures (urlMethod context.host e) s fails
    fun made _ => Spells e made

theorem makeable_any (context : Context) (endpoints : List Endpoint) :
    Makeable context endpoints fun _ => True :=
  ⟨fun e _ s => ensures_handler_calls context e s, fun e _ s => ensures_urlMethod_spells s e⟩

section

variable {context : Context} {endpoints : List Endpoint} {fails : Fault → Prop}

theorem makes_templatesExpr (s : Imports) (config : Config) (attributeName : String) :
    Imports.Makes (templatesExpr config attributeName) s
      fun e s' => IsTemplates config attributeName s' e := by
  rw [templatesExpr]
  refine .bind ((Imports.makes_ref s _ _).mono ?_)
  rintro _ s' - ⟨name, rfl, hname⟩
  exact Imports.makes_pure ⟨name, hname, rfl⟩

/-- Everything but the imports is made of parts. -/
theorem ensures_body (h : Makeable context endpoints fails) (s : Imports) :
    Ensures (body context endpoints) s fails fun pieces s' =>
      ∀ imports, s'.Grows imports → ∃ parts : Parts, parts.imports = imports ∧
        parts.Made context endpoints ∧
        imports.statements.map .stmt ++ pieces = parts.pieces context.config := by
  rw [body]
  refine .bind ((ensures_lift ((Imports.recording_reserve _).makes s)).mono fun _ s₁ _ _ => ?_)
  refine .bind ((ensures_lift (makes_protocols s₁ _)).mono ?_)
  rintro _ s₂ - ⟨protocol, grouped, whole, hprotocol, rfl, hgrouped, hwhole⟩
  refine .bind ((ensures_lift (makes_entryFunction s₂ _)).mono fun entry s₃ hgrows₃ hentry => ?_)
  have hhandlers : ∀ g ∈ EndpointGroup.ofEndpoints endpoints, ∀ e ∈ g.endpoints, ∀ s,
      Ensures (handler context e) s fails fun made s' => Handles context s' e made :=
    fun g hg e he => h.handler e (EndpointGroup.mem_of_mem_ofEndpoints hg he)
  refine .bind ((ensures_groupFunctions hhandlers s₃).mono fun functions s₄ hgrows₄ hfunctions => ?_)
  refine .bind ((ensures_urlClass h.urlMethod s₄ _).mono fun urls s₅ hgrows₅ hurls => ?_)
  refine ensures_pure fun imports hgrows => ?_
  have hgrows₂ := hgrows₃.trans (hgrows₄.trans (hgrows₅.trans hgrows))
  have hgrows₄ := hgrows₅.trans hgrows
  exact ⟨⟨imports, grouped, whole, entry, functions, urls⟩, rfl,
    { protocols := ⟨protocol, hprotocol.mono hgrows₂,
        hgrouped.imp fun _ _ h => h.mono hgrows₂, hwhole.mono hgrows₂⟩
      entry := hentry
      functions := hfunctions.imp fun _ _ h => h.mono hgrows₄
      urls := hurls }, rfl⟩

/-- **A module is made of parts**, unless a handler or a method that spells a path is not made. -/
theorem ensures_make {config : Config} {library : Library} {host : Host}
    {signatures : List Signature}
    (h : ∀ templates, Makeable ⟨config, host, library, signatures, templates⟩ endpoints fails)
    (attributeName : String) (s : Imports) :
    Ensures (make config library host attributeName endpoints signatures) s fails
      fun pieces s' => ∃ (templates : Expr) (parts : Parts), parts.imports = s' ∧
        IsTemplates config attributeName s' templates ∧
        parts.Made ⟨config, host, library, signatures, templates⟩ endpoints ∧
        pieces = parts.pieces config := by
  rw [make]
  have hreserve := (recording_reserveNames config endpoints).makes s
  refine .bind ((ensures_lift hreserve).mono fun _ s₁ _ _ => ?_)
  refine .bind ((ensures_lift (makes_templatesExpr s₁ _ _)).mono fun templates s₂ _ htemplates => ?_)
  refine .bind ((ensures_body (h templates) s₂).mono fun pieces s₃ hgrows hpieces => ?_)
  obtain ⟨name, hname, rfl⟩ := htemplates
  obtain ⟨parts, hparts, hmade, heq⟩ := hpieces s₃ (.refl s₃)
  have hget : Ensures (get : Making Imports) s₃ fails
      fun imports s' => imports = s₃ ∧ s' = s₃ := ensures_lift (Imports.makes_get ⟨rfl, rfl⟩)
  refine .bind (hget.mono fun imports s' _ hsame => ?_)
  rw [hsame.1, hsame.2]
  exact ensures_pure ⟨_, parts, hparts, ⟨name, hname.mono hgrows, rfl⟩, hmade, heq⟩

end

end FragmentRoutes.RoutesModule
