import FragmentRoutes.Proofs.Imports.Keeping
import FragmentRoutes.Proofs.Imports.Recording
import FragmentRoutes.Proofs.Text.SplitOn
import FragmentRoutes.RoutesModule

/-!
# Making a module only records

Every step of the making changes the imports by single writes only (`Recording`), whether it ends
well or with a fault.  So the imports of a module are coherent, and no symbol of another module goes
by the name of the receiver (`keeps_receiver`).
-/

namespace FragmentRoutes

open Code Host

namespace RoutesModule

/-- What the step changes in the imports is a run of writes. -/
def Recording {α : Type} (x : Making α) : Prop :=
  Imports.Recording x.run

section

variable {α β : Type} {x : Making α} {f : α → Making β}

theorem recording_pure (a : α) : Recording (pure a) :=
  Imports.recording_pure _

theorem recording_throw (fault : Fault) : Recording (throw fault : Making α) :=
  Imports.recording_pure _

theorem recording_lift {y : Imports.Making α} (h : Imports.Recording y) :
    Recording (liftM y : Making α) :=
  h.bind fun _ => Imports.recording_pure _

/-- Code that only records imports is run before what follows it. -/
theorem run_lift_bind (y : Imports.Making α) (s : Imports) :
    ((liftM y : Making α) >>= f).run.run s = (f (y.run s).1).run.run (y.run s).2 :=
  rfl

theorem Recording.bind (h : Recording x) (h' : ∀ a, Recording (f a)) : Recording (x >>= f) := by
  unfold Recording
  rw [ExceptT.run_bind]
  refine Imports.Recording.bind h fun result => ?_
  cases result with
  | ok a => exact h' a
  | error fault => exact Imports.recording_pure _

theorem Recording.ite {y : Making α} {c : Prop} [Decidable c] (h : Recording x)
    (h' : Recording y) : Recording (if c then x else y) := by
  split_ifs
  · exact h
  · exact h'

end

/-! ### Handlers -/

theorem recording_fail (error : Expr) : Imports.Recording (fail error) :=
  (Imports.recording_ref _ _).bind fun _ => Imports.recording_pure _

theorem recording_converted (kind : Conversion) (t : HostType) (text : Expr) :
    Imports.Recording (converted kind t text) := by
  cases kind with
  | text => exact (Imports.recording_typeExpr t).bind fun _ => Imports.recording_pure _
  | _ => exact Imports.recording_pure _

theorem recording_broken (c : Constraint) (value : Expr) : Imports.Recording (broken c value) := by
  rw [broken]
  cases c.kind with
  | pattern => exact (Imports.recording_moduleExpr "re").bind fun _ => Imports.recording_pure _
  | _ => exact Imports.recording_pure _

theorem recording_guards (name : String) (cs : List Constraint) :
    Imports.Recording (guards name cs) := by
  induction cs with
  | nil => exact Imports.recording_pure _
  | cons c cs ih =>
    have hguard : Imports.Recording (guard name c) := (recording_broken c _).bind fun _ =>
      (recording_fail _).bind fun _ => Imports.recording_pure _
    exact hguard.bind fun _ => ih.bind fun _ => Imports.recording_pure _

theorem recording_bindConverted (name : String) (kind : Conversion) (t : HostType) (text : Expr)
    (cs : List Constraint) (next : List Stmt) :
    Imports.Recording (bindConverted name kind t text cs next) := by
  have hattempt := fun checks => (recording_converted kind t text).bind fun value =>
    (recording_fail (.name "_err")).bind fun failure => Imports.recording_pure
      [Stmt.attempt [.set name value] (.name "ValueError") (some "_err") failure (checks ++ next)]
  exact (recording_guards name cs).bind fun checks =>
    .ite (Imports.recording_pure _) (hattempt checks)

section

variable (context : Context) (definition : Definition)

theorem recording_bindPath (param : Signature.Param) (id : String) (bindings : Bindings) :
    Recording (bindPath context definition param id bindings) := by
  rw [bindPath]
  split
  · exact .ite (recording_pure _) (recording_throw _)
  · split
    · exact recording_throw _
    · exact (recording_lift (recording_bindConverted _ _ _ _ _ _)).bind fun _ => recording_pure _

theorem recording_fieldConstraints (field : FormField) (t : HostType) :
    Recording (fieldConstraints context definition field t) := by
  rw [fieldConstraints]
  split
  · exact recording_throw _
  · split
    · exact recording_pure _
    · exact recording_throw _

theorem recording_bindField (struct : HostType) (field : FormField) :
    Recording (bindField context definition struct field) := by
  rw [bindField]
  dsimp only
  split
  · exact recording_throw _
  · exact (recording_fieldConstraints context definition field _).bind fun _ => .ite
      ((recording_lift (recording_bindConverted _ _ _ _ _ _)).bind fun _ => recording_pure _)
      (recording_lift (recording_bindConverted _ _ _ _ _ _))

theorem recording_bindFields (struct : HostType) (fields : List FormField) :
    Recording (bindFields context definition struct fields) := by
  induction fields with
  | nil => exact recording_pure _
  | cons field fields ih =>
    exact (recording_bindField context definition struct field).bind fun _ =>
      ih.bind fun _ => recording_pure _

theorem recording_bindStruct (struct : HostType) :
    Recording (bindStruct context definition struct) := by
  rw [bindStruct]
  dsimp only
  split
  all_goals
    exact (recording_bindFields context definition struct _).bind fun _ =>
      (recording_lift (Imports.recording_typeExpr struct)).bind fun _ => recording_pure _

theorem recording_bindForm (param : Signature.Param) (bindings : Bindings) :
    Recording (bindForm context definition param bindings) := by
  rw [bindForm]
  refine .ite ?_ ?_
  · dsimp only
    split
    · exact .ite (recording_pure _) (recording_throw _)
    · exact (recording_bindStruct context definition param.type).bind fun _ => recording_pure _
  · dsimp only
    split
    · exact recording_pure _
    · exact recording_pure _

theorem recording_bindArguments (bindings : Bindings) (uses : List (Signature.Param × String)) :
    Recording (bindArguments context definition bindings uses) := by
  induction uses generalizing bindings with
  | nil => exact recording_pure _
  | cons use uses ih =>
    have hrest : ∀ bindings' first, Recording (do
        let r ← bindArguments context definition bindings' uses
        return (r.1, first ++ r.2)) :=
      fun bindings' _ => (ih bindings').bind fun _ => recording_pure _
    rw [bindArguments]
    exact .ite
      ((recording_bindPath context definition use.1 use.2 bindings).bind fun r => hrest r.1 r.2)
      (.ite ((recording_bindForm context definition use.1 bindings).bind fun r => hrest r.1 r.2)
        ((recording_pure _).bind fun r => hrest r.1 r.2))

end

section

variable (context : Context)

theorem recording_invoke (callee target : String) (args : List Expr) (isOuter : Bool) :
    Imports.Recording (invoke context callee target args isOuter) := by
  have hinvocation : Imports.Recording (invocation (context.signature callee) args) := by
    rw [invocation]
    exact .ite ((Imports.recording_pure _).bind fun _ => Imports.recording_pure _)
      ((Imports.recording_ref _ _).bind fun _ => Imports.recording_pure _)
  exact hinvocation.bind fun _ => Imports.recording_pure _

mutual

theorem recording_invokeArgument (bindings : Bindings) : ∀ (n : Nat) (a : Argument),
    Imports.Recording (invokeArgument context bindings n a)
  | n, .name id => by
    rw [invokeArgument]
    exact Imports.recording_pure _
  | n, .call callee args => by
    rw [invokeArgument]
    exact (recording_invokeArguments bindings n args).bind fun _ =>
      (recording_invoke context _ _ _ _).bind fun _ => Imports.recording_pure _

theorem recording_invokeArguments (bindings : Bindings) : ∀ (n : Nat) (as : List Argument),
    Imports.Recording (invokeArguments context bindings n as)
  | n, [] => by
    rw [invokeArguments]
    exact Imports.recording_pure _
  | n, a :: as => by
    rw [invokeArguments]
    exact (recording_invokeArgument bindings n a).bind fun r =>
      (recording_invokeArguments bindings r.2.1 as).bind fun _ => Imports.recording_pure _

end

/-- **Making a handler only records.** -/
theorem recording_handler (e : Endpoint) : Recording (handler context e) := by
  have hcall : Recording (callBody context e.definition) := by
    rw [callBody]
    split
    · exact recording_pure _
    · rename_i call _
      refine (recording_bindArguments context e.definition _ _).bind fun r => ?_
      have hinvoked : Imports.Recording (invokeCall context r.1 call) :=
        (recording_invokeArguments context r.1 0 call.args).bind fun _ =>
          (recording_invoke context _ _ _ _).bind fun _ => Imports.recording_pure _
      exact (recording_lift hinvoked).bind fun _ => recording_pure _
  exact hcall.bind fun _ => recording_pure _

/-! ### Protocols and registration -/

theorem recording_protocolMethods (gs : List Signature) :
    Imports.Recording (protocolMethods gs) := by
  have hparams : ∀ ps, Imports.Recording (paramsOf ps) := by
    intro ps
    induction ps with
    | nil => exact Imports.recording_pure _
    | cons p ps ih =>
      exact (Imports.recording_typeExpr p.type).bind fun _ =>
        ih.bind fun _ => Imports.recording_pure _
  induction gs with
  | nil => exact Imports.recording_pure _
  | cons g gs ih =>
    have hmethod : Imports.Recording (protocolMethod g) := (hparams g.params).bind fun _ =>
      (Imports.recording_typeExpr g.returns).bind fun _ => Imports.recording_pure _
    exact hmethod.bind fun _ => ih.bind fun _ => Imports.recording_pure _

theorem recording_groupProtocols (protocol : Expr) (groups : List EndpointGroup) :
    Imports.Recording (groupProtocols context protocol groups) := by
  induction groups with
  | nil => exact Imports.recording_pure _
  | cons g groups ih =>
    exact (recording_protocolMethods _).bind fun _ => ih.bind fun _ =>
      .ite (Imports.recording_pure _) (Imports.recording_pure _)

theorem recording_protocols (groups : List EndpointGroup) :
    Imports.Recording (protocols context groups) :=
  (Imports.recording_ref _ _).bind fun _ =>
    (recording_groupProtocols context _ groups).bind fun _ => Imports.recording_pure _

theorem recording_optionalParams (kind : ParamKind) (hasPrefix : Bool) :
    Imports.Recording (optionalParams context kind hasPrefix) := by
  unfold optionalParams
  exact .ite ((Imports.recording_moduleExpr "logging").bind fun _ => Imports.recording_pure _)
    (Imports.recording_pure _)

theorem recording_groupFunctions (groups : List EndpointGroup) :
    Recording (groupFunctions context groups) := by
  have hhandlers : ∀ endpoints, Recording (handlers context endpoints) := by
    intro endpoints
    induction endpoints with
    | nil => exact recording_pure _
    | cons e endpoints ih =>
      exact (recording_handler context e).bind fun _ => ih.bind fun _ => recording_pure _
  induction groups with
  | nil => exact recording_pure _
  | cons g groups ih =>
    have hgroup : Recording (groupFunction context g) := (hhandlers g.endpoints).bind fun _ =>
      (recording_lift (recording_optionalParams context _ _)).bind fun _ => recording_pure _
    exact hgroup.bind fun _ => ih.bind fun _ => recording_pure _

end

/-! ### URL builders -/

section

variable (host : Host)

theorem recording_addParam (b : Builder) (e : Endpoint) (p : String) (index : Nat)
    (isWildcard : Bool) : Recording (b.addParam host e p index isWildcard) := by
  have hencoded : ∀ t, Recording (encoded p t) := by
    intro t
    rw [encoded]
    exact .ite (recording_pure _) (.ite (recording_pure _) (.ite (recording_pure _)
      (recording_throw _)))
  exact (recording_lift (Imports.recording_typeExpr _)).bind fun _ =>
    .ite (recording_pure _) ((hencoded _).bind fun _ => recording_pure _)

theorem recording_addSegments (b : Builder) (e : Endpoint) (index : Nat)
    (segments : List Route.Segment) : Recording (b.addSegments host e index segments) := by
  induction segments generalizing b index with
  | nil => exact recording_pure _
  | cons segment segments ih =>
    cases segment with
    | literal text => exact (recording_pure _).bind fun b' => ih b' _
    | finish => exact (recording_pure _).bind fun b' => ih b' _
    | param name => exact (recording_addParam host b e name index false).bind fun b' => ih b' _
    | wildcard name => exact (recording_addParam host b e name index true).bind fun b' => ih b' _

theorem recording_urlClass (name : String) (endpoints : List Endpoint) :
    Recording (urlClass host name endpoints) := by
  have hmethod : ∀ e, Recording (urlMethod host e) := by
    intro e
    rw [urlMethod]
    exact .ite ((recording_pure _).bind fun _ => recording_pure _)
      ((recording_addSegments host _ e _ _).bind fun _ => recording_pure _)
  have hmethods : Recording (urlMethods host endpoints) := by
    induction endpoints with
    | nil => exact recording_pure _
    | cons e endpoints ih => exact (hmethod e).bind fun _ => ih.bind fun _ => recording_pure _
  exact hmethods.bind fun _ => recording_pure _

end

/-! ### The whole module -/

/-- **Everything after the names are reserved** only records. -/
theorem recording_body (context : Context) (endpoints : List Endpoint) :
    Recording (body context endpoints) := by
  have hentry : ∀ groups, Imports.Recording (entryFunction context groups) := fun _ =>
    (recording_optionalParams context _ _).bind fun _ => Imports.recording_pure _
  exact (recording_lift (Imports.recording_reserve _)).bind fun _ =>
    (recording_lift (recording_protocols context _)).bind fun _ =>
      (recording_lift (hentry _)).bind fun _ =>
        (recording_groupFunctions context _).bind fun _ =>
          (recording_urlClass context.host _ endpoints).bind fun _ => recording_pure _

/-- What is recorded before anything is made. -/
def reservedWrites (config : Config) (endpoints : List Endpoint) : List Imports.Write :=
  (Support.definedNames config).map .reserve ++ Support.modules.map .module ++
    Support.symbols.map (fun (module, symbol) => .symbol ⟨module, symbol⟩) ++
    ((Route.argumentNames ++ Route.generatedNames) ++
      endpoints.flatMap fun e => e.handlerName :: e.definition.label.params).map .reserve

theorem run_reserveNames (config : Config) (endpoints : List Endpoint) (s : Imports) :
    ((reserveNames config endpoints).run s).2 =
      (reservedWrites config endpoints).foldl Imports.Write.apply s := by
  have hreserve : ∀ (s : Imports) (names : List String),
      s.reserve names = (names.map .reserve).foldl Imports.Write.apply s := by
    intro s names
    rw [List.foldl_map]
    rfl
  have hmodules : ∀ (s : Imports) (names : List String),
      names.foldl (·.addModule ·) s = (names.map .module).foldl Imports.Write.apply s := by
    intro s names
    rw [List.foldl_map]
    rfl
  have hsymbols : ∀ (symbols : List (String × String)) (s : Imports),
      ((forIn symbols PUnit.unit fun (module, symbol) _ => do
          let _ ← Imports.localName module symbol
          pure (ForInStep.yield PUnit.unit) : Imports.Making PUnit).run s).2 =
        (symbols.map fun (module, symbol) => .symbol ⟨module, symbol⟩).foldl
          Imports.Write.apply s := by
    intro symbols
    induction symbols with
    | nil => exact fun _ => rfl
    | cons symbol symbols ih =>
      intro s
      rw [List.forIn_cons]
      exact ih (s.ask ⟨symbol.1, symbol.2⟩)
  unfold reservedWrites
  rw [List.map_append, List.foldl_append, List.foldl_append, List.foldl_append, List.foldl_append,
    ← hreserve, ← hreserve, ← hreserve, ← hmodules, ← hsymbols]
  unfold reserveNames Support.register
  -- what is recorded stays closed, or it is put together on both sides
  generalize Support.symbols = symbols, Support.modules = modules
  generalize Support.definedNames config = defined
  simp only [StateT.run_bind, StateT.run_modify, StateT.run_pure, pure_bind]
  rfl

theorem recording_reserveNames (config : Config) (endpoints : List Endpoint) :
    Imports.Recording (reserveNames config endpoints) :=
  fun s => ⟨reservedWrites config endpoints, run_reserveNames config endpoints s⟩

/-- The name of the receiver is reserved before anything else gets it. -/
theorem keeps_reservedWrites (config : Config) (endpoints : List Endpoint) :
    ((reservedWrites config endpoints).foldl Imports.Write.apply (Imports.start "")).Keeps
      "receiver" := by
  refine Imports.keeps_foldl_start ?_ (by decide) ?_
  · refine List.mem_append_right _ (List.mem_map_of_mem ?_)
    exact List.mem_append_left _ (by decide)
  · have hmodules : ∀ module ∈ Support.modules, Imports.headOf module ≠ "receiver" := by
      have hplain : ∀ module ∈ Support.modules, '.' ∉ module.toList := by decide +kernel
      have hname : "receiver" ∉ Support.modules := by decide +kernel
      intro module hmodule heq
      rw [Imports.headOf_of_notMem (hplain module hmodule)] at heq
      exact hname (heq ▸ hmodule)
    have hsymbols : ∀ symbol ∈ Support.symbols, symbol.2 ≠ "receiver" := by decide +kernel
    intro w hw
    simp only [reservedWrites, List.mem_append, List.mem_map] at hw
    rcases hw with ((⟨name, -, rfl⟩ | ⟨path, hpath, rfl⟩) | ⟨symbol, hsymbol, rfl⟩) | ⟨name, -, rfl⟩
    · trivial
    · exact hmodules path hpath
    · exact hsymbols symbol hsymbol
    · trivial

/-- **No symbol of another module goes by the name of the receiver** in a module that is made. -/
theorem keeps_receiver (config : Config) (library : Library) (host : Host) (attributeName : String)
    (endpoints : List Endpoint) (signatures : List Signature) :
    ((make config library host attributeName endpoints signatures).run.run
      (Imports.start "")).2.Keeps "receiver" := by
  have hget : Recording (get : Making Imports) := fun _ => ⟨[], rfl⟩
  have htemplates : Imports.Recording (templatesExpr config attributeName) :=
    (Imports.recording_ref _ _).bind fun _ => Imports.recording_pure _
  rw [make, run_lift_bind, run_reserveNames]
  generalize hs : (reservedWrites config endpoints).foldl Imports.Write.apply (Imports.start "") = s
  have hkeeps : s.Keeps "receiver" := hs ▸ keeps_reservedWrites config endpoints
  have hrest := (recording_lift htemplates).bind fun templates =>
    (recording_body ⟨config, host, library, signatures, templates⟩ endpoints).bind fun pieces =>
      hget.bind fun imports => recording_pure (imports.statements.map Piece.stmt ++ pieces)
  obtain ⟨ws, hws⟩ := hrest s
  exact hws ▸ hkeeps.foldl ws

end RoutesModule

end FragmentRoutes
