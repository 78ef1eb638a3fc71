import FragmentRoutes.Proofs.Definition.Collection
import FragmentRoutes.Proofs.Naming
import FragmentRoutes.Proofs.Registration.Order
import FragmentRoutes.Proofs.RoutesModule.Assembly
import FragmentRoutes.Proofs.RoutesModule.Resolved
import FragmentRoutes.Proofs.Text.Order

/-!
# Every route is registered once

The function of a group defines the handlers of its endpoints
(`definedIn`) and returns their routes (`listed?`), so all functions together have one handler and
one route for each endpoint, in whatever order the groups list them.  The entry function puts together what the
functions return (`collected`).
-/

namespace FragmentRoutes

open Code Host

namespace RoutesModule

/-! ### Reading functions -/

/-- The name of a function or class that is defined. -/
def definedName? : Stmt → Option String
  | .function _ name _ _ _ => some name
  | .classDef name _ _ => some name
  | _ => none

/-- The functions and classes that are defined in a function. -/
def definedIn : Stmt → List Stmt
  | .function _ _ _ _ body => body.filter Stmt.isDefinition
  | _ => []

/-- A route that is listed with its rank and its host, with the methods that it is given. -/
structure Entry where
  rank : Int
  host : String
  path : String
  handler : String
  methods : Option (List String)
  name : String
  deriving DecidableEq, Repr

namespace Entry

/-- The text that an expression is the constant for. -/
def text? : Expr → Option String
  | .constant (.text value) => some value
  | _ => none

/-- The methods and the name among the options of a route. -/
def options? : List (Option String × Expr) → Option (Option (List String) × String)
  | [(some "name", .constant (.text name))] => some (none, name)
  | [(some "methods", .list methods), (some "name", .constant (.text name))] =>
    (methods.mapM text?).map fun methods => (some methods, name)
  | _ => none

/-- The route that an item of a list of routes stands for. -/
def read? : Expr → Option Entry
  | .tuple [.constant (.int rank), .constant (.text host),
      .call (.name "Route") [.constant (.text path), .name handler] options] =>
    (options? options).map fun (methods, name) => ⟨rank, host, path, handler, methods, name⟩
  | _ => none

/-- The route that an endpoint asks for. -/
def ofEndpoint (e : Endpoint) : Entry :=
  let label := e.definition.label
  ⟨e.rank, label.host, label.routerPath, e.handlerName, label.method.map fun m => [m.render],
    e.ident⟩

/-- **The route of an endpoint is read back.** -/
theorem read?_routeEntry (e : Endpoint) : read? (routeEntry e) = some (ofEndpoint e) := by
  unfold routeEntry ofEndpoint Endpoint.methodText Route.Label.methodText
  dsimp only
  cases e.definition.label.method with
  | none => rfl
  | some m => cases m <;> rfl

end Entry

/-- The routes that a function returns. -/
def listed? : Stmt → Option (List Entry)
  | .function _ _ _ _ body =>
    match body.getLast? with
    | some (.ret (.list items)) => items.mapM Entry.read?
    | _ => none
  | _ => none

/-- The function whose routes a statement puts to the others. -/
def collected? : Stmt → Option String
  | .expr (.call (.attribute (.name "_entries") "extend") [.call (.name function) _ _] []) =>
    some function
  | _ => none

/-- The functions whose routes a function puts together. -/
def collected : Stmt → List String
  | .function _ _ _ _ body => body.filterMap collected?
  | _ => []

section

variable {context : Context} {s : Imports}

theorem Registers.definedName?_eq {g : EndpointGroup} {stmt : Stmt}
    (h : Registers context s g stmt) :
    definedName? stmt = some (Group.functionName context.config g.ident) := by
  obtain ⟨front, params, made, -, -, rfl⟩ := h
  rfl

theorem IsProtocol.definedName?_eq {protocol : Expr} {g : EndpointGroup} {stmt : Stmt}
    (h : IsProtocol context s protocol g stmt) :
    definedName? stmt = some (Group.protocolName context.config g.ident) := by
  obtain ⟨methods, -, rfl⟩ := h
  rfl

theorem IsWholeProtocol.definedName?_eq {protocol : Expr}
    {groups : List EndpointGroup} {stmt : Stmt} (h : IsWholeProtocol context s protocol groups stmt) :
    definedName? stmt = some context.config.receiverInterface := by
  obtain ⟨methods, -, rfl⟩ := h
  rfl

theorem IsEntry.definedName?_eq {config : Config} {groups : List EndpointGroup} {stmt : Stmt}
    (h : IsEntry config groups stmt) : definedName? stmt = some config.routesFunction := by
  obtain ⟨params, rfl⟩ := h
  rfl

theorem Builds.definedName?_eq {name : String} {endpoints : List Endpoint}
    {stmt : Stmt} (h : Builds name endpoints stmt) :
    definedName? stmt = some name := by
  obtain ⟨methods, -, rfl⟩ := h
  rfl

/-- **The function of a group** defines the handlers of its endpoints. -/
theorem Registers.forall₂_definedIn {g : EndpointGroup} {stmt : Stmt}
    (h : Registers context s g stmt) :
    List.Forall₂ (Handles context s) g.endpoints (definedIn stmt) := by
  obtain ⟨front, params, made, hmade, hfront, rfl⟩ := h
  have hdefinitions : made.filter Stmt.isDefinition = made := by
    refine List.filter_eq_self.mpr fun stmt hstmt => ?_
    obtain ⟨i, hi, rfl⟩ := List.getElem_of_mem hstmt
    have hlength := hmade.length_eq
    obtain ⟨_, _, _, heq, -⟩ := (List.forall₂_iff_get.mp hmade).2 i (by omega) hi
    exact congrArg Stmt.isDefinition heq
  have hfront : front.filter Stmt.isDefinition = [] := by
    rcases hfront with rfl | rfl
    · rfl
    · rfl
  rw [definedIn, List.filter_append, List.filter_append, List.filter_append, hfront, hdefinitions]
  simpa [Stmt.isDefinition, Stmt.set] using hmade

/-- **The function of a group** returns the routes of its endpoints. -/
theorem Registers.listed?_eq {g : EndpointGroup} {stmt : Stmt} (h : Registers context s g stmt) :
    listed? stmt = some (g.endpoints.map Entry.ofEndpoint) := by
  obtain ⟨front, params, made, -, -, rfl⟩ := h
  have hroutes : (g.endpoints.map routeEntry).mapM Entry.read? =
      some (g.endpoints.map Entry.ofEndpoint) := by
    induction g.endpoints with
    | nil => rfl
    | cons e endpoints ih =>
      rw [List.map_cons, List.mapM_cons, Entry.read?_routeEntry, ih]
      rfl
  rw [listed?, List.getLast?_append_of_ne_nil _ (List.cons_ne_nil _ _)]
  exact hroutes

/-- **The entry function** puts together the routes of all groups. -/
theorem IsEntry.collected_eq {config : Config} {groups : List EndpointGroup} {stmt : Stmt}
    (h : IsEntry config groups stmt) :
    collected stmt = groups.map fun g => Group.functionName config g.ident := by
  obtain ⟨params, rfl⟩ := h
  have hgroups : ∀ args : List Expr, (groups.map fun g => Stmt.expr
      (.apply (.attribute (.name "_entries") "extend")
        [.applyName (Group.functionName config g.ident) args])).filterMap collected? =
      groups.map fun g => Group.functionName config g.ident := by
    intro args
    induction groups with
    | nil => rfl
    | cons g groups ih => exact congrArg (_ :: ·) ih
  rw [collected, entryBody, List.filterMap_append, List.filterMap_append, hgroups]
  exact List.append_nil _

end

/-! ### Coverage -/

namespace Parts

/-- What the functions of the groups define. -/
def handlers (p : Parts) : List Stmt :=
  p.functions.flatMap definedIn

/-- The routes that the functions of the groups return. -/
def entries? (p : Parts) : Option (List Entry) :=
  (p.functions.mapM listed?).map List.flatten

/-- The parts **cover** the endpoints: each endpoint has one handler and one route, the ranks of the
routes are the numbers from zero on, the handlers have different names, the routes of each function
are put together once, and each endpoint has one method that spells its path. -/
structure Covers (context : Context) (endpoints : List Endpoint) (p : Parts) : Prop where
  routes : ∃ order : List Endpoint, order.Perm endpoints ∧
    List.Forall₂ (Handles context p.imports) order p.handlers ∧
    p.entries? = some (order.map Entry.ofEndpoint)
  ranks : ∃ entries, p.entries? = some entries ∧
    (entries.map (·.rank)).Perm ((List.range endpoints.length).map Int.ofNat)
  handlers : (p.handlers.map definedName?).Nodup
  collected : p.functions.map definedName? = (collected p.entry).map some ∧
    (collected p.entry).Nodup
  urls : Builds context.config.routePathsType endpoints p.urls

end Parts

section

variable {context : Context} {endpoints : List Endpoint}

/-- What is defined for endpoints has the names of their handlers. -/
theorem map_definedName?_of_handles {s : Imports} {made : List Stmt}
    (h : List.Forall₂ (Handles context s) endpoints made) :
    made.map definedName? = endpoints.map fun e => some e.handlerName := by
  induction h with
  | nil => rfl
  | cons hfirst _ ih =>
    obtain ⟨_, _, _, rfl, -⟩ := hfirst
    exact congrArg (_ :: ·) ih

/-- The functions of groups define the handlers of all their endpoints, and return their routes. -/
theorem routes_of_registers {s : Imports} {groups : List EndpointGroup} {functions : List Stmt}
    (h : List.Forall₂ (Registers context s) groups functions) :
    List.Forall₂ (Handles context s) (groups.flatMap (·.endpoints))
        (functions.flatMap definedIn) ∧
      (functions.mapM listed?).map List.flatten =
        some ((groups.flatMap (·.endpoints)).map Entry.ofEndpoint) := by
  induction h with
  | nil => exact ⟨.nil, rfl⟩
  | cons hfirst _ ih =>
    obtain ⟨hhandlers, hentries⟩ := ih
    obtain ⟨lists, hlists, hflatten⟩ := Option.map_eq_some_iff.mp hentries
    refine ⟨List.rel_append hfirst.forall₂_definedIn hhandlers, ?_⟩
    rw [List.mapM_cons, hfirst.listed?_eq, hlists, List.flatMap_cons, List.map_append, ← hflatten]
    rfl

theorem map_definedName?_of_registers {s : Imports} {groups : List EndpointGroup}
    {functions : List Stmt} (h : List.Forall₂ (Registers context s) groups functions) :
    functions.map definedName? =
      groups.map fun g => some (Group.functionName context.config g.ident) := by
  induction h with
  | nil => rfl
  | cons hfirst _ ih => rw [List.map_cons, List.map_cons, hfirst.definedName?_eq, ih]

/-- **Parts that are made from endpoints cover them** if the endpoints have the identifiers and the
ranks of their definitions. -/
theorem Parts.Made.covers {p : Parts} (h : p.Made context endpoints)
    (hidents : endpoints.map (·.ident) = Naming.allocate (endpoints.map (·.definition)))
    (hranks : endpoints.map (·.rank) = Registration.ranks (endpoints.map (·.definition))) :
    p.Covers context endpoints := by
  have hperm := EndpointGroup.perm_ofEndpoints endpoints
  obtain ⟨hhandlers, hentries⟩ := routes_of_registers h.functions
  refine ⟨⟨_, hperm, hhandlers, hentries⟩, ⟨_, hentries, ?_⟩, ?_, ⟨?_, ?_⟩, h.urls⟩
  · have hnumbers : (endpoints.map (·.rank)).Perm (List.range endpoints.length) := by
      rw [hranks]
      simpa using Registration.perm_ranks (endpoints.map (·.definition))
    have hall := ((hperm.map (·.rank)).trans hnumbers).map Int.ofNat
    rw [List.map_map] at hall ⊢
    exact hall
  · have hnodup : (endpoints.map (·.ident)).Nodup := by
      rw [hidents]
      exact Naming.nodup_allocate _
    have hall := ((hperm.map (·.ident)).nodup_iff.mpr hnodup).map
      (f := fun ident => some ("handle_" ++ ident)) fun a b hab =>
        (String.append_right_inj _).mp (Option.some.inj hab)
    rw [List.map_map] at hall
    rw [Parts.handlers, map_definedName?_of_handles hhandlers]
    exact hall
  · rw [map_definedName?_of_registers h.functions, h.entry.collected_eq, List.map_map]
    rfl
  · have hnodup := (EndpointGroup.nodup_idents endpoints).map (functionName_injective context.config)
    rw [← EndpointGroup.map_ident_ofEndpoints, List.map_map] at hnodup
    rw [h.entry.collected_eq]
    exact hnodup

end

/-! ### Modules -/

/-- The endpoints have the definitions, each with the identifier and the rank of its definition. -/
structure Ordered (endpoints : List Endpoint) (definitions : List Definition) : Prop where
  definition : endpoints.map (·.definition) = definitions
  ident : endpoints.map (·.ident) = Naming.allocate definitions
  rank : endpoints.map (·.rank) = Registration.ranks definitions

theorem ordered_zip {definitions : List Definition} {resolved : List Endpoint.Resolved}
    {redirects : List Bool} (hresolved : resolved.length = definitions.length)
    (hredirects : redirects.length = definitions.length) :
    Ordered (Endpoint.zip definitions (Naming.allocate definitions)
      (Registration.ranks definitions) resolved redirects) definitions := by
  have hzip : ∀ {ds : List Definition} {idents : List String} {ranks : List Nat}
      {rs : List Endpoint.Resolved} {bs : List Bool}, idents.length = ds.length →
      ranks.length = ds.length → rs.length = ds.length → bs.length = ds.length →
      (Endpoint.zip ds idents ranks rs bs).map (·.definition) = ds ∧
        (Endpoint.zip ds idents ranks rs bs).map (·.ident) = idents ∧
        (Endpoint.zip ds idents ranks rs bs).map (·.rank) = ranks := by
    intro ds
    induction ds with
    | nil =>
      intro idents ranks rs bs hidents hranks _ _
      rw [List.eq_nil_of_length_eq_zero hidents, List.eq_nil_of_length_eq_zero hranks]
      exact ⟨rfl, rfl, rfl⟩
    | cons d ds ih =>
      intro idents ranks rs bs hidents hranks hrs hbs
      obtain ⟨ident, idents, rfl⟩ := List.exists_cons_of_length_eq_add_one hidents
      obtain ⟨rank, ranks, rfl⟩ := List.exists_cons_of_length_eq_add_one hranks
      obtain ⟨r, rs, rfl⟩ := List.exists_cons_of_length_eq_add_one hrs
      obtain ⟨b, bs, rfl⟩ := List.exists_cons_of_length_eq_add_one hbs
      obtain ⟨hd, hident, hrank⟩ := ih (Nat.succ.inj hidents) (Nat.succ.inj hranks)
        (Nat.succ.inj hrs) (Nat.succ.inj hbs)
      exact ⟨congrArg (d :: ·) hd, congrArg (ident :: ·) hident, congrArg (rank :: ·) hrank⟩
  have hranks := (Registration.perm_ranks definitions).length_eq
  rw [List.length_range] at hranks
  obtain ⟨hd, hident, hrank⟩ :=
    hzip (Naming.length_allocate definitions) hranks hresolved hredirects
  exact ⟨hd, hident, hrank⟩

theorem length_mapM {ε α β : Type} {f : α → Except ε β} {items : List α} {results : List β}
    (h : items.mapM f = .ok results) : results.length = items.length := by
  induction items generalizing results with
  | nil =>
    obtain rfl := Except.ok.inj h
    rfl
  | cons a items ih =>
    rw [List.mapM_cons, Except.bind_eq_ok] at h
    obtain ⟨b, -, h⟩ := h
    obtain ⟨bs, hbs, h⟩ := Except.bind_eq_ok.mp h
    obtain rfl := Except.ok.inj h
    exact congrArg (· + 1) (ih hbs)

/-- **The endpoints of a library** have its definitions. -/
theorem ordered_of_ofLibrary {library : Library} {host : Host} {endpoints : List Endpoint}
    {signatures : List Signature}
    (h : Endpoint.ofLibrary library host = .ok (endpoints, signatures)) :
    ∃ definitions, Definition.ofFragments library.fragments = .ok definitions ∧
      Ordered endpoints definitions := by
  obtain ⟨definitions, resolved, redirects, hdefinitions, hresolved, hredirects, rfl⟩ :=
    Endpoint.ofLibrary_eq_ok_iff.mp h
  have hlength := (Endpoint.resolvedTo_of_resolveFrom hresolved).length_eq
  exact ⟨definitions, hdefinitions, ordered_zip hlength.symm (length_mapM hredirects)⟩

/-- A module is generated exactly if there are endpoints and the pieces are made from them. -/
theorem generate_eq_ok_iff {config : Config} {library : Library} {host : Host}
    {attributeName : String} {m : RoutesModule} :
    generate config library host attributeName = .ok m ↔
      m.fileName = config.outputFile ∧
      Endpoint.ofLibrary library host = .ok (m.endpoints, m.signatures) ∧
      ((make config library host attributeName m.endpoints m.signatures).run.run
        (Imports.start "")).1 = .ok m.pieces := by
  obtain ⟨fileName, pieces, endpoints, signatures⟩ := m
  rw [generate, Except.bind_eq_ok]
  constructor
  · rintro ⟨⟨endpoints', signatures'⟩, hlibrary, h⟩
    dsimp only at h
    split at h
    · rename_i pieces' hmade
      cases h
      exact ⟨rfl, Except.mapError_eq_ok.mp hlibrary, hmade⟩
    · cases h
  · rintro ⟨rfl, hlibrary, hmade⟩
    refine ⟨(endpoints, signatures), Except.mapError_eq_ok.mpr hlibrary, ?_⟩
    dsimp only at hmade ⊢
    rw [hmade]
    rfl

/-- **A module that is generated** is put together of parts that are made from its endpoints, which
have the definitions of the library. -/
theorem exists_parts_of_generate {config : Config} {library : Library} {host : Host}
    {attributeName : String} {m : RoutesModule}
    (h : generate config library host attributeName = .ok m) :
    ∃ (definitions : List Definition) (templates : Expr) (parts : Parts),
      Definition.ofFragments library.fragments = .ok definitions ∧
      Ordered m.endpoints definitions ∧ IsTemplates config attributeName parts.imports templates ∧
      parts.imports.Keeps "receiver" ∧
      parts.Made ⟨config, host, library, m.signatures, templates⟩ m.endpoints ∧
      m.pieces = parts.pieces config := by
  obtain ⟨-, hlibrary, hmade⟩ := generate_eq_ok_iff.mp h
  obtain ⟨definitions, hdefinitions, hordered⟩ := ordered_of_ofLibrary hlibrary
  have hmakeable : ∀ templates, Makeable ⟨config, host, library, m.signatures, templates⟩
      m.endpoints fun _ => True := fun templates => makeable_any _ _
  obtain ⟨templates, parts, himports, htemplates, hparts, hpieces⟩ :=
    (ensures_make hmakeable attributeName (Imports.start "")).of_run hmade
  rw [← himports] at htemplates
  refine ⟨definitions, templates, parts, hdefinitions, hordered, htemplates, ?_, hparts, hpieces⟩
  rw [himports]
  exact keeps_receiver config library host attributeName m.endpoints m.signatures

/-! ### Pages without parameters -/

theorem resolveFrom_of_no_call (host : Host) (signatures : List Signature) {ds : List Definition}
    (h : ∀ d ∈ ds, d.call = none) :
    ∃ resolved, Endpoint.resolveFrom host signatures ds = .ok (resolved, signatures) := by
  induction ds with
  | nil => exact ⟨[], rfl⟩
  | cons d ds ih =>
    obtain ⟨resolved, hresolved⟩ := ih fun d' hd' => h d' (List.mem_cons_of_mem _ hd')
    have hrun : (Resolution.resolve host d).run ⟨signatures, []⟩ = (.ok none, ⟨signatures, []⟩) := by
      rw [Resolution.resolve, h d List.mem_cons_self]
      rfl
    refine ⟨(none, []) :: resolved, ?_⟩
    rw [Endpoint.resolveFrom, hrun]
    dsimp only
    rw [hresolved]
    rfl

theorem exists_mapM_eq_ok {ε α β : Type} {f : α → Except ε β} {items : List α}
    (h : ∀ a ∈ items, ∃ b, f a = .ok b) : ∃ results, items.mapM f = .ok results := by
  induction items with
  | nil => exact ⟨[], rfl⟩
  | cons a items ih =>
    obtain ⟨b, hb⟩ := h a List.mem_cons_self
    obtain ⟨bs, hbs⟩ := ih fun a' ha' => h a' (List.mem_cons_of_mem _ ha')
    exact ⟨b :: bs, by rw [List.mapM_cons, hb, hbs]; rfl⟩

/-- The handler of an endpoint ends well if its call passes no identifiers. -/
theorem ensures_handler_of_no_uses {context : Context} {e : Endpoint}
    (h : ∀ call, e.definition.call = some call → context.uses call = []) (s : Imports) :
    Ensures (handler context e) s (fun _ => False) fun _ _ => True := by
  rw [handler_eq, callBody]
  cases hcall : e.definition.call with
  | none => exact .bind (ensures_pure (ensures_pure trivial))
  | some call =>
    have huses : boundArguments context (context.signature call.callee).params call.args = [] :=
      h call hcall
    dsimp only
    rw [huses]
    refine .bind (.bind (ensures_pure ?_))
    refine .bind ((ensures_lift (makes_invokeCall context _ call s)).mono fun _ _ _ _ => ?_)
    exact ensures_pure (ensures_pure trivial)

/-- Endpoints are made if their calls pass no identifiers and their paths have no parameters. -/
theorem makeable_of_static {context : Context} {endpoints : List Endpoint}
    (hlabel : ∀ e ∈ endpoints, e.definition.label.Normal)
    (huses : ∀ e ∈ endpoints, ∀ call, e.definition.call = some call → context.uses call = [])
    (hparams : ∀ e ∈ endpoints, e.definition.label.params = []) :
    Makeable context endpoints fun _ => False where
  handler e he s := by
    have hmade := ensures_handler_of_no_uses (huses e he) s
    exact (hmade.and (ensures_handler_calls context e s)).mono fun _ _ _ h => h.2
  urlMethod e he s := by
    have htypes : ∀ p ∈ e.definition.label.params, ∃ c, e.pathType p = .cls c := by
      simp [hparams e he]
    refine ((ensures_urlMethod s (hlabel e he) htypes).mono_fails ?_).mono ?_
    · rintro fault ⟨p, hp, -⟩
      simp [hparams e he] at hp
    · rintro made _ - ⟨params, returns, body, hmade, -⟩
      exact ⟨params, returns, body, hmade⟩

/-- **Pages are always generated** if their calls are resolved, these pass no identifiers, their
paths have no parameters and it can be told whether they redirect. -/
theorem exists_generate_of_static (config : Config) {library : Library} {host : Host}
    (attributeName : String) {definitions : List Definition} {resolved : List Endpoint.Resolved}
    {signatures : List Signature} (h : Definition.ofFragments library.fragments = .ok definitions)
    (hresolved : Endpoint.resolveFrom host [] definitions = .ok (resolved, signatures))
    (hidentifiers : ∀ d ∈ definitions, ∀ call, d.call = some call → call.identifiers = [])
    (hparams : ∀ d ∈ definitions, d.label.params = [])
    (hredirects : ∀ d ∈ definitions, ∃ b, Redirect.mayRedirect library [] d.name = .ok b) :
    ∃ m, generate config library host attributeName = .ok m ∧ m.signatures = signatures := by
  obtain ⟨redirects, hredirects⟩ := exists_mapM_eq_ok hredirects
  have hlibrary := Endpoint.ofLibrary_eq_ok_iff.mpr
    ⟨definitions, resolved, redirects, h, hresolved, hredirects, rfl⟩
  obtain ⟨definitions', hdefinitions', hordered⟩ := ordered_of_ofLibrary hlibrary
  obtain rfl := Except.ok.inj (h.symm.trans hdefinitions')
  revert hlibrary hordered
  generalize Endpoint.zip definitions (Naming.allocate definitions)
    (Registration.ranks definitions) resolved redirects = endpoints
  intro hlibrary hordered
  have hmem : ∀ e ∈ endpoints, e.definition ∈ definitions := fun e he => by
    rw [← hordered.definition]
    exact List.mem_map_of_mem he
  have huses : ∀ templates, ∀ e ∈ endpoints, ∀ call, e.definition.call = some call →
      Context.uses ⟨config, host, library, signatures, templates⟩ call = [] := by
    intro templates e he call hcall
    have hresolves : Context.Resolves ⟨config, host, library, signatures, templates⟩ e :=
      resolves_of_mem_ofLibrary hlibrary he
    have hnames := map_snd_uses (matches_of_callTyped fun c hc => hresolves.callTyped hcall hc)
    rw [hidentifiers _ (hmem e he) call hcall] at hnames
    exact List.map_eq_nil_iff.mp hnames
  have hmakeable : ∀ templates, Makeable ⟨config, host, library, signatures, templates⟩ endpoints
      fun _ => False := fun templates => makeable_of_static
    (fun e he => Definition.normal_of_mem h (hmem e he)) (huses templates)
    (fun e he => hparams _ (hmem e he))
  obtain ⟨pieces, s', hrun, -⟩ :=
    (ensures_make hmakeable attributeName (Imports.start "")).exists_run fun _ => id
  exact ⟨⟨config.outputFile, pieces, endpoints, signatures⟩,
    generate_eq_ok_iff.mpr ⟨rfl, hlibrary, congrArg Prod.fst hrun⟩, rfl⟩

/-- Pages that call nothing are generated for every application. -/
theorem exists_generate_of_pages (config : Config) {library : Library} (host : Host)
    {definitions : List Definition} (h : Definition.ofFragments library.fragments = .ok definitions)
    (hstatic : ∀ d ∈ definitions, d.call = none ∧ d.label.params = [])
    (hredirects : ∀ d ∈ definitions,
      (Redirect.mayRedirect library [] d.name).toOption.isSome = true) :
    ∃ m, generate config library host "" = .ok m := by
  obtain ⟨resolved, hresolved⟩ := resolveFrom_of_no_call host [] fun d hd => (hstatic d hd).1
  have hidentifiers : ∀ d ∈ definitions, ∀ call, d.call = some call → call.identifiers = [] :=
    fun d hd call hcall => by simp [(hstatic d hd).1] at hcall
  obtain ⟨m, hm, -⟩ := exists_generate_of_static config "" h hresolved hidentifiers
    (fun d hd => (hstatic d hd).2) fun d hd => by
      obtain ⟨b, hb⟩ := Option.isSome_iff_exists.mp (hredirects d hd)
      exact ⟨b, Except.toOption_eq_some.mp hb⟩
  exact ⟨m, hm⟩

/-- The module of the pieces covers the endpoints. -/
def Covered (config : Config) (library : Library) (host : Host) (endpoints : List Endpoint)
    (signatures : List Signature) (pieces : List Piece) : Prop :=
  ∃ (templates : Expr) (parts : Parts), pieces = parts.pieces config ∧
    parts.Covers ⟨config, host, library, signatures, templates⟩ endpoints

/-- **Every route is registered once.**  Whatever endpoints a module is made from, if they have the
identifiers and ranks of their definitions, the module covers them.  So a module that is generated
covers all definitions of its library. -/
theorem covered_of_generated (config : Config) (library : Library) (host : Host)
    (attributeName : String) :
    (∀ endpoints definitions signatures imports pieces, Ordered endpoints definitions →
      ((make config library host attributeName endpoints signatures).run.run imports).1 =
        .ok pieces →
      Covered config library host endpoints signatures pieces) ∧
    ∀ m, generate config library host attributeName = .ok m →
      ∃ definitions, Definition.ofFragments library.fragments = .ok definitions ∧
        Ordered m.endpoints definitions ∧
        Covered config library host m.endpoints m.signatures m.pieces := by
  have hcovered : ∀ endpoints definitions signatures imports pieces,
      Ordered endpoints definitions →
      ((make config library host attributeName endpoints signatures).run.run imports).1 =
        .ok pieces →
      Covered config library host endpoints signatures pieces := by
    intro endpoints definitions signatures imports pieces hordered hmade
    have hmakeable : ∀ templates, Makeable ⟨config, host, library, signatures, templates⟩ endpoints
        fun _ => True := fun templates => makeable_any _ endpoints
    obtain ⟨templates, parts, -, -, hparts, rfl⟩ :=
      (ensures_make hmakeable attributeName imports).of_run hmade
    exact ⟨templates, parts, rfl, hparts.covers
      (by rw [hordered.definition, hordered.ident]) (by rw [hordered.definition, hordered.rank])⟩
  refine ⟨hcovered, fun m hm => ?_⟩
  obtain ⟨-, hlibrary, hmade⟩ := generate_eq_ok_iff.mp hm
  obtain ⟨definitions, hdefinitions, hordered⟩ := ordered_of_ofLibrary hlibrary
  exact ⟨definitions, hdefinitions, hordered, hcovered _ _ _ _ _ hordered hmade⟩

/-- A page of no file and two of a file. -/
def siteLibrary : Library :=
  ⟨["GET /", "GET /a", "POST /a"],
    [⟨"GET /a", "", some "b.html"⟩, ⟨"GET /", "", none⟩, ⟨"POST /a", "", some "b.html"⟩]⟩

theorem routes_siteLibrary :
    ∃ root get post, Definition.routes siteLibrary.fragments = [root, get, post] ∧
      (∀ f ∈ siteLibrary.fragments, ∃ d?, Definition.parsed f = .ok d?) ∧
      [root, get, post].map Group.identOf = ["", "b", "b"] ∧
      ([root, get, post].map Definition.pattern).Nodup ∧
      ∀ d ∈ [root, get, post], d.call = none ∧ d.label.params = [] ∧
        d.name ∈ siteLibrary.names := by
  have hroot : Definition.parsed ⟨"GET /", "", none⟩ = .ok (some
      ⟨⟨"GET /", some .get, "", "/", [], 200, false, ""⟩, none, "", ""⟩) := by rfl
  have hget : Definition.parsed ⟨"GET /a", "", some "b.html"⟩ = .ok (some
      ⟨⟨"GET /a", some .get, "", "/a", [.literal "a"], 200, false, ""⟩, none, "b.html",
        "b.html"⟩) := by rfl
  have hpost : Definition.parsed ⟨"POST /a", "", some "b.html"⟩ = .ok (some
      ⟨⟨"POST /a", some .post, "", "/a", [.literal "a"], 200, false, ""⟩, none, "b.html",
        "b.html"⟩) := by rfl
  have hfragments : siteLibrary.fragments = [⟨"GET /", "", none⟩, ⟨"GET /a", "", some "b.html"⟩,
      ⟨"POST /a", "", some "b.html"⟩] := by decide
  rw [hfragments, Definition.routes_cons_of_some hroot, Definition.routes_cons_of_some hget,
    Definition.routes_cons_of_some hpost, Definition.routes_nil]
  refine ⟨_, _, _, rfl, by simp [hroot, hget, hpost], by decide, by decide, ?_⟩
  simp only [List.forall_mem_cons]
  decide

/-- The site is generated. -/
theorem exists_generate_siteLibrary (config : Config) (host : Host) :
    ∃ m, generate config siteLibrary host "" = .ok m := by
  obtain ⟨root, get, post, hroutes, hread, -, hpatterns, hstatic⟩ := routes_siteLibrary
  have hdefinitions := Definition.ofFragments_eq_ok_iff.mpr
    ⟨hread, by rw [hroutes]; exact hpatterns, rfl⟩
  have hperm := Definition.perm_routes_of_ofFragments hdefinitions
  have hmem := fun d hd => hstatic d (hroutes ▸ hperm.mem_iff.mp hd)
  have hsome : ∀ name ∈ siteLibrary.names,
      (Redirect.mayRedirect siteLibrary [] name).toOption.isSome = true := by decide +kernel
  exact exists_generate_of_pages config host hdefinitions
    (fun d hd => ⟨(hmem d hd).1, (hmem d hd).2.1⟩) fun d hd => hsome d.name (hmem d hd).2.2

/-- The three pages of the site are registered once, in two groups. -/
theorem covered_of_generated_siteLibrary :
    let config : Config := { templatesModule := "app.templates" }
    ∃ m definitions, generate config siteLibrary ⟨[], [], none⟩ "" = .ok m ∧
      (definitions.map Group.identOf).Perm ["", "b", "b"] ∧ Ordered m.endpoints definitions ∧
      Covered config siteLibrary ⟨[], [], none⟩ m.endpoints m.signatures m.pieces := by
  intro config
  obtain ⟨root, get, post, hroutes, -, hidents, -⟩ := routes_siteLibrary
  obtain ⟨m, hm⟩ := exists_generate_siteLibrary config ⟨[], [], none⟩
  obtain ⟨hmade, hgenerated⟩ := covered_of_generated config siteLibrary ⟨[], [], none⟩ ""
  obtain ⟨definitions, hdefinitions, hordered, -⟩ := hgenerated m hm
  have hperm := (Definition.perm_routes_of_ofFragments hdefinitions).map Group.identOf
  rw [hroutes, hidents] at hperm
  exact ⟨m, definitions, hm, hperm, hordered,
    hmade _ _ _ _ _ hordered (generate_eq_ok_iff.mp hm).2.2⟩

end RoutesModule

end FragmentRoutes
