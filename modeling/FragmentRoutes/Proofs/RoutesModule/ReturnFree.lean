import FragmentRoutes.Proofs.RoutesModule.Coverage
import FragmentRoutes.Proofs.RoutesModule.MethodNames
import FragmentRoutes.Proofs.RoutesModule.ReturnFree.Entry
import FragmentRoutes.Proofs.RoutesModule.ReturnFree.UrlBuilder
import FragmentRoutes.Proofs.Route.PathReading

/-!
# Modules without returns

The helpers of a module are fixed, and the classes vary in names of the configuration only, so the
pieces of a module are without returns if the names are that it is made from (`preserving_make`).

The names of an endpoint of a library are identifiers, whatever its fragments say: its callees and
identifiers are read as names, its parameters are checked, and its own name is made of these.  What
is left are the names that the application is written with
(`RoutesModule.returnFree_text_of_generate`).
-/

namespace FragmentRoutes

open Code Host Text

namespace RoutesModule

/-! ### The whole module -/

theorem returnFree_header : Text.ReturnFree Support.header :=
  returnFree_ofList rfl

theorem returnFree_helpers : ∀ p ∈ Support.helpers, Text.ReturnFree p.render := by
  have hend : Text.ReturnFree "\n" := returnFree_ofList rfl
  simp only [Support.helpers, List.forall_mem_cons, Piece.render, Support.constants,
    Support.parseBool, Support.errorStatus, Support.errorText, Support.joinPath,
    Support.encodeSegment, Support.encodeValue, Support.readForm, Support.registerRoutes,
    Support.definition, returnFree_intercalate_iff hend, returnFree_append_iff, List.not_mem_nil,
    false_implies, implies_true, and_true]
  and_intros
  all_goals exact returnFree_ofList rfl

theorem returnFree_classes {config : Config} (h : config.Named) :
    ∀ p ∈ Support.classes config, Text.ReturnFree p.render := by
  have hend : Text.ReturnFree "\n" := returnFree_ofList rfl
  have hform : ∀ {name : String}, Text.isName name = true →
      Text.ReturnFree (Text.compatibilityForm name) := fun hname =>
    returnFree_of_isIdentifier (isIdentifier_compatibilityForm (isIdentifier_of_isName hname))
  have hdata := hform h.templateDataType
  have hreceiver := hform h.receiverInterface
  have hpaths := hform h.routePathsType
  simp only [Support.classes, List.forall_mem_cons, Piece.render, Support.responseWriter,
    Support.templateData, Support.definition, returnFree_intercalate_iff hend,
    returnFree_append_iff, hdata, hreceiver, hpaths, List.not_mem_nil, false_implies,
    implies_true, and_true]
  and_intros
  all_goals exact returnFree_ofList rfl

theorem preserving_body {context : Context} (h : context.ReturnFree) {endpoints : List Endpoint}
    (hendpoints : ∀ e ∈ endpoints, e.ReturnFree) :
    Preserving (body context endpoints) fun pieces => ∀ p ∈ pieces, Text.ReturnFree p.render := by
  have hgroups : ∀ g ∈ EndpointGroup.ofEndpoints endpoints, g.ReturnFree := by
    intro g hg
    have hident : g.ident ∈ EndpointGroup.idents endpoints :=
      EndpointGroup.map_ident_ofEndpoints endpoints ▸ List.mem_map_of_mem hg
    obtain ⟨e, -, hident⟩ := EndpointGroup.mem_idents.mp hident
    exact ⟨hident ▸ returnFree_groupIdentifier _, fun e he =>
      hendpoints e (EndpointGroup.mem_of_mem_ofEndpoints hg he)⟩
  have hstmts : ∀ {stmts : List Stmt}, Stmt.AllReturnFree stmts →
      ∀ p ∈ stmts.map Piece.stmt, Text.ReturnFree p.render := fun hall =>
    List.forall_mem_map.mpr fun s hs => (Stmt.allReturnFree_iff.mp hall s hs).render
  refine (preserving_lift (Imports.preserving_reserve _)).bind fun _ _ =>
    (preserving_lift (preserving_protocols h hgroups)).bind fun protocols hprotocols =>
      (preserving_lift (preserving_entryFunction h hgroups)).bind fun entry hentry =>
        (preserving_groupFunctions h hgroups).bind fun functions hfunctions =>
          (preserving_urlClass context.host (returnFree_of_isName h.config.routePathsType)
            hendpoints).bind fun urls hurls => preserving_pure ?_
  simp only [List.forall_mem_append]
  exact ⟨⟨⟨returnFree_helpers, hstmts hprotocols⟩, returnFree_classes h.config⟩,
    hstmts (show Stmt.AllReturnFree (entry :: functions ++ [urls]) from
      ⟨hentry, Stmt.allReturnFree_append_iff.mpr ⟨hfunctions, hurls, trivial⟩⟩)⟩

/-- Reserving names, and registering what every module imports, leaves the imports without
returns. -/
theorem preserving_reserveNames (config : Config) (endpoints : List Endpoint) :
    Imports.Preserving (reserveNames config endpoints) fun _ => True := by
  have hmodules : ∀ {modules : List String}, (∀ module ∈ modules, Text.ReturnFree module) →
      Imports.Preserving (modify fun imports => modules.foldl (·.addModule ·) imports)
        fun _ => True := by
    intro modules hmodules s hs
    refine ⟨?_, trivial⟩
    exact List.foldlRecOn (motive := Imports.ReturnFree) modules _ hs
      fun s hs module hmodule => Imports.returnFree_addModule hs (hmodules module hmodule)
  have hsymbols : ∀ {symbols : List (String × String)},
      (∀ symbol ∈ symbols, Text.ReturnFree symbol.1 ∧ Text.ReturnFree symbol.2) →
        Imports.Preserving (forIn symbols PUnit.unit fun symbol _ => do
          let _ ← Imports.localName symbol.1 symbol.2
          pure (ForInStep.yield PUnit.unit)) fun _ => True := by
    intro symbols hsymbols
    induction symbols with
    | nil => exact Imports.preserving_pure trivial
    | cons symbol symbols ih =>
      obtain ⟨⟨hmodule, hsymbol⟩, hrest⟩ := List.forall_mem_cons.mp hsymbols
      rw [List.forIn_cons]
      have hfirst : Imports.Preserving (do
          let _ ← Imports.localName symbol.1 symbol.2
          pure (ForInStep.yield PUnit.unit)) fun r => r = ForInStep.yield PUnit.unit :=
        (Imports.preserving_localName hmodule hsymbol).bind fun _ _ => Imports.preserving_pure rfl
      refine hfirst.bind fun r hr => ?_
      subst hr
      exact ih hrest
  have hnames : (∀ module ∈ Support.modules, Text.ReturnFree module) ∧
      ∀ symbol ∈ Support.symbols, Text.ReturnFree symbol.1 ∧ Text.ReturnFree symbol.2 := by
    simp only [Support.modules, Support.symbols, List.forall_mem_cons, List.not_mem_nil,
      false_implies, implies_true, and_true]
    and_intros
    all_goals exact returnFree_ofList rfl
  have hregister : Imports.Preserving (Support.register config) fun _ => True :=
    (Imports.preserving_reserve _).bind fun _ _ => (hmodules hnames.1).bind fun _ _ =>
      (hsymbols hnames.2).bind fun _ _ => Imports.preserving_pure trivial
  exact hregister.bind fun _ _ => (Imports.preserving_reserve _).bind fun _ _ =>
    Imports.preserving_reserve _

/-- **The pieces of a module** are without returns. -/
theorem preserving_make {config : Config} {library : Library} {host : Host} {attributeName : String}
    {endpoints : List Endpoint} {signatures : List Signature} (hconfig : config.Named)
    (hhost : host.ReturnFree) (hattribute : Text.ReturnFree attributeName)
    (hsignatures : ∀ g ∈ signatures, g.ReturnFree) (hendpoints : ∀ e ∈ endpoints, e.ReturnFree) :
    Preserving (make config library host attributeName endpoints signatures) fun pieces =>
      ∀ p ∈ pieces, Text.ReturnFree p.render := by
  have hmodule : Text.ReturnFree config.templatesModule :=
    (returnFree_iff_splitOn rfl (returnFree_ofList rfl)).mpr fun part hpart =>
      returnFree_of_isName (Config.isName_of_checkParts hconfig.templatesModule part hpart)
  have htemplates : Imports.Preserving (templatesExpr config attributeName) Expr.ReturnFree := by
    refine (Imports.preserving_ref hmodule (returnFree_of_isName hconfig.templatesVariable)).bind
      fun templates hfree => Imports.preserving_pure ?_
    split_ifs
    · exact hfree
    · exact Expr.returnFree_attribute_iff.mpr ⟨hfree, hattribute⟩
  have hget : Preserving (get : Making Imports) Imports.ReturnFree :=
    fun s hs => ⟨hs, fun _ heq => Except.ok.inj heq ▸ hs⟩
  refine (preserving_lift (preserving_reserveNames config endpoints)).bind fun _ _ =>
    (preserving_lift htemplates).bind fun templates hfree =>
      (preserving_body ⟨hconfig, hhost, hsignatures, hfree⟩ hendpoints).bind
        fun pieces hpieces => hget.bind fun imports himports => preserving_pure ?_
  rw [List.forall_mem_append, List.forall_mem_map]
  exact ⟨fun s hs => (himports.statements s hs).render, hpieces⟩

end RoutesModule

/-! ### The modules of a library -/

namespace Definition

/-- The names in the call of a definition that is read are without returns. -/
theorem named_returnFree_of_mem {fragments : List Fragment} {definitions : List Definition}
    (h : ofFragments fragments = .ok definitions) {d : Definition} (hd : d ∈ definitions)
    {call : Call} (hcall : d.call = some call) : call.Named Text.ReturnFree Token.maxDepth := by
  obtain ⟨f, -, hparse⟩ := exists_parse_of_mem h hd
  have hparsed := parseCall_of_parse hparse
  rw [hcall] at hparsed
  refine (Call.named_of_parse (parse_of_parseCall hparsed).1).imp ?_
  rintro id ⟨s, hs, rfl⟩
  exact returnFree_of_isIdentifier (isIdentifier_compatibilityForm (isIdentifier_of_isName hs))

/-- The names that definitions get are without returns. -/
theorem returnFree_allocate {fragments : List Fragment} {definitions : List Definition}
    (h : ofFragments fragments = .ok definitions) :
    ∀ ident ∈ Naming.allocate definitions, Text.ReturnFree ident := by
  intro ident hident
  obtain ⟨d, hd, hident⟩ := Naming.exists_proposed_of_mem_allocate hident
  have hproposed := returnFree_of_isIdentifier (RoutesModule.isIdentifier_proposed hd
    fun _ hcallee => RoutesModule.isIdentifier_callee h hd hcallee).1
  rcases hident with rfl | ⟨n, rfl⟩
  · exact hproposed
  · exact hproposed.append (returnFree_toString_nat n)

end Definition

/-- **The endpoints of a library** are without returns if the names of the application are. -/
theorem Endpoint.returnFree_of_ofLibrary {library : Library} {host : Host} (hhost : host.ReturnFree)
    {endpoints : List Endpoint} {signatures : List Signature}
    (h : Endpoint.ofLibrary library host = .ok (endpoints, signatures)) :
    (∀ e ∈ endpoints, e.ReturnFree) ∧ ∀ g ∈ signatures, g.ReturnFree := by
  obtain ⟨definitions, hdefinitions, hordered⟩ := RoutesModule.ordered_of_ofLibrary h
  obtain ⟨definitions', resolved, redirects, hdefinitions', hresolved, -, heq⟩ :=
    Endpoint.ofLibrary_eq_ok_iff.mp h
  obtain rfl := Except.ok.inj (hdefinitions.symm.trans hdefinitions')
  have hnamed := fun d (hd : d ∈ definitions) call (hcall : d.call = some call) =>
    Definition.named_returnFree_of_mem hdefinitions hd hcall
  have hcallees : ∀ d ∈ definitions, ∀ c ∈ d.calls, Text.ReturnFree c.callee := by
    intro d hd c hc
    obtain ⟨call, hcall, hoccurs⟩ := Definition.mem_calls_iff.mp hc
    exact ((Call.named_iff (hnamed d hd call hcall)).mp (hnamed d hd call hcall)).1 c
      (Call.mem_walk_iff.mpr hoccurs)
  obtain ⟨hsignatures, htypes⟩ :=
    Endpoint.returnFree_resolveFrom hhost (List.forall_mem_nil _) hcallees hresolved
  refine ⟨fun e he => ⟨?_, ?_, ?_, ?_⟩, hsignatures⟩
  · exact Definition.returnFree_allocate hdefinitions _
      (hordered.ident ▸ List.mem_map_of_mem (f := Endpoint.ident) he)
  · obtain ⟨f, hparse⟩ := Endpoint.exists_parse_of_mem_ofLibrary h he
    have hnormal := Route.Label.normal_of_parse (Definition.parse_eq_ok_some hparse).1
    exact fun p hp => returnFree_of_isName
      (Route.Path.isParamName_of_mem_params hnormal.path_normal.plain hp).isName
  · exact hnamed _ (hordered.definition ▸ List.mem_map_of_mem (f := Endpoint.definition) he)
  · have hmem := Endpoint.mem_zip_of_mem_zip (heq ▸ he)
    exact htypes _ (List.of_mem_zip hmem).2

/-- **A generated module is written without returns** if no return stands in a name that the
application is written with. -/
theorem RoutesModule.returnFree_text_of_generate {config : Config} (hconfig : config.Named)
    {library : Library} {host : Host} (hhost : host.ReturnFree) {attributeName : String}
    (hattribute : Text.ReturnFree attributeName) {m : RoutesModule}
    (h : generate config library host attributeName = .ok m) : Text.ReturnFree m.text := by
  obtain ⟨-, hlibrary, hpieces⟩ := generate_eq_ok_iff.mp h
  obtain ⟨hendpoints, hsignatures⟩ := Endpoint.returnFree_of_ofLibrary hhost hlibrary
  have hmake : Preserving (make config library host attributeName m.endpoints m.signatures)
      fun pieces => ∀ p ∈ pieces, Text.ReturnFree p.render :=
    preserving_make hconfig hhost hattribute hsignatures hendpoints
  exact returnFree_renderModule_iff.mpr ⟨returnFree_header,
    (hmake _ (Imports.returnFree_start "")).2 _ hpieces⟩

end FragmentRoutes
