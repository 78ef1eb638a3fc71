import FragmentRoutes.Proofs.Naming.RouteName
import FragmentRoutes.Proofs.RoutesModule.ReturnFree.Handler
import FragmentRoutes.RoutesModule.Entry

/-!
# Protocols and registration without returns

Protocols and registration functions are named for groups, whose identifiers are made of letters,
digits and underscores.  The methods of protocols have the names and the types of signatures.  So
none of them has a return if the names have none that the module is made from
(`preserving_protocols`, `preserving_entryFunction`, `preserving_groupFunctions`).
-/

namespace FragmentRoutes.RoutesModule

open Code Host Text

/-! ### Protocols -/

/-- No return stands in the name of the group, nor in what its endpoints are made from. -/
structure EndpointGroup.ReturnFree (g : EndpointGroup) : Prop where
  ident : Text.ReturnFree g.ident
  endpoints : ∀ e ∈ g.endpoints, e.ReturnFree

/-- A text in words with capitals has none but letters and digits. -/
theorem returnFree_pascalCase (s : String) : Text.ReturnFree (Naming.pascalCase s) := by
  intro hmem
  rw [Naming.toList_pascalCase] at hmem
  obtain ⟨chars, hchars, hmem⟩ := List.mem_flatten.mp hmem
  obtain ⟨w, hw, rfl⟩ := List.mem_map.mp hchars
  have hword := Naming.isWordChar_of_mem_capitalized (Naming.word_of_mem_words hw) hmem
  exact absurd hword (by decide)

/-- The identifier of a group has none but small letters, digits and underscores. -/
theorem returnFree_groupIdentifier (group : String) :
    Text.ReturnFree (Naming.groupIdentifier group) := by
  intro hmem
  rcases Naming.groupIdentifier_cases group with hempty | ⟨c, cs, hchars, hc, hcs⟩
  · rw [hempty] at hmem
    cases hmem
  · rw [hchars] at hmem
    rcases List.mem_cons.mp hmem with rfl | hmem
    · cases hc
    · exact absurd (hcs _ hmem) (by decide)

theorem preserving_protocolMethods {gs : List Signature} (hgs : ∀ g ∈ gs, g.ReturnFree) :
    Imports.Preserving (protocolMethods gs) fun methods =>
      Stmt.AllReturnFree methods ∧ description? methods = none := by
  have hparams : ∀ {ps : List Signature.Param}, (∀ p ∈ ps, p.ReturnFree) →
      Imports.Preserving (paramsOf ps) fun params => ∀ p ∈ params, p.ReturnFree := by
    intro ps hps
    induction ps with
    | nil => exact Imports.preserving_pure (List.forall_mem_nil _)
    | cons p ps ih =>
      rw [List.forall_mem_cons] at hps
      exact (Imports.preserving_typeExpr hps.1.2).bind fun type htype =>
        (ih hps.2).bind fun rest hrest => Imports.preserving_pure
          (List.forall_mem_cons.mpr ⟨Param.returnFree_typed_iff.mpr ⟨hps.1.1, htype⟩, hrest⟩)
  have hself : (Param.plain "self").ReturnFree :=
    Param.returnFree_plain_iff.mpr (returnFree_ofList rfl)
  induction gs with
  | nil => exact Imports.preserving_pure ⟨trivial, rfl⟩
  | cons g gs ih =>
    rw [List.forall_mem_cons] at hgs
    have hmethod : Imports.Preserving (protocolMethod g) fun method =>
        method.ReturnFree ∧ ∀ rest, description? (method :: rest) = none := by
      refine (hparams hgs.1.params).bind fun params hfree =>
        (Imports.preserving_typeExpr hgs.1.returns).bind fun returns hreturns =>
          Imports.preserving_pure ⟨?_, fun _ => rfl⟩
      rw [Stmt.ReturnFree, List.forall_mem_cons]
      exact ⟨hgs.1.name, ⟨hself, hfree⟩, hreturns, by simp, by simp [description?]⟩
    exact hmethod.bind fun first hfirst => (ih hgs.2).bind fun rest hrest =>
      Imports.preserving_pure ⟨⟨hfirst.1, hrest.1⟩, hfirst.2 rest⟩

section

variable {context : Context} (h : context.ReturnFree)

include h

/-- The signatures that are required have names of the application, or those of callees. -/
theorem returnFree_required {endpoints : List Endpoint} (hall : ∀ e ∈ endpoints, e.ReturnFree) :
    ∀ g ∈ required context endpoints, g.ReturnFree := by
  intro g hg
  obtain ⟨callee, hcallee, rfl⟩ := List.mem_map.mp (List.mem_of_mem_filter hg)
  rw [Text.mem_eraseReps, List.mem_mergeSort] at hcallee
  obtain ⟨c, hc, rfl⟩ := List.mem_map.mp hcallee
  obtain ⟨e, he, hc⟩ := List.mem_flatMap.mp hc
  refine h.signature ?_
  cases hcall : e.definition.call with
  | none => simp [hcall] at hc
  | some call =>
    have hnamed := (hall e he).call call hcall
    exact ((Call.named_iff hnamed).mp hnamed).1 c (by simpa [hcall] using hc)

theorem returnFree_protocolName (ident : String) :
    Text.ReturnFree (Group.protocolName context.config ident) :=
  (returnFree_pascalCase ident).append (returnFree_of_isName h.config.receiverInterface)

theorem returnFree_functionName {ident : String} (hident : Text.ReturnFree ident) :
    Text.ReturnFree (Group.functionName context.config ident) :=
  (hident.append (returnFree_ofList rfl)).append (returnFree_of_isName h.config.routesFunction)

theorem preserving_groupProtocols {protocol : Expr} (hprotocol : protocol.ReturnFree)
    {groups : List EndpointGroup} (hgroups : ∀ g ∈ groups, g.ReturnFree) :
    Imports.Preserving (groupProtocols context protocol groups) fun r =>
      Stmt.AllReturnFree r.1 ∧ Stmt.AllReturnFree r.2 := by
  induction groups with
  | nil => exact Imports.preserving_pure ⟨trivial, trivial⟩
  | cons g groups ih =>
    rw [List.forall_mem_cons] at hgroups
    refine (preserving_protocolMethods (returnFree_required h hgroups.1.endpoints)).bind
      fun methods hmethods => (ih hgroups.2).bind fun r hr => .ite ?_ ?_
    · exact Imports.preserving_pure
        ⟨hr.1, Stmt.allReturnFree_append_iff.mpr ⟨hmethods.1, hr.2⟩⟩
    · have hbody : Stmt.AllReturnFree (if methods.isEmpty then [.pass] else methods) ∧
          description? (if methods.isEmpty then [.pass] else methods) = none := by
        split_ifs
        · exact ⟨⟨trivial, trivial⟩, rfl⟩
        · exact hmethods
      refine Imports.preserving_pure ⟨⟨?_, hr.1⟩, hr.2⟩
      refine ⟨returnFree_protocolName h _, List.forall_mem_singleton.mpr hprotocol, hbody.1, ?_⟩
      rw [hbody.2]
      rintro text ⟨⟩

theorem preserving_protocols {groups : List EndpointGroup} (hgroups : ∀ g ∈ groups, g.ReturnFree) :
    Imports.Preserving (protocols context groups) Stmt.AllReturnFree := by
  refine (Imports.preserving_ref (returnFree_ofList rfl) (returnFree_ofList rfl)).bind
    fun protocol hprotocol => (preserving_groupProtocols h hprotocol hgroups).bind fun r hr =>
      Imports.preserving_pure ?_
  have hbases : ∀ e ∈ (((groups.map (·.ident)).filter fun ident => !ident.isEmpty).map fun ident =>
      Expr.name (Group.protocolName context.config ident)) ++ [protocol], e.ReturnFree := by
    rw [List.forall_mem_append, List.forall_mem_map, List.forall_mem_singleton]
    exact ⟨fun ident _ => Expr.returnFree_name_iff.mpr (returnFree_protocolName h ident), hprotocol⟩
  rw [Stmt.allReturnFree_append_iff, Stmt.AllReturnFree, Stmt.ReturnFree]
  refine ⟨hr.1, ⟨returnFree_of_isName h.config.receiverInterface, hbases, ?_, ?_⟩, trivial⟩
  · exact ⟨Expr.returnFree_text _, hr.2⟩
  · rintro text ⟨⟩
    exact returnFree_ofList rfl

end

/-! ### Registration -/

theorem preserving_optionalParams (context : Context) (kind : ParamKind) (hasPrefix : Bool) :
    Imports.Preserving (optionalParams context kind hasPrefix) fun params =>
      ∀ p ∈ params, p.ReturnFree := by
  have hfront : ∀ p ∈ if hasPrefix then
      [Param.mk kind "paths_prefix" (some (.name "str")) (some (.text ""))] else [],
      p.ReturnFree := by
    have hname : Text.ReturnFree "paths_prefix" := returnFree_ofList rfl
    have hstr : Text.ReturnFree "str" := returnFree_ofList rfl
    split_ifs
    · simp [hname, hstr]
    · exact List.forall_mem_nil _
  unfold optionalParams
  refine .ite ?_ (Imports.preserving_pure hfront)
  refine (Imports.preserving_moduleExpr (returnFree_ofList rfl)).bind fun logging hlogging =>
    Imports.preserving_pure (List.forall_mem_append.mpr ⟨hfront, ?_⟩)
  have hlogger : Text.ReturnFree "logger" := returnFree_ofList rfl
  have htype : Text.ReturnFree "Logger" := returnFree_ofList rfl
  simp [hlogging, hlogger, htype]

theorem returnFree_entriesType : entriesType.ReturnFree := by
  have hlist : Text.ReturnFree "list" := returnFree_ofList rfl
  have htuple : Text.ReturnFree "tuple" := returnFree_ofList rfl
  have hint : Text.ReturnFree "int" := returnFree_ofList rfl
  have hstr : Text.ReturnFree "str" := returnFree_ofList rfl
  have hroute : Text.ReturnFree "BaseRoute" := returnFree_ofList rfl
  simp [entriesType, hlist, htuple, hint, hstr, hroute]

section

variable {context : Context} (h : context.ReturnFree)

include h

theorem preserving_entryFunction {groups : List EndpointGroup}
    (hgroups : ∀ g ∈ groups, g.ReturnFree) :
    Imports.Preserving (entryFunction context groups) Stmt.ReturnFree := by
  have hentries : Text.ReturnFree "_entries" := returnFree_ofList rfl
  have hprefix : Text.ReturnFree "paths_prefix" := returnFree_ofList rfl
  have hreceiver : Text.ReturnFree "receiver" := returnFree_ofList rfl
  have hrouter : Text.ReturnFree "router" := returnFree_ofList rfl
  have htype : Text.ReturnFree "Router" := returnFree_ofList rfl
  have hextend : Text.ReturnFree "extend" := returnFree_ofList rfl
  have hregister : Text.ReturnFree "_register_routes" := returnFree_ofList rfl
  have hlogger : Text.ReturnFree "logger" := returnFree_ofList rfl
  have hpaths := returnFree_of_isName h.config.routePathsType
  have hinterface := returnFree_of_isName h.config.receiverInterface
  have hargs : ∀ e ∈ [Expr.name "receiver",
      if context.config.pathPrefix then Expr.name "paths_prefix" else .text ""] ++
        if context.config.logger then [Expr.name "logger"] else [], e.ReturnFree := by
    split_ifs <;> simp [hreceiver, hprefix, hlogger]
  have hmethod : (Expr.attribute (.name "_entries") "extend").ReturnFree := by
    simp [hentries, hextend]
  have hstart : (Stmt.typedAssign (.name "_entries") entriesType (.list [])).ReturnFree :=
    ⟨Expr.returnFree_name_iff.mpr hentries, returnFree_entriesType,
      Expr.returnFree_list_iff.mpr (List.forall_mem_nil _)⟩
  refine (preserving_optionalParams context _ _).bind fun params hparams =>
    Imports.preserving_pure ?_
  refine ⟨returnFree_of_isName h.config.routesFunction, ?_, Expr.returnFree_name_iff.mpr hpaths,
    ?_, ?_⟩
  · rw [List.forall_mem_append]
    exact ⟨by simp [hrouter, htype, hreceiver, hinterface], hparams⟩
  · rw [Stmt.allReturnFree_append_iff, Stmt.allReturnFree_append_iff]
    refine ⟨⟨⟨Expr.returnFree_text _, hstart, trivial⟩, ?_⟩, ?_⟩
    · rw [Stmt.allReturnFree_iff, List.forall_mem_map]
      intro g hg
      have happlied := Expr.returnFree_applyName_iff.mpr
        ⟨returnFree_functionName h (hgroups g hg).ident, hargs⟩
      rw [Stmt.ReturnFree, Expr.returnFree_apply_iff, List.forall_mem_singleton]
      exact ⟨hmethod, happlied⟩
    · split_ifs <;> simp [hregister, hrouter, hentries, hpaths, hprefix]
  · rintro text ⟨⟩
    exact returnFree_ofList rfl

theorem preserving_groupFunctions {groups : List EndpointGroup}
    (hgroups : ∀ g ∈ groups, g.ReturnFree) :
    Preserving (groupFunctions context groups) Stmt.AllReturnFree := by
  have hreceiver : Text.ReturnFree "receiver" := returnFree_ofList rfl
  have hhandlers : ∀ {endpoints : List Endpoint}, (∀ e ∈ endpoints, e.ReturnFree) →
      Preserving (handlers context endpoints) Stmt.AllReturnFree := by
    intro endpoints hendpoints
    induction endpoints with
    | nil => exact preserving_pure trivial
    | cons e endpoints ih =>
      rw [List.forall_mem_cons] at hendpoints
      exact (preserving_handler h hendpoints.1).bind fun first hfirst =>
        (ih hendpoints.2).bind fun rest hrest => preserving_pure ⟨hfirst, hrest⟩
  have hentry : ∀ e : Endpoint, e.ReturnFree → (routeEntry e).ReturnFree := by
    intro e he
    have hroute : Text.ReturnFree "Route" := returnFree_ofList rfl
    have hname : Text.ReturnFree "name" := returnFree_ofList rfl
    have hmethods : Text.ReturnFree "methods" := returnFree_ofList rfl
    have hhandler : Text.ReturnFree e.handlerName := (returnFree_ofList rfl).append he.ident
    unfold routeEntry
    dsimp only
    split_ifs <;> simp [hroute, hname, hmethods, hhandler]
  have hfront : Stmt.AllReturnFree (if context.config.logger then
      [Stmt.set "logger" (.boolean .or [.name "logger", .name "_logger"])] else []) := by
    have hlogger : Text.ReturnFree "logger" := returnFree_ofList rfl
    have hown : Text.ReturnFree "_logger" := returnFree_ofList rfl
    split_ifs
    · simp [hlogger, hown]
    · trivial
  have hset : (Stmt.set "_paths" (.applyName context.config.routePathsType
      [.name "paths_prefix"])).ReturnFree := by
    have hname : Text.ReturnFree "_paths" := returnFree_ofList rfl
    have hprefix : Text.ReturnFree "paths_prefix" := returnFree_ofList rfl
    simp [hname, hprefix, returnFree_of_isName h.config.routePathsType]
  induction groups with
  | nil => exact preserving_pure trivial
  | cons g groups ih =>
    rw [List.forall_mem_cons] at hgroups
    have hgroup : Preserving (groupFunction context g) Stmt.ReturnFree := by
      refine (hhandlers hgroups.1.endpoints).bind fun made hmade =>
        (preserving_lift (preserving_optionalParams context _ _)).bind fun params hparams =>
          preserving_pure ?_
      refine ⟨returnFree_functionName h hgroups.1.ident, ?_, returnFree_entriesType, ?_, ?_⟩
      · rw [List.forall_mem_cons]
        exact ⟨by simp [hreceiver, returnFree_protocolName h], hparams⟩
      · simp only [Stmt.allReturnFree_append_iff, Stmt.AllReturnFree, Stmt.ReturnFree,
          Expr.returnFree_list_iff, List.forall_mem_map]
        exact ⟨⟨⟨hfront, hset, trivial⟩, hmade⟩,
          fun e he => hentry e (hgroups.1.endpoints e he), trivial⟩
      · split_ifs
        · rintro text ⟨⟩
        · rintro text ⟨⟩
    exact hgroup.bind fun first hfirst => (ih hgroups.2).bind fun rest hrest =>
      preserving_pure ⟨hfirst, hrest⟩

end

end FragmentRoutes.RoutesModule
