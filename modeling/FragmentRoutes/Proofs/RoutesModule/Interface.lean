import FragmentRoutes.Proofs.Call.Reading
import FragmentRoutes.Proofs.Call.Scope
import FragmentRoutes.Proofs.Config
import FragmentRoutes.Proofs.Host.NoClasses
import FragmentRoutes.Proofs.Imports.Statements
import FragmentRoutes.Proofs.RoutesModule.Coverage
import FragmentRoutes.Proofs.RoutesModule.PathArgument

/-!
# The interface of the receiver

What the handlers of a group call on the receiver is found while the calls are carried out, and what
the protocol of the group declares is found apart from that, from the callees of its endpoints in
order.  Both are the callees whose signatures are required of the receiver, so the protocol `Fits`
the handlers, and every group has such a protocol (`exact_of_generate`).

Two kinds of names are written without an import.  A class whose values the handlers make is, if it
is a builtin one or of no module; if it has the name of the receiver, its methods are called on the
receiver and no protocol declares them.  So is a function of no module (`calls_undeclared`).
-/

namespace FragmentRoutes

open Code Host Resolution

namespace RoutesModule

/-! ### Reading classes -/

/-- The functions and classes that are declared in a class. -/
def declared : Stmt → List Stmt
  | .classDef _ _ body => body.filter Stmt.isDefinition
  | _ => []

/-- What a class extends. -/
def basesOf : Stmt → List Expr
  | .classDef _ bases _ => bases
  | _ => []

section

variable {context : Context} {s : Imports}

/-- Methods that are declared are all that is declared among them. -/
theorem filter_isDefinition_of_declares {signatures : List Signature} {methods : List Stmt}
    (h : List.Forall₂ (Declares s) signatures methods) :
    methods.filter Stmt.isDefinition = methods := by
  refine List.filter_eq_self.mpr fun stmt hstmt => ?_
  obtain ⟨i, hi, rfl⟩ := List.getElem_of_mem hstmt
  have hlength := h.length_eq
  obtain ⟨_, _, heq, -⟩ := (List.forall₂_iff_get.mp h).2 i (by omega) hi
  exact congrArg Stmt.isDefinition heq

theorem map_definedName?_of_declares {signatures : List Signature} {methods : List Stmt}
    (h : List.Forall₂ (Declares s) signatures methods) :
    methods.map definedName? = signatures.map fun g => some g.name := by
  induction h with
  | nil => rfl
  | cons hfirst _ ih =>
    obtain ⟨_, _, rfl, -⟩ := hfirst
    exact congrArg (_ :: ·) ih

/-- **The protocol of a group** declares what is required for its endpoints. -/
theorem IsProtocol.forall₂_declared {protocol : Expr} {g : EndpointGroup} {stmt : Stmt}
    (h : IsProtocol context s protocol g stmt) :
    List.Forall₂ (Declares s) (required context g.endpoints) (declared stmt) := by
  obtain ⟨methods, hmethods, rfl⟩ := h
  have hdeclared : declared (.classDef (Group.protocolName context.config g.ident) [protocol]
      (if methods.isEmpty then [.pass] else methods)) = methods := by
    cases methods with
    | nil => rfl
    | cons first rest => exact filter_isDefinition_of_declares hmethods
  rwa [hdeclared]

theorem IsWholeProtocol.basesOf_eq {protocol : Expr} {groups : List EndpointGroup} {stmt : Stmt}
    (h : IsWholeProtocol context s protocol groups stmt) :
    basesOf stmt = (named groups).map
      (fun g => Expr.name (Group.protocolName context.config g.ident)) ++ [protocol] := by
  obtain ⟨methods, -, rfl⟩ := h
  rfl

/-- **The protocol of the whole receiver** declares what is required for the endpoints without a
group. -/
theorem IsWholeProtocol.forall₂_declared {protocol : Expr} {groups : List EndpointGroup}
    {stmt : Stmt} (h : IsWholeProtocol context s protocol groups stmt) :
    List.Forall₂ (Declares s) ((unnamed groups).flatMap fun g => required context g.endpoints)
      (declared stmt) := by
  obtain ⟨methods, hmethods, rfl⟩ := h
  rwa [declared, List.filter_cons_of_neg Bool.false_ne_true, filter_isDefinition_of_declares hmethods]

end

/-! ### What is required -/

section

variable {context : Context} {endpoints : List Endpoint}

theorem Context.name_signature (context : Context) (callee : String) :
    (context.signature callee).name = callee := by
  unfold Context.signature
  cases hfind : context.signatures.find? fun g => g.name == callee with
  | none => rfl
  | some g => simpa using List.find?_some hfind

/-- The callees of endpoints, each once and in order. -/
def calleesOf (endpoints : List Endpoint) : List String :=
  (((endpoints.flatMap (·.definition.calls)).map (·.callee)).mergeSort
    fun a b => !decide (b < a)).eraseReps

theorem required_eq (context : Context) (endpoints : List Endpoint) :
    required context endpoints =
      ((calleesOf endpoints).map context.signature).filter Signature.isRequired := by
  have hcalls : ∀ e : Endpoint, (e.definition.call.map Call.walk).getD [] = e.definition.calls := by
    intro e
    rw [Definition.calls]
    cases e.definition.call <;> rfl
  simp only [required, hcalls]
  rfl

theorem mem_required_iff {g : Signature} : g ∈ required context endpoints ↔
    g.isRequired = true ∧
      ∃ e ∈ endpoints, ∃ c ∈ e.definition.calls, context.signature c.callee = g := by
  rw [required_eq, List.mem_filter, List.mem_map, and_comm]
  simp [calleesOf, Text.mem_eraseReps]
  grind

/-- **No two required signatures have one name.** -/
theorem pairwise_required (context : Context) (endpoints : List Endpoint) :
    ((required context endpoints).map (·.name)).Pairwise (· < ·) := by
  have hcallees : (calleesOf endpoints).Pairwise (· < ·) :=
    Text.pairwise_eraseReps (Text.pairwise_mergeSort id _)
  have hall : (((calleesOf endpoints).map context.signature).map (·.name)).Pairwise (· < ·) := by
    simpa [List.map_map, Function.comp_def, Context.name_signature] using hcallees
  rw [required_eq]
  exact hall.sublist (List.filter_sublist.map _)

end

/-- **What the receiver has to offer is declared**: a protocol declares the method for each call. -/
theorem Parts.Made.exists_declares {context : Context} {endpoints : List Endpoint} {p : Parts}
    (h : p.Made context endpoints) {e : Endpoint} (he : e ∈ endpoints) {c : Call}
    (hc : c ∈ e.definition.calls) (hrequired : (context.signature c.callee).isRequired = true) :
    ∃ stmt, Declares p.imports (context.signature c.callee) stmt := by
  obtain ⟨g, hg, he⟩ :=
    List.mem_flatMap.mp ((EndpointGroup.perm_ofEndpoints endpoints).mem_iff.mpr he)
  have hmem : context.signature c.callee ∈ required context g.endpoints :=
    mem_required_iff.mpr ⟨hrequired, e, he, c, hc, rfl⟩
  have hdeclared : ∀ {signatures : List Signature} {methods : List Stmt},
      List.Forall₂ (Declares p.imports) signatures methods →
      context.signature c.callee ∈ signatures →
      ∃ stmt, Declares p.imports (context.signature c.callee) stmt := by
    intro signatures methods hmethods hsignature
    obtain ⟨i, hi, heq⟩ := List.getElem_of_mem hsignature
    have hlength := hmethods.length_eq
    rw [← heq]
    exact ⟨_, (List.forall₂_iff_get.mp hmethods).2 i hi (by omega)⟩
  obtain ⟨protocol, -, hgrouped, methods, hmethods, -⟩ := h.protocols
  by_cases hident : g.ident.isEmpty = true
  · exact hdeclared hmethods (List.mem_flatMap.mpr ⟨g, List.mem_filter.mpr ⟨hg, hident⟩, hmem⟩)
  · have hnamed : g ∈ named (EndpointGroup.ofEndpoints endpoints) :=
      List.mem_filter.mpr ⟨hg, by simpa using hident⟩
    obtain ⟨i, hi, rfl⟩ := List.getElem_of_mem hnamed
    have hlength := hgrouped.length_eq
    obtain ⟨methods, hmethods, -⟩ := (List.forall₂_iff_get.mp hgrouped).2 i hi (by omega)
    exact hdeclared hmethods hmem

/-! ### What is called -/

section

variable {context : Context} {s : Imports}

theorem mem_calleesOf_handlerOf {e : Endpoint} {called : List Stmt} {callee : Expr}
    (h : callee ∈ Stmt.calleesOf called) : callee ∈ Stmt.calleesOf [handlerOf context e called] := by
  rw [handlerOf, Stmt.calleesOf_cons, Stmt.callees_function, Stmt.calleesOf_append,
    Stmt.calleesOf_append]
  simp [h]

/-- A call whose result is kept is carried out. -/
theorem KeepsResult.mem_calleesOf {target : String} {call callee : Expr} {isOuter : Bool}
    {shape : Signature.Shape} {body : List Stmt} (h : KeepsResult target call isOuter shape body)
    (hcallee : callee ∈ call.callees) : callee ∈ Stmt.calleesOf body := by
  cases h with
  | value => simp [hcallee]
  | withError => simp [hcallee]
  | withSuccess => simp [hcallee]

/-- **Carrying out a call** of a function of the application calls its local name. -/
theorem CarriesOut.exists_local {bindings : Bindings} {c : Call} {stmt : Stmt}
    (h : CarriesOut context s bindings c stmt)
    (hfree : (context.signature c.callee).isRequired = false) :
    ∃ name, s.HasLocal (context.signature c.callee).module c.callee name ∧
      .name name ∈ Stmt.calleesOf [stmt] := by
  obtain ⟨callee, values, target, isOuter, body, hcallee, -, -, rfl, hkept⟩ := h
  have hcall : callee ∈ (if (context.signature c.callee).isAsync
      then Expr.await (.call callee values []) else .call callee values []).callees := by
    split_ifs <;> simp
  have hmem : callee ∈ Stmt.calleesOf body := hkept.mem_calleesOf hcall
  cases hcallee with
  | required hrequired =>
    rw [hfree] at hrequired
    cases hrequired
  | @free name _ hname =>
    rw [Context.name_signature] at hname
    exact ⟨name, hname, by simp [hmem]⟩

/-- **A handler calls a function of the application** by its local name. -/
theorem Handles.exists_local {e : Endpoint} {made : Stmt} (h : Handles context s e made) {c : Call}
    (hc : c ∈ e.definition.calls) (hfree : (context.signature c.callee).isRequired = false) :
    ∃ name, s.HasLocal (context.signature c.callee).module c.callee name ∧
      .name name ∈ Stmt.calleesOf [made] := by
  obtain ⟨bindings, bound, invoked, rfl, -, -, hinvoked⟩ := h
  generalize e.definition.calls = calls at hc hinvoked
  have hcarried : ∃ stmt ∈ invoked, CarriesOut context s bindings c stmt := by
    induction hinvoked with
    | nil => cases hc
    | @cons c' stmt calls invoked hfirst _ ih =>
      rcases List.mem_cons.mp hc with rfl | hc
      · exact ⟨stmt, List.mem_cons_self, hfirst⟩
      · obtain ⟨stmt', hstmt', hcarries⟩ := ih hc
        exact ⟨stmt', List.mem_cons_of_mem _ hstmt', hcarries⟩
  obtain ⟨stmt, hstmt, hcarries⟩ := hcarried
  obtain ⟨name, hname, hcallee⟩ := hcarries.exists_local hfree
  rw [Stmt.calleesOf_cons, Stmt.calleesOf_nil, List.append_nil] at hcallee
  exact ⟨name, hname, mem_calleesOf_handlerOf
    (List.mem_flatMap.mpr ⟨stmt, List.mem_append_right _ hstmt, hcallee⟩)⟩

/-- **Handlers call what is required for their endpoints** on the receiver, and nothing else. -/
theorem mem_methodsOn_iff (hkeeps : s.Keeps "receiver")
    (hhost : ∀ c, context.host.Supplies c → ¬Imports.IsBare "receiver" c)
    (htemplates : context.templates.callees = [])
    (haside : Aside context.host s (context.templates.attribute "get_template"))
    {endpoints : List Endpoint} {made : List Stmt}
    (h : List.Forall₂ (Handles context s) endpoints made) {name : String} :
    name ∈ methodsOn "receiver" made ↔ name ∈ (required context endpoints).map (·.name) := by
  have hcalled : name ∈ methodsOn "receiver" made ↔ ∃ e ∈ endpoints, ∃ c ∈ e.definition.calls,
      (context.signature c.callee).isRequired = true ∧ c.callee = name := by
    induction h with
    | nil => simp [methodsOn]
    | cons hfirst _ ih =>
      rw [← List.singleton_append, methodsOn_append, List.mem_append, ih,
        hfirst.methodsOn_receiver hkeeps hhost htemplates haside, List.exists_mem_cons_iff]
      simp [Context.name_signature, and_assoc]
  rw [hcalled]
  constructor
  · rintro ⟨e, he, c, hc, hrequired, rfl⟩
    exact List.mem_map.mpr
      ⟨_, mem_required_iff.mpr ⟨hrequired, e, he, c, hc, rfl⟩, context.name_signature _⟩
  · intro hname
    obtain ⟨g, hg, rfl⟩ := List.mem_map.mp hname
    obtain ⟨hrequired, e, he, c, hc, rfl⟩ := mem_required_iff.mp hg
    exact ⟨e, he, c, hc, hrequired, (context.name_signature _).symm⟩

end

/-! ### Protocols and handlers -/

/-- The protocol **fits** the function of a group: it declares each method that the handlers in it
call on the receiver once, as the signature recorded for it says, and no other.  A function of the
application is called by a name that is imported, unless it is of no module. -/
structure Fits (context : Context) (s : Imports) (g : EndpointGroup) (protocol function : Stmt) :
    Prop where
  declares : ∃ signatures, List.Forall₂ (Declares s) signatures (declared protocol) ∧
    (signatures.map (·.name)).Pairwise (· < ·) ∧
    ∀ signature ∈ signatures, signature ∈ context.signatures ∧ signature.isRequired = true
  methods : ∀ name, name ∈ methodsOn "receiver" (definedIn function) ↔
    some name ∈ (declared protocol).map definedName?
  free : ∀ e ∈ g.endpoints, ∀ c ∈ e.definition.calls,
    (context.signature c.callee).isRequired = false →
      some c.callee ∉ (declared protocol).map definedName? ∧
      ((context.signature c.callee).module ≠ "" →
        ∃ name, (⟨(context.signature c.callee).module, c.callee⟩, name) ∈
            s.statements.flatMap Stmt.aliases ∧
          .name name ∈ Stmt.calleesOf (definedIn function))

/-- The statement is the function of a group that the protocol fits. -/
def IsFitted (context : Context) (s : Imports) (g : EndpointGroup) (protocol function : Stmt) :
    Prop :=
  definedName? function = some (Group.functionName context.config g.ident) ∧
    Fits context s g protocol function

/-- The interface of the receiver is **exact**: each named group has a protocol that fits its
function, in the order of the groups; the protocol of the whole receiver extends them all, and it fits
the function of the routes without a group, or declares nothing if there is none. -/
structure Parts.Exact (context : Context) (endpoints : List Endpoint) (p : Parts) : Prop where
  grouped : List.Forall₂ (fun g protocol =>
    definedName? protocol = some (Group.protocolName context.config g.ident) ∧
      ∃ function ∈ p.functions, IsFitted context p.imports g protocol function)
    (named (EndpointGroup.ofEndpoints endpoints)) p.grouped
  whole : definedName? p.whole = some context.config.receiverInterface ∧
    ∃ protocol, p.imports.HasLocal "typing" "Protocol" protocol ∧
      basesOf p.whole = (named (EndpointGroup.ofEndpoints endpoints)).map
        (fun g => .name (Group.protocolName context.config g.ident)) ++ [.name protocol]
  ungrouped : ∀ g ∈ EndpointGroup.ofEndpoints endpoints, g.ident = "" →
    ∃ function ∈ p.functions, IsFitted context p.imports g p.whole function
  none : (∀ e ∈ endpoints, Group.identOf e.definition ≠ "") → declared p.whole = []

section

variable {context : Context} {s : Imports}

/-- What declares the required signatures of a group fits its function. -/
theorem Registers.fits (hkeeps : s.Keeps "receiver")
    (hhost : ∀ c, context.host.Supplies c → ¬Imports.IsBare "receiver" c)
    (htemplates : context.templates.callees = [])
    (haside : Aside context.host s (context.templates.attribute "get_template"))
    {g : EndpointGroup} {protocol function : Stmt} (hfunction : Registers context s g function)
    (hrecorded : ∀ e ∈ g.endpoints, ∀ c ∈ e.definition.calls,
      context.signature c.callee ∈ context.signatures)
    (hdeclared : List.Forall₂ (Declares s) (required context g.endpoints) (declared protocol)) :
    Fits context s g protocol function := by
  have hhandlers := hfunction.forall₂_definedIn
  have hnames : ∀ name, some name ∈ (declared protocol).map definedName? ↔
      name ∈ (required context g.endpoints).map (·.name) := by
    intro name
    rw [map_definedName?_of_declares hdeclared]
    simp
  refine ⟨⟨_, hdeclared, pairwise_required context _, ?_⟩, fun name => ?_, ?_⟩
  · intro signature hsignature
    obtain ⟨hrequired, e, he, c, hc, rfl⟩ := mem_required_iff.mp hsignature
    exact ⟨hrecorded e he c hc, hrequired⟩
  · rw [hnames, mem_methodsOn_iff hkeeps hhost htemplates haside hhandlers]
  · intro e he c hc hfree
    constructor
    · rw [hnames, List.mem_map]
      rintro ⟨signature, hsignature, hname⟩
      obtain ⟨hrequired, e', -, c', -, rfl⟩ := mem_required_iff.mp hsignature
      rw [Context.name_signature] at hname
      rw [hname, hfree] at hrequired
      cases hrequired
    · intro hmodule
      obtain ⟨i, hi, rfl⟩ := List.getElem_of_mem he
      have hlength := hhandlers.length_eq
      have hmade := (List.forall₂_iff_get.mp hhandlers).2 i hi (by omega)
      obtain ⟨name, hlocal, hcallee⟩ := hmade.exists_local hc hfree
      rw [Imports.HasLocal, hkeeps.own, if_neg hmodule] at hlocal
      refine ⟨name, hkeeps.mem_aliases_statements.mpr (.inr (hkeeps.lookup_iff.mp hlocal)), ?_⟩
      rw [Stmt.calleesOf_cons, Stmt.calleesOf_nil, List.append_nil] at hcallee
      exact List.mem_flatMap.mpr ⟨_, List.getElem_mem _, hcallee⟩

end

/-- There is one group at most without a name. -/
theorem unnamed_eq_singleton {endpoints : List Endpoint} {g : EndpointGroup}
    (hg : g ∈ EndpointGroup.ofEndpoints endpoints) (hident : g.ident = "") :
    unnamed (EndpointGroup.ofEndpoints endpoints) = [g] := by
  have hnodup := EndpointGroup.nodup_idents endpoints
  rw [← EndpointGroup.map_ident_ofEndpoints] at hnodup
  unfold unnamed
  generalize EndpointGroup.ofEndpoints endpoints = groups at hg hnodup
  induction groups with
  | nil => cases hg
  | cons first groups ih =>
    obtain ⟨hnew, hnodup⟩ := List.nodup_cons.mp hnodup
    rcases List.mem_cons.mp hg with rfl | hg
    · have hrest : (groups.filter fun g => g.ident.isEmpty) = [] := by
        refine List.filter_eq_nil_iff.mpr fun g' hg' hempty => hnew ?_
        have hsame : g'.ident = g.ident := by rw [hident, String.isEmpty_iff.mp hempty]
        exact List.mem_map.mpr ⟨g', hg', hsame⟩
      rw [List.filter_cons_of_pos (by simp [hident]), hrest]
    · have hnamed : ¬first.ident.isEmpty = true := by
        intro hempty
        have hsame : g.ident = first.ident := by rw [hident, String.isEmpty_iff.mp hempty]
        exact hnew (List.mem_map.mpr ⟨g, hg, hsame⟩)
      rw [List.filter_cons, if_neg hnamed]
      exact ih hg hnodup

/-- **The interface of the receiver is exact** in every module that is generated for a configuration
that is read, unless values are made of a class that is written with the name of the receiver and
not imported. -/
theorem exact_of_generate {settings : Config.Settings} {config : Config} {library : Library}
    {host : Host} {attributeName : String} {m : RoutesModule}
    (hconfig : Config.ofSettings settings = .ok config)
    (hhost : ∀ c, host.Supplies c → ¬Imports.IsBare "receiver" c)
    (h : generate config library host attributeName = .ok m) :
    ∃ (templates : Expr) (p : Parts), m.pieces = p.pieces config ∧
      p.Exact ⟨config, host, library, m.signatures, templates⟩ m.endpoints := by
  obtain ⟨-, templates, p, -, -, ⟨local', hlocal, htemplates⟩, hkeeps, hmade, hpieces⟩ :=
    exists_parts_of_generate h
  refine ⟨templates, p, hpieces, ?_⟩
  have hcallees : templates.callees = [] := by
    rw [htemplates]
    split_ifs <;> simp
  have haside : Aside host p.imports (templates.attribute "get_template") := by
    rw [htemplates]
    split_ifs
    · exact .ofSymbol (Config.named_of_ofSettings hconfig).templatesModule_ne_empty hlocal
    · exact aside_attribute rfl
  have hrecorded : ∀ e ∈ m.endpoints, ∀ c ∈ e.definition.calls, Context.signature
      ⟨config, host, library, m.signatures, templates⟩ c.callee ∈ m.signatures := by
    intro e he c hc
    have hresolves : Context.Resolves ⟨config, host, library, m.signatures, templates⟩ e :=
      resolves_of_mem_ofLibrary (generate_eq_ok_iff.mp h).2.1 he
    obtain ⟨call, hcall, hoccurs⟩ := Definition.mem_calls_iff.mp hc
    obtain ⟨signature, hfound, -⟩ := hresolves.callTyped hcall hoccurs
    rw [Context.signature_eq hfound]
    exact List.mem_of_find?_eq_some hfound
  obtain ⟨protocol, hprotocol, hgrouped, hwhole⟩ := hmade.protocols
  have hfitted : ∀ g ∈ EndpointGroup.ofEndpoints m.endpoints, ∀ protocol : Stmt,
      List.Forall₂ (Declares p.imports) (required ⟨config, host, library, m.signatures, templates⟩
        g.endpoints) (declared protocol) →
      ∃ function ∈ p.functions, IsFitted ⟨config, host, library, m.signatures, templates⟩ p.imports g
        protocol function := by
    intro g hg protocol hdeclared
    obtain ⟨i, hi, rfl⟩ := List.getElem_of_mem hg
    have hlength := hmade.functions.length_eq
    have hfunction := (List.forall₂_iff_get.mp hmade.functions).2 i hi (by omega)
    refine ⟨_, List.getElem_mem (by omega), hfunction.definedName?_eq, ?_⟩
    refine hfunction.fits hkeeps ?_ hcallees haside ?_ hdeclared
    · exact hhost
    · exact fun e he => hrecorded e (EndpointGroup.mem_of_mem_ofEndpoints hg he)
  refine ⟨?_, ⟨hwhole.definedName?_eq, protocol, hprotocol, hwhole.basesOf_eq⟩, ?_, ?_⟩
  · have hmem : ∀ g ∈ named (EndpointGroup.ofEndpoints m.endpoints),
        g ∈ EndpointGroup.ofEndpoints m.endpoints := fun g hg => List.mem_of_mem_filter hg
    refine ((List.forall₂_and_left _ _).mpr ⟨hmem, hgrouped⟩).imp ?_
    rintro g stmt ⟨hg, hstmt⟩
    exact ⟨hstmt.definedName?_eq, hfitted g hg stmt hstmt.forall₂_declared⟩
  · intro g hg hident
    refine hfitted g hg p.whole ?_
    have hdeclared := hwhole.forall₂_declared
    rwa [unnamed_eq_singleton hg hident, List.flatMap_singleton] at hdeclared
  · intro hnamed
    have hunnamed : unnamed (EndpointGroup.ofEndpoints m.endpoints) = [] := by
      refine List.filter_eq_nil_iff.mpr fun g hg hempty => ?_
      obtain ⟨e, he, hident⟩ := (EndpointGroup.exists_ofEndpoints fun ident => ident = "").mp
        ⟨g, hg, String.isEmpty_iff.mp hempty⟩
      exact hnamed e he hident
    have hdeclared := hwhole.forall₂_declared
    rw [hunnamed] at hdeclared
    exact List.forall₂_nil_left_iff.mp hdeclared

/-! ### A page with a nested call -/

/-- A page that shows what a function of the application counts. -/
def countLibrary : Library :=
  ⟨["GET / Show(Count())"], [⟨"GET / Show(Count())", "", some "b.html"⟩]⟩

/-- An application with the function, and without classes. -/
def countHost : Host :=
  ⟨[], [("Count", ⟨"app", [], none, false⟩)], none⟩

/-- The route of the page. -/
def countDefinition : Definition :=
  ⟨⟨"GET / Show(Count())", some .get, "", "/", [], 200, false, "Show(Count())"⟩,
    some ⟨"Show", [.call "Count" []]⟩, "b.html", "b.html"⟩

theorem parse_countDefinition :
    Call.parse countDefinition.label.callText = .ok ⟨"Show", [.call "Count" []]⟩ := by
  have hscan : Token.scan "Show(Count())".toList = some [.name "Show", .mark "(", .name "Count",
      .mark "(", .mark ")", .mark ")", .newline] := by decide +kernel
  have hcount : Reader.primary 514 [.name "Count", .mark "(", .mark ")", .mark ")", .newline] =
      some (.call (.name "Count") [] [], [.mark ")", .newline]) :=
    Reader.primary_call .parenthesis Reader.arguments_nil
  have hshow : Reader.primary 531 [.name "Show", .mark "(", .name "Count", .mark "(", .mark ")",
      .mark ")", .newline] =
        some (.call (.name "Show") [.call (.name "Count") [] []] [], [.newline]) :=
    Reader.primary_call .newline (Reader.arguments_call hcount)
  have hread := Reader.read_of_primary hscan hshow (by decide)
  have hstrip : Text.stripChars "Show(Count())".toList = "Show(Count())".toList := by
    decide
  rw [countDefinition, Call.parse, hstrip, if_neg (by decide), hread]
  simp only [Call.ofExpr, Call.ofParts, Call.argumentsOf, Call.argumentOf]
  rfl

/-- The library defines the route. -/
theorem ofFragments_countLibrary :
    Definition.ofFragments countLibrary.fragments = .ok [countDefinition] := by
  have hfragments : countLibrary.fragments = [⟨"GET / Show(Count())", "", some "b.html"⟩] := by
    decide
  rw [hfragments]
  exact Definition.ofFragments_of_call rfl parse_countDefinition (by decide) (by decide)

/-- Without classes of the application, values are made of no class that is written with the name of
the receiver. -/
theorem not_isBare_of_no_classes {host : Host} (h : host.classes = []) {c : ClassId}
    (hc : host.Supplies c) : ¬Imports.IsBare "receiver" c := by
  have hstandard : ∀ c ∈ Class.modelBase :: standardLineages.map (·.1),
      c.qualname ≠ "receiver" ∧ c.module ≠ "" := by decide +kernel
  have hstruct : host.isStruct (.cls c) = true := (hc.resolve_left (conversion?_ne_text h _)).1
  have hnames := hstandard c (List.mem_cons.mpr (standard_of_isStruct h hstruct))
  rintro (⟨-, hname⟩ | ⟨hmodule, -⟩)
  · exact hnames.1 hname
  · exact hnames.2 hmodule

/-- The page is generated.  What shows is required of the receiver, and what counts is not. -/
theorem exact_of_generate_countLibrary :
    ∃ config m templates, ∃ p : Parts,
      Config.ofSettings [("templates_module", .text "app")] = .ok config ∧
      generate config countLibrary countHost "" = .ok m ∧
      m.signatures.map (fun g => (g.name, g.isRequired)) = [("Count", false), ("Show", true)] ∧
      m.pieces = p.pieces config ∧
      p.Exact ⟨config, countHost, countLibrary, m.signatures, templates⟩ m.endpoints := by
  have hconfig : Config.ofSettings [("templates_module", .text "app")] =
      .ok { templatesModule := "app" } := by
    unfold Config.ofSettings
    rw [Config.option_templatesModule rfl (by decide +kernel) (by decide)]
    rfl
  have hresolve : ((Endpoint.resolveFrom countHost [] [countDefinition]).toOption.map fun found =>
      found.2.map fun g => (g.name, g.isRequired)) = some [("Count", false), ("Show", true)] := by
    decide +kernel
  obtain ⟨⟨resolved, signatures⟩, hresolved, hsignatures⟩ := Option.map_eq_some_iff.mp hresolve
  have hredirects : (Redirect.mayRedirect countLibrary [] countDefinition.name).toOption.isSome =
      true := by decide +kernel
  obtain ⟨redirects, hredirects⟩ := Option.isSome_iff_exists.mp hredirects
  obtain ⟨m, hm, rfl⟩ := exists_generate_of_static { templatesModule := "app" } ""
    ofFragments_countLibrary (Except.toOption_eq_some.mp hresolved)
    (by simp only [List.mem_singleton, forall_eq]; rintro call ⟨⟩; decide)
    (by simp only [List.mem_singleton, forall_eq]; decide)
    (by simp only [List.mem_singleton, forall_eq]; exact ⟨_, Except.toOption_eq_some.mp hredirects⟩)
  obtain ⟨templates, p, hpieces, hexact⟩ :=
    exact_of_generate hconfig (fun c => not_isBare_of_no_classes rfl) hm
  exact ⟨_, m, templates, p, hconfig, hm, hsignatures, hpieces, hexact⟩

/-! ### Calls that are not declared -/

/-- The functions of the groups are among the pieces of the module, whatever else is made. -/
theorem ensures_make_functions {config : Config} {library : Library} {host : Host}
    {signatures : List Signature} {endpoints : List Endpoint} {post : List Stmt → Prop}
    (attributeName : String) (s : Imports)
    (h : ∀ templates s', s.Grows s' → Ensures
      (groupFunctions ⟨config, host, library, signatures, templates⟩
        (EndpointGroup.ofEndpoints endpoints)) s' (fun _ => True) fun functions _ => post functions) :
    Ensures (make config library host attributeName endpoints signatures) s (fun _ => True)
      fun pieces _ => ∃ functions, post functions ∧ ∀ f ∈ functions, .stmt f ∈ pieces := by
  rw [make]
  have hreserve := (recording_reserveNames config endpoints).makes s
  refine .bind ((ensures_lift hreserve).mono fun _ s₁ hgrows₁ _ => ?_)
  refine .bind ((ensures_lift (makes_templatesExpr s₁ _ _)).mono fun templates s₂ hgrows₂ _ => ?_)
  have hbody : Ensures (body ⟨config, host, library, signatures, templates⟩ endpoints) s₂
      (fun _ => True) fun pieces _ => ∃ functions, post functions ∧ ∀ f ∈ functions,
        .stmt f ∈ pieces := by
    rw [body]
    refine .bind ((ensures_lift ((Imports.recording_reserve _).makes s₂)).mono
      fun _ s₃ hgrows₃ _ => ?_)
    refine .bind ((ensures_lift (makes_protocols s₃ _)).mono fun protocols s₄ hgrows₄ _ => ?_)
    refine .bind ((ensures_lift (makes_entryFunction s₄ _)).mono fun entry s₅ hgrows₅ _ => ?_)
    have hgrows := hgrows₁.trans (hgrows₂.trans (hgrows₃.trans (hgrows₄.trans hgrows₅)))
    refine .bind ((h templates s₅ hgrows).mono fun functions s₆ _ hfunctions => ?_)
    refine .bind ((ensures_urlClass (fun e _ s => ensures_urlMethod_spells s e) s₆ _).mono
      fun urls _ _ _ => ensures_pure ⟨functions, hfunctions, fun f hf => ?_⟩)
    refine List.mem_append_right _ (List.mem_map_of_mem ?_)
    exact List.mem_append_left _ (List.mem_cons_of_mem _ hf)
  refine .bind (hbody.mono fun pieces s₃ _ hpieces => ?_)
  have hget : Ensures (get : Making Imports) s₃ (fun _ => True) fun _ _ => True :=
    ensures_lift (Imports.makes_get trivial)
  refine .bind (hget.mono fun imports _ _ _ => ensures_pure ?_)
  obtain ⟨functions, hfunctions, hmem⟩ := hpieces
  exact ⟨functions, hfunctions, fun f hf => List.mem_append_right _ (hmem f hf)⟩

/-- The function of a group of one endpoint defines its handler. -/
theorem ensures_groupFunctions_singleton {context : Context} {ident : String} {e : Endpoint}
    {s : Imports} {fails : Fault → Prop} {post : Stmt → Imports → Prop}
    (h : Ensures (handler context e) s fails post)
    (hdefinition : ∀ made s', post made s' → made.isDefinition = true) :
    Ensures (groupFunctions context [⟨ident, [e]⟩]) s fails fun functions _ =>
      ∃ function made s', functions = [function] ∧ s.Grows s' ∧ post made s' ∧
        definedName? function = some (Group.functionName context.config ident) ∧
        definedIn function = [made] := by
  rw [groupFunctions, groupFunction, handlers, handlers]
  refine .bind (.bind (.bind (h.mono fun made s₁ hgrows hmade => ?_)))
  refine .bind (ensures_pure (ensures_pure ?_))
  refine .bind ((ensures_lift (makes_optionalParams s₁ _ _)).mono fun params s₂ _ _ => ?_)
  refine ensures_pure (.bind (ensures_pure (ensures_pure ⟨_, made, s₁, rfl, hgrows, hmade, rfl, ?_⟩)))
  have hrest : [made, .ret (.list [routeEntry e])].filter Stmt.isDefinition = [made] := by
    rw [List.filter_cons_of_pos (hdefinition made s₁ hmade)]
    rfl
  rw [definedIn]
  split_ifs <;> simpa [Stmt.isDefinition, Stmt.set] using hrest

/-- A value of a class that is read from texts is made by a method of what the class is written
with. -/
theorem ConvertedOnce.exists_from_text {host : Host} {s : Imports} {p : String} {c : ClassId}
    {body : List Stmt} (h : ConvertedOnce host s p (.cls c) body)
    (htext : host.conversion? (.cls c) = some .text) :
    ∃ front, s.Shows c front ∧ .attribute front "from_text" ∈ Stmt.calleesOf body := by
  obtain ⟨kind, before, stmt, after, hkind, hstmt, rfl, -, -⟩ := h
  obtain rfl : kind = .text := Option.some.inj (hkind.symm.trans htext)
  cases hstmt with
  | value hvalue _ =>
    cases hvalue with
    | @text _ front hc hfront =>
      obtain rfl := HostType.cls.inj hc
      refine ⟨front, hfront, ?_⟩
      rw [Stmt.calleesOf_append, Stmt.calleesOf_cons, Stmt.callees_attempt]
      simp

/-- A class that is written without an import, by the name of the receiver.  Its values are read from
texts and written as texts. -/
def bareClass : ClassId :=
  .own "receiver" "builtins" "receiver" "receiver"

/-- An application with the class, and with a function of no module that takes a value of it. -/
def bareHost : Host where
  classes := [⟨bareClass, [Class.root], .plain, [],
    [("from_text", .ofClass ⟨"app", [⟨"text", some HostType.str, .positional, false⟩], none, false⟩),
      ("to_text", .method ⟨"app", [], none, false⟩)]⟩]
  functions := [("show", ⟨"", [⟨"id", some (.cls bareClass), .positional, false⟩], none, false⟩)]
  receiver := none

/-- The configuration of the module. -/
def bareConfig : Config :=
  { templatesModule := "app.templates" }

/-- The call that passes a path parameter to the function. -/
def bareCall : Call :=
  ⟨"show", [.name "id"]⟩

/-- A route with the call. -/
def bareDefinition : Definition :=
  ⟨⟨"GET /\x7bid\x7d show(id)", some .get, "", "/\x7bid\x7d", [.param "id"], 200, false, "show(id)"⟩,
    some bareCall, "", ""⟩

/-- What the resolution of the route records. -/
def bareState : State :=
  ((resolve bareHost bareDefinition).run State.start).2

/-- The endpoint of the route. -/
def bareEndpoint : Endpoint :=
  ⟨bareDefinition, "show", 0, recorded? bareState.signatures "show", bareState.pathTypes, false⟩

/-- The fragment of the route. -/
def bareLibrary : Library :=
  ⟨[bareDefinition.label.name], [⟨bareDefinition.label.name, "", none⟩]⟩

/-- What the handler of the route is made from. -/
def bareContext (templates : Expr) : Context :=
  ⟨bareConfig, bareHost, bareLibrary, bareState.signatures, templates⟩

/-- The signature of the function. -/
def bareSignature : Signature :=
  (recorded? bareState.signatures "show").getD (unknownSignature "show")

/-- The resolution of the route ends well; it records the function, which has no module, and the type
of the path parameter, which is the class. -/
theorem resolution_bare :
    ((resolve bareHost bareDefinition).run State.start).1.toOption.isSome = true ∧
      bareSignature.isRequired = false ∧ bareSignature.module = "" ∧
      (bareEndpoint.pathType "id").same (.cls bareClass) = true := by
  decide +kernel

theorem resolves_bare (templates : Expr) : (bareContext templates).Resolves bareEndpoint :=
  @resolves_of_isSome _ _ bareDefinition.label.name bareCall rfl rfl resolution_bare.1 rfl rfl

theorem pathType_bare : bareEndpoint.pathType "id" = .cls bareClass :=
  eq_cls_of_same resolution_bare.2.2.2

/-- The handler of the route calls a method of the class on the receiver, and the function by its
name. -/
theorem ensures_handler_bare (templates : Expr) (s : Imports) :
    Ensures (handler (bareContext templates) bareEndpoint) s (fun _ => False) fun made s' =>
      made.isDefinition = true ∧ "from_text" ∈ methodsOn "receiver" [made] ∧
        (s'.own = "" → .name "show" ∈ Stmt.calleesOf [made]) := by
  have hresolves := resolves_bare templates
  have hfails : ∀ fault : Fault, fault.IsForm ∧ bareEndpoint.definition.HasIdentifier "form" →
      False := by
    rintro fault ⟨-, call, hcall, hform⟩
    obtain rfl := Option.some.inj hcall
    exact absurd hform (by decide)
  refine ((ensures_handler_convertsPath hresolves s).mono_fails hfails).mono ?_
  rintro made s' - ⟨bindings, body, invoked, rfl, hsub, hinvoked, hpath⟩
  have hcallees : ∀ callee ∈ Stmt.calleesOf body, callee ∈ Stmt.calleesOf [.function true
      bareEndpoint.handlerName [Param.typed "request" (.name "Request")] (.name "Response")
        body] := by
    intro callee hcallee
    simp [hcallee]
  refine ⟨rfl, ?_, fun hown => ?_⟩
  · have hused : bareEndpoint.definition.HasIdentifier "id" := ⟨_, rfl, by decide⟩
    obtain ⟨honce, -⟩ := hpath "id" (by decide) hused
    rw [pathType_bare] at honce
    have htext : bareHost.conversion? (.cls bareClass) = some .text := by decide
    obtain ⟨front, hfront, hmem⟩ := honce.exists_from_text htext
    have hbare : s'.Shows bareClass (.name "receiver") := .builtin (by decide) (by decide)
    rw [hfront.unique hbare] at hmem
    exact List.mem_filterMap.mpr ⟨_, hcallees _ hmem, rfl⟩
  · obtain _ | @⟨_, stmt, _, _, hcarries, _⟩ := hinvoked
    obtain ⟨-, hfree, hmodule, -⟩ := resolution_bare
    obtain ⟨name, hlocal, hcallee⟩ := hcarries.exists_local hfree
    have hlocal : s'.HasLocal bareSignature.module "show" name := hlocal
    rw [hmodule, Imports.HasLocal, hown, if_pos rfl] at hlocal
    obtain rfl := hlocal
    refine hcallees _ ?_
    rw [Stmt.calleesOf_cons, Stmt.calleesOf_nil, List.append_nil] at hcallee
    exact List.mem_flatMap.mpr ⟨stmt, hsub.subset List.mem_cons_self, hcallee⟩

/-- The handler and the URL builder of the route are made. -/
theorem makeable_bare (templates : Expr) :
    Makeable (bareContext templates) [bareEndpoint] fun _ => False := by
  have htypes : ∀ p ∈ bareEndpoint.definition.label.params,
      bareEndpoint.pathType p = .cls bareClass := by
    intro p hp
    obtain rfl : p = "id" := List.mem_singleton.mp hp
    exact pathType_bare
  have hencodable : bareHost.isEncodable (.cls bareClass) = true := by decide
  constructor
  · simp only [List.mem_singleton, forall_eq]
    intro s
    exact ((ensures_handler_bare templates s).and (ensures_handler_calls _ _ s)).mono
      fun _ _ _ h => h.2
  · simp only [List.mem_singleton, forall_eq]
    intro s
    have hmethod := @ensures_urlMethod bareHost _ s (resolves_bare templates).label_normal
      fun p hp => ⟨bareClass, htypes p hp⟩
    refine (hmethod.mono_fails ?_).mono ?_
    · rintro fault ⟨p, hp, -, hnot⟩
      rw [htypes p hp] at hnot
      exact hnot (.inl hencodable)
    · rintro made _ - ⟨params, returns, body, hmade, -⟩
      exact ⟨params, returns, body, hmade⟩

/-- The calls are **not declared**: the handler of a resolved route calls a method on the receiver
that the protocol does not declare, and a function by a name that is not imported. -/
theorem calls_undeclared :
    (∀ templates, (bareContext templates).Resolves bareEndpoint) ∧
    ∃ (pieces : List Piece) (imports : Imports) (protocol function : Stmt),
      (make bareConfig bareLibrary bareHost "" [bareEndpoint] bareState.signatures).run.run
        (Imports.start "") = (.ok pieces, imports) ∧
      .stmt protocol ∈ pieces ∧ definedName? protocol = some bareConfig.receiverInterface ∧
      .stmt function ∈ pieces ∧ definedName? function = some (Group.functionName bareConfig "") ∧
      declared protocol = [] ∧ "from_text" ∈ methodsOn "receiver" (definedIn function) ∧
      .name "show" ∈ Stmt.calleesOf (definedIn function) ∧
      ∀ name, (⟨"", "show"⟩, name) ∉ imports.statements.flatMap Stmt.aliases := by
  have hgroups : EndpointGroup.ofEndpoints [bareEndpoint] = [⟨"", [bareEndpoint]⟩] := by
    have hident : Group.identOf bareDefinition = "" := by decide
    simp [EndpointGroup.ofEndpoints_eq, EndpointGroup.idents, bareEndpoint, hident]
    rfl
  have hfunctions : Ensures (make bareConfig bareLibrary bareHost "" [bareEndpoint]
      bareState.signatures) (Imports.start "") (fun _ => True) fun pieces _ =>
        ∃ functions, (∃ function, functions = [function] ∧
          definedName? function = some (Group.functionName bareConfig "") ∧
          "from_text" ∈ methodsOn "receiver" (definedIn function) ∧
          .name "show" ∈ Stmt.calleesOf (definedIn function)) ∧
        ∀ f ∈ functions, .stmt f ∈ pieces := by
    refine ensures_make_functions "" (Imports.start "") fun templates s hgrows => ?_
    rw [hgroups]
    refine ((ensures_groupFunctions_singleton (ensures_handler_bare templates s)
      fun _ _ h => h.1).mono_fails fun _ _ => trivial).mono ?_
    rintro functions - - ⟨function, made, s', rfl, hgrows', ⟨-, hmethod, hname⟩, hdefined, hmade⟩
    refine ⟨function, rfl, hdefined, ?_⟩
    rw [hmade]
    exact ⟨hmethod, hname (hgrows.trans hgrows').own⟩
  obtain ⟨_, imports, hrun, templates, p, -, -, (hmade : p.Made (bareContext templates) _), rfl⟩ :=
    (ensures_make makeable_bare "" (Imports.start "")).exists_run fun _ => id
  obtain ⟨_, ⟨function, rfl, hdefined, hmethod, hname⟩, hpiece⟩ :=
    hfunctions.of_run (congrArg Prod.fst hrun)
  obtain ⟨protocol, -, -, hwhole⟩ := hmade.protocols
  refine ⟨resolves_bare, _, imports, p.whole, function, hrun, ?_, hwhole.definedName?_eq,
    hpiece function List.mem_cons_self, hdefined, ?_, hmethod, hname, fun name hmem => ?_⟩
  · simp [Parts.pieces]
  · have hnone : required (bareContext templates) [bareEndpoint] = [] := by
      refine List.eq_nil_iff_forall_not_mem.mpr fun g hg => ?_
      obtain ⟨hrequired, e, he, c, hc, rfl⟩ := mem_required_iff.mp hg
      obtain rfl := List.mem_singleton.mp he
      obtain rfl : c = bareCall := List.mem_singleton.mp hc
      have hfree : bareSignature.isRequired = false := by decide +kernel
      exact Bool.false_ne_true (hfree.symm.trans hrequired)
    have hunnamed : unnamed [⟨"", [bareEndpoint]⟩] = [⟨"", [bareEndpoint]⟩] := rfl
    have hdeclared := hwhole.forall₂_declared
    rw [hgroups, hunnamed, List.flatMap_singleton, hnone] at hdeclared
    exact List.forall₂_nil_left_iff.mp hdeclared
  · have hkeeps := keeps_receiver bareConfig bareLibrary bareHost "" [bareEndpoint]
      bareState.signatures
    rw [StateT.run, hrun] at hkeeps
    rcases hkeeps.mem_aliases_statements.mp hmem with hfuture | hsymbol
    · simp at hfuture
    · exact hkeeps.foreign hsymbol hkeeps.own.symm

end RoutesModule

end FragmentRoutes
