import FragmentRoutes.Proofs.Naming.GroupWords
import FragmentRoutes.Proofs.RoutesModule.FixedNames

/-!
# Names of groups

The function and the protocol of a group are named for its identifier.  The names of the functions
are apart from each other and from all that the entry needs, and no protocol is named as that of the
whole receiver (`namesApart`).

The protocols of two groups have the same name exactly if their identifiers have the same words
when neighbouring numbers are joined (`GroupsClash`).  Then the module has a class twice, and the
protocol of the whole receiver extends it twice.  Nothing else brings this about, but for a group
whose protocol has the name under which `Protocol` is imported (`protocols_of_generate`).
-/

namespace FragmentRoutes.RoutesModule

open Code Host Naming

/-! ### Names of functions and protocols -/

theorem isSnakeChar_of_mem_groupIdentifier {group : String} {c : Char}
    (h : c ∈ (groupIdentifier group).toList) : isSnakeChar c = true := by
  rcases groupIdentifier_cases group with hempty | ⟨d, ds, hchars, hsmall, hsnake⟩
  · rw [hempty] at h
    cases h
  · rw [hchars] at h
    rcases List.mem_cons.mp h with rfl | h
    · simp [isSnakeChar, hsmall]
    · exact hsnake c h

theorem pascalCase_groupIdentifier_ne_empty {group : String} (h : groupIdentifier group ≠ "") :
    pascalCase (groupIdentifier group) ≠ "" := by
  rcases groupIdentifier_cases group with hempty | ⟨c, cs, hchars, hsmall, -⟩
  · exact absurd hempty h
  · exact pascalCase_ne_empty hchars hsmall fun d hd => isSnakeChar_of_mem_groupIdentifier hd

/-- A text is not what it is with something in front. -/
theorem append_ne_right {s : String} (h : s ≠ "") (t : String) : s ++ t ≠ t := by
  intro heq
  exact h ((String.append_left_inj t).mp (heq.trans String.empty_append.symm))

/-- The names that are made for a group differ from those of another group and from those of the
whole module, but for the protocols of the groups: these differ exactly if the words of the
identifiers do. -/
structure NamesApart (config : Config) (ident ident' : String) : Prop where
  function : Group.functionName config ident ≠ Group.functionName config ident'
  entry : Group.functionName config ident ≠ config.routesFunction
  ungrouped : Group.functionName config ident ≠ Group.functionName config ""
  interface : Group.protocolName config ident ≠ config.receiverInterface
  protocol : Group.protocolName config ident ≠ Group.protocolName config ident' ↔
    joinNumbers (words ident) ≠ joinNumbers (words ident')

theorem protocolName_eq_iff (config : Config) (group group' : String) :
    Group.protocolName config (groupIdentifier group) =
        Group.protocolName config (groupIdentifier group') ↔
      joinNumbers (words (groupIdentifier group)) =
        joinNumbers (words (groupIdentifier group')) := by
  rw [Group.protocolName, Group.protocolName, String.append_left_inj]
  exact pascalCase_eq_iff (fun _ => isSnakeChar_of_mem_groupIdentifier)
    fun _ => isSnakeChar_of_mem_groupIdentifier

/-- **The names of a group**, next to another group. -/
theorem namesApart (config : Config) {group group' : String} (h : groupIdentifier group ≠ "")
    (hne : groupIdentifier group ≠ groupIdentifier group') :
    NamesApart config (groupIdentifier group) (groupIdentifier group') where
  function := (functionName_injective config).ne hne
  entry := append_ne_right (by simp) _
  ungrouped := (functionName_injective config).ne h
  interface := append_ne_right (pascalCase_groupIdentifier_ne_empty h) _
  protocol := not_congr (protocolName_eq_iff config group group')

/-! ### Classes that extend others -/

theorem nodup_append_singleton_iff {names : List String} {name : String} :
    (names ++ [name]).Nodup ↔ names.Nodup ∧ name ∉ names := by
  rw [List.nodup_append_comm, List.singleton_append, List.nodup_cons, and_comm]

/-- A class that extends others, with what it extends. -/
def extension? : Piece → Option (String × List Expr)
  | .stmt (.classDef name (base :: bases) _) => some (name, base :: bases)
  | _ => none

/-- The classes of a module that extend others, each with what it extends. -/
def extensions (pieces : List Piece) : List (String × List Expr) :=
  pieces.filterMap extension?

/-- The names of the protocols of groups. -/
def protocolNames (config : Config) (idents : List String) : List String :=
  idents.map (Group.protocolName config)

/-- The classes of a module that extend others are the **protocols of the receivers**: those of the
groups, by these names, and that of the whole receiver, which extends them all. -/
def Receivers (config : Config) (protocol : String) (names : List String) (pieces : List Piece) :
    Prop :=
  extensions pieces = names.map (fun name => (name, [.name protocol])) ++
    [(config.receiverInterface, names.map .name ++ [.name protocol])]

/-- The groups that have a name are these, each once. -/
structure NamedGroups (definitions : List Definition) (idents : List String) : Prop where
  nodup : idents.Nodup
  mem_iff : ∀ ident, ident ∈ idents ↔ ident ≠ "" ∧ ∃ d ∈ definitions, Group.identOf d = ident

section

variable {context : Context} {s : Imports}

theorem IsProtocol.extension?_eq {protocol : Expr} {g : EndpointGroup} {stmt : Stmt}
    (h : IsProtocol context s protocol g stmt) :
    extension? (.stmt stmt) = some (Group.protocolName context.config g.ident, [protocol]) := by
  obtain ⟨methods, -, rfl⟩ := h
  rfl

theorem IsWholeProtocol.extension?_eq {protocol : Expr} {groups : List EndpointGroup} {stmt : Stmt}
    (h : IsWholeProtocol context s protocol groups stmt) :
    extension? (.stmt stmt) = some (context.config.receiverInterface, (named groups).map
      (fun g => .name (Group.protocolName context.config g.ident)) ++ [protocol]) := by
  obtain ⟨methods, -, rfl⟩ := h
  cases named groups <;> rfl

theorem filterMap_extension?_functions {groups : List EndpointGroup} {functions : List Stmt}
    (h : List.Forall₂ (Registers context s) groups functions) :
    functions.filterMap (fun stmt => extension? (.stmt stmt)) = [] := by
  induction h with
  | nil => rfl
  | cons hfirst _ ih =>
    obtain ⟨_, _, _, -, -, rfl⟩ := hfirst
    exact ih

end

/-- **The classes of a module that extend others** are the protocols of the groups and that of the
whole receiver, which extends them. -/
theorem Parts.Made.receivers {context : Context} {endpoints : List Endpoint} {p : Parts}
    (h : p.Made context endpoints) {definitions : List Definition}
    (hdefinitions : endpoints.map (·.definition) = definitions) :
    ∃ protocol idents, p.imports.HasLocal "typing" "Protocol" protocol ∧
      NamedGroups definitions idents ∧
      Receivers context.config protocol (protocolNames context.config idents)
        (p.pieces context.config) := by
  obtain ⟨protocol, hlocal, hgrouped, hwhole⟩ := h.protocols
  refine ⟨protocol, (named (EndpointGroup.ofEndpoints endpoints)).map (·.ident), hlocal, ?_, ?_⟩
  · have hidents : (named (EndpointGroup.ofEndpoints endpoints)).map (·.ident) =
        (EndpointGroup.idents endpoints).filter fun ident => !ident.isEmpty := by
      rw [named, ← EndpointGroup.map_ident_ofEndpoints, List.filter_map]
      rfl
    rw [hidents]
    refine ⟨(EndpointGroup.nodup_idents endpoints).filter _, fun ident => ?_⟩
    rw [List.mem_filter, EndpointGroup.mem_idents, ← hdefinitions]
    simp [and_comm]
  · have hhelpers : Support.helpers.filterMap extension? = [] := rfl
    have hclasses : (Support.classes context.config).filterMap extension? = [] := rfl
    have hstmts : ∀ stmts : List Stmt, (stmts.map Piece.stmt).filterMap extension? =
        stmts.filterMap fun stmt => extension? (.stmt stmt) := fun stmts => List.filterMap_map ..
    have himports := filterMap_statements (f := fun stmt => extension? (.stmt stmt))
      (fun _ => rfl) (fun _ _ => rfl) p.imports
    have hgrouped := filterMap_of_forall₂ (f := fun stmt => extension? (.stmt stmt))
      (fun _ _ h => h.extension?_eq) hgrouped
    have hentry : extension? (.stmt p.entry) = none := by
      obtain ⟨params, hentry⟩ := h.entry
      rw [hentry]
      rfl
    have hurls : extension? (.stmt p.urls) = none := by
      obtain ⟨methods, -, hurls⟩ := h.urls
      rw [hurls]
      rfl
    have hfunctions := filterMap_extension?_functions h.functions
    rw [Receivers, extensions, Parts.pieces]
    simp only [List.filterMap_append, hstmts, himports, hhelpers, hclasses, hgrouped, hfunctions,
      hwhole.extension?_eq, hentry, hurls, List.cons_append, List.nil_append, List.append_nil,
      List.filterMap_cons, List.filterMap_nil]
    simp [protocolNames, Function.comp_def]

theorem Receivers.map_fst {config : Config} {protocol : String} {names : List String}
    {pieces : List Piece} (h : Receivers config protocol names pieces) :
    (extensions pieces).map Prod.fst = names ++ [config.receiverInterface] := by
  rw [Receivers] at h
  simp [h, Function.comp_def]

/-- A class extends another one twice only if that of the whole receiver does. -/
theorem Receivers.forall_nodup_iff {config : Config} {protocol : String} {names : List String}
    {pieces : List Piece} (h : Receivers config protocol names pieces) :
    (∀ c ∈ extensions pieces, c.2.Nodup) ↔ names.Nodup ∧ protocol ∉ names := by
  have hbases : (names.map Expr.name ++ [Expr.name protocol]).Nodup ↔
      names.Nodup ∧ protocol ∉ names := by
    rw [← nodup_append_singleton_iff, ← List.map_singleton (f := Expr.name), ← List.map_append]
    exact List.nodup_map_iff fun _ _ => Expr.name.inj
  rw [Receivers] at h
  rw [← hbases, h]
  constructor
  · exact fun hall => hall _ (List.mem_append_right _ List.mem_cons_self)
  · intro hnodup c hc
    rcases List.mem_append.mp hc with hc | hc
    · obtain ⟨name, -, rfl⟩ := List.mem_map.mp hc
      exact List.nodup_singleton _
    · obtain rfl := List.mem_singleton.mp hc
      exact hnodup

/-! ### Groups that clash -/

/-- Two groups that have a name **clash**: their identifiers differ but have the same words when
neighbouring numbers are joined. -/
structure GroupsClash (ident ident' : String) : Prop where
  named : ident ≠ ""
  named' : ident' ≠ ""
  different : ident ≠ ident'
  words : joinNumbers (words ident) = joinNumbers (words ident')

/-- No two groups of the definitions clash. -/
def GroupsApart (definitions : List Definition) : Prop :=
  ∀ d ∈ definitions, ∀ e ∈ definitions, ¬GroupsClash (Group.identOf d) (Group.identOf e)

section

variable (config : Config) {definitions : List Definition} {idents : List String}

/-- **The protocols of groups have different names** exactly if no two groups clash. -/
theorem nodup_protocolNames_iff (h : NamedGroups definitions idents) :
    (protocolNames config idents).Nodup ↔ GroupsApart definitions := by
  rw [protocolNames, List.nodup_map_iff_inj_on h.nodup]
  constructor
  · intro hinj d hd e he hclash
    have hname := (protocolName_eq_iff config d.group e.group).mpr hclash.words
    exact hclash.different (hinj _ ((h.mem_iff _).mpr ⟨hclash.named, d, hd, rfl⟩) _
      ((h.mem_iff _).mpr ⟨hclash.named', e, he, rfl⟩) hname)
  · intro hapart ident hident ident' hident' hname
    obtain ⟨hne, d, hd, rfl⟩ := (h.mem_iff _).mp hident
    obtain ⟨hne', e, he, rfl⟩ := (h.mem_iff _).mp hident'
    by_contra hdifferent
    have hwords := (protocolName_eq_iff config d.group e.group).mp hname
    exact hapart d hd e he ⟨hne, hne', hdifferent, hwords⟩

/-- No protocol of a group is named as that of the whole receiver. -/
theorem receiverInterface_not_mem (h : NamedGroups definitions idents) :
    config.receiverInterface ∉ protocolNames config idents := by
  intro hmem
  obtain ⟨ident, hident, hname⟩ := List.mem_map.mp hmem
  obtain ⟨hne, d, -, rfl⟩ := (h.mem_iff _).mp hident
  exact append_ne_right (pascalCase_groupIdentifier_ne_empty hne) _ hname

end

/-- **The protocols of the groups in a module.**  The names that are made for a group are apart from
those of another one and of the whole module, but for the protocols, which are apart exactly if the
groups do not clash.  The protocol of the whole receiver extends those of all groups.  So a module
that is generated has no class twice exactly if no two of its groups clash, and no class extends
another one twice exactly if besides no protocol of a group has the name under which `Protocol` is
imported. -/
theorem protocols_of_generate (config : Config) :
    (∀ group group', groupIdentifier group ≠ "" →
      groupIdentifier group ≠ groupIdentifier group' →
      NamesApart config (groupIdentifier group) (groupIdentifier group')) ∧
    ∀ library host attributeName m, generate config library host attributeName = .ok m →
      ∃ definitions parts protocol idents,
        Definition.ofFragments library.fragments = .ok definitions ∧
        m.pieces = Parts.pieces config parts ∧
        parts.imports.HasLocal "typing" "Protocol" protocol ∧ NamedGroups definitions idents ∧
        Receivers config protocol (protocolNames config idents) m.pieces ∧
        (((extensions m.pieces).map Prod.fst).Nodup ↔ GroupsApart definitions) ∧
        ((∀ c ∈ extensions m.pieces, c.2.Nodup) ↔
          GroupsApart definitions ∧ protocol ∉ protocolNames config idents) := by
  refine ⟨fun _ _ h hne => namesApart config h hne, fun library host attributeName m hm => ?_⟩
  obtain ⟨definitions, templates, parts, hdefinitions, hordered, -, -, hparts, hpieces⟩ :=
    exists_parts_of_generate hm
  obtain ⟨protocol, idents, hlocal, hidents, hreceivers⟩ := hparts.receivers hordered.definition
  rw [← hpieces] at hreceivers
  refine ⟨definitions, parts, protocol, idents, hdefinitions, hpieces, hlocal, hidents, hreceivers,
    ?_, ?_⟩
  · rw [hreceivers.map_fst, nodup_append_singleton_iff, nodup_protocolNames_iff config hidents]
    exact and_iff_left (receiverInterface_not_mem config hidents)
  · rw [hreceivers.forall_nodup_iff, nodup_protocolNames_iff config hidents]

/-- Pages of two files. -/
def filesLibrary : Library :=
  ⟨["GET /a", "GET /b"], [⟨"GET /a", "", some "a.html"⟩, ⟨"GET /b", "", some "b.html"⟩]⟩

/-- The route of a page in a file. -/
def fileDefinition (text path file : String) : Definition :=
  ⟨⟨text, some .get, "", "/" ++ path, [.literal path], 200, false, ""⟩, none, file, file⟩

theorem ofFragments_filesLibrary : Definition.ofFragments filesLibrary.fragments =
    .ok [fileDefinition "GET /a" "a" "a.html", fileDefinition "GET /b" "b" "b.html"] :=
  Definition.ofFragments_of_pairwise (by decide) rfl (by decide)

/-- The two files have groups that do not clash, each with its own protocol. -/
theorem protocols_of_generate_filesLibrary :
    let config : Config := { templatesModule := "app.templates" }
    NamesApart config "a" "b" ∧
      ∃ m, generate config filesLibrary ⟨[], [], none⟩ "" = .ok m ∧
        ((extensions m.pieces).map Prod.fst).Nodup ∧
        ∀ name ∈ ["ARoutesReceiver", "BRoutesReceiver", "RoutesReceiver"],
          name ∈ (extensions m.pieces).map Prod.fst := by
  intro config
  obtain ⟨hnames, hgenerated⟩ := protocols_of_generate config
  have ha : groupIdentifier "a.html" = "a" := by decide
  have hb : groupIdentifier "b.html" = "b" := by decide
  have hapart := hnames "a.html" "b.html" (by rw [ha]; decide) (by rw [ha, hb]; decide)
  rw [ha, hb] at hapart
  obtain ⟨m, hm⟩ := exists_generate_of_pages config ⟨[], [], none⟩ ofFragments_filesLibrary
    (by decide +kernel) (by decide +kernel)
  obtain ⟨definitions, parts, protocol, idents, hdefinitions, -, -, hidents, hreceivers, hnodup,
    -⟩ := hgenerated filesLibrary _ _ m hm
  obtain rfl := Except.ok.inj (ofFragments_filesLibrary.symm.trans hdefinitions)
  have hmem : ∀ ident ∈ ["a", "b"], ident ∈ idents := by
    simp only [hidents.mem_iff]
    decide
  have hwords : ∀ d ∈ [fileDefinition "GET /a" "a" "a.html", fileDefinition "GET /b" "b" "b.html"],
      ∀ e ∈ [fileDefinition "GET /a" "a" "a.html", fileDefinition "GET /b" "b" "b.html"],
      joinNumbers (words (Group.identOf d)) = joinNumbers (words (Group.identOf e)) →
        Group.identOf d = Group.identOf e := by decide
  have hprotocols : ∀ name ∈ ["ARoutesReceiver", "BRoutesReceiver", "RoutesReceiver"],
      (∃ ident ∈ ["a", "b"], Group.protocolName config ident = name) ∨
        name = config.receiverInterface := by decide
  refine ⟨hapart, m, hm, hnodup.mpr fun d hd e he hclash => ?_, fun name hname => ?_⟩
  · exact hclash.different (hwords d hd e he hclash.words)
  · rw [hreceivers.map_fst, List.mem_append, List.mem_singleton]
    exact (hprotocols name hname).imp_left fun ⟨ident, hident, heq⟩ =>
      List.mem_map.mpr ⟨ident, hmem ident hident, heq⟩

/-- Pages of two files whose identifiers have the same digits. -/
def numberedLibrary : Library :=
  ⟨["GET /a", "GET /b"], [⟨"GET /a", "", some "1-2.html"⟩, ⟨"GET /b", "", some "12.html"⟩]⟩

/-- The two files have different identifiers but one name for their protocols, which the module
defines twice. -/
theorem protocols_of_numbered_files :
    let config : Config := { templatesModule := "app.templates" }
    groupIdentifier "1-2.html" = "t1_2" ∧ groupIdentifier "12.html" = "t12" ∧
      Group.protocolName config "t1_2" = Group.protocolName config "t12" ∧
      ∃ m, generate config numberedLibrary ⟨[], [], none⟩ "" = .ok m ∧
        ¬((extensions m.pieces).map Prod.fst).Nodup := by
  intro config
  have hsame : Group.protocolName config "t1_2" = Group.protocolName config "t12" := by
    decide
  refine ⟨by decide, by decide, hsame, ?_⟩
  have hdefinitions : Definition.ofFragments numberedLibrary.fragments = .ok _ :=
    Definition.ofFragments_of_pairwise (by decide) rfl (by decide)
  obtain ⟨m, hm⟩ := exists_generate_of_pages config ⟨[], [], none⟩ hdefinitions
    (by decide +kernel) (by decide +kernel)
  refine ⟨m, hm, fun hnodup => ?_⟩
  obtain ⟨definitions, _, parts, hdefinitions', hordered, -, -, hparts, hpieces⟩ :=
    exists_parts_of_generate hm
  obtain rfl := Except.ok.inj (hdefinitions.symm.trans hdefinitions')
  obtain ⟨protocol, idents, -, hidents, hreceivers⟩ := hparts.receivers hordered.definition
  rw [hpieces, hreceivers.map_fst, nodup_append_singleton_iff] at hnodup
  have hmem : ∀ ident ∈ ["t1_2", "t12"], ident ∈ idents := by
    simp only [hidents.mem_iff]
    decide
  have hinj := List.inj_on_of_nodup_map hnodup.1
  have heq := hinj (hmem "t1_2" (by decide)) (hmem "t12" (by decide)) hsame
  exact absurd heq (by decide)

end FragmentRoutes.RoutesModule
