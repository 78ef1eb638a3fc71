import FragmentRoutes.Proofs.Config
import FragmentRoutes.Proofs.RoutesModule.Coverage
import FragmentRoutes.Proofs.Text.Compatibility

/-!
# Names of the fixed code

Every module has the same helpers and, but for the names of three classes, the same classes.  The
names that this code defines, and those that it imports and uses, are read off its text
(`fixedNames`).  Whether a module defines one of these names a second time depends on the
configuration and on the files of the routes alone (`redefines_iff_of_generate`).
-/

namespace FragmentRoutes.RoutesModule

open Code Host

/-! ### Reading the fixed code -/

/-- The lines of a piece that is kept as a text. -/
def linesOf : Piece → List (List Char)
  | .stmt _ => []
  | .text _ value => value.toList.splitOn '\n'

/-- The characters of names in the fixed code. -/
def isNameChar (c : Char) : Bool :=
  Naming.isWordChar c || c == '_'

/-- What follows a text at the start of a line. -/
def after? (front : String) (line : List Char) : Option (List Char) :=
  if front.toList.isPrefixOf line then some (line.drop front.length) else none

/-- The name that a line without indentation defines: that of a function, of a class or of a
value. -/
def lineName? (line : List Char) : Option String :=
  let name := line.takeWhile isNameChar
  let defined := ["def ", "async def ", "class "].findSome? fun front =>
    (after? front line).map (·.takeWhile isNameChar)
  let assigned := (after? " = " (line.drop name.length)).map fun _ => name
  ((defined.or assigned).filter fun name => !name.isEmpty).map String.ofList

/-- The words of a line. -/
def lineWords (line : List Char) : List (List Char) :=
  line.splitOnP fun c => !isNameChar c

/-- What every module imports. -/
def standardNames : List String :=
  Support.modules ++ Support.symbols.map (·.2)

/-- The names that lines define, and those of imports that stand in them. -/
def namesIn (lines : List (List Char)) : List String :=
  lines.filterMap lineName? ++
    ((lines.flatMap lineWords).filter (standardNames.map String.toList).contains).map String.ofList

/-- The code that is the same in every module: the helpers, and the classes without the names that
are configured. -/
def fixedCode : List Piece :=
  Support.helpers ++ [Support.responseWriter, Support.templateData "" "" ""]

/-- **The names of the fixed code**: those that it defines, and those that it imports and uses. -/
def fixedNames : List String :=
  (fixedCode.flatMap fun p => namesIn (linesOf p)).eraseDups

/-- The piece is put together of lines of these characters. -/
def ComposedOf (p : Piece) (lines : List (List Char)) : Prop :=
  ∃ isDefinition texts, p = .text isDefinition ("\n".intercalate texts) ∧
    List.Forall₂ (fun text line => text = String.ofList line) texts lines

theorem composedOf_text {isDefinition : Bool} {texts : List String} {lines : List (List Char)}
    (h : List.Forall₂ (fun text line => text = String.ofList line) texts lines) :
    ComposedOf (.text isDefinition ("\n".intercalate texts)) lines :=
  ⟨isDefinition, texts, rfl, h⟩

theorem append_eq_ofList {a b : String} {cs ds : List Char} (ha : a = String.ofList cs)
    (hb : b = String.ofList ds) : a ++ b = String.ofList (cs ++ ds) := by
  rw [ha, hb, String.ofList_append]

/-- The lines of a piece are those that it is put together of. -/
theorem ComposedOf.linesOf_eq {p : Piece} {lines : List (List Char)} (h : ComposedOf p lines)
    (hplain : (!lines.isEmpty && lines.all fun line => !line.contains '\n') = true) :
    linesOf p = lines := by
  obtain ⟨isDefinition, texts, rfl, hlines⟩ := h
  rw [Bool.and_eq_true] at hplain
  have hmap : texts.map String.toList = lines := by
    clear hplain
    induction hlines with
    | nil => rfl
    | cons hfirst _ ih => rw [List.map_cons, ih, hfirst, String.toList_ofList]
  rw [linesOf, String.toList_intercalate, hmap]
  exact List.splitOn_intercalate '\n' (by simpa using hplain.2) (by simpa using hplain.1)

/-- The names of the fixed code are those in the lines that it is put together of. -/
theorem fixedNames_eq_of_composed {lines : List (List (List Char))}
    (h : List.Forall₂ ComposedOf fixedCode lines)
    (hplain : (lines.all fun ls => !ls.isEmpty && ls.all fun line => !line.contains '\n') = true) :
    fixedNames = (lines.flatMap namesIn).eraseDups := by
  unfold fixedNames
  generalize fixedCode = pieces at h
  congr 1
  induction h with
  | nil => rfl
  | cons hfirst _ ih =>
    rw [List.all_cons, Bool.and_eq_true] at hplain
    rw [List.flatMap_cons, List.flatMap_cons, hfirst.linesOf_eq hplain.1, ih hplain.2]

/-- **The names of the fixed code**, one by one. -/
theorem fixedNames_eq : fixedNames = ["_logger", "JINJAMUX_VERSION", "_TRUE_TOKENS",
    "_FALSE_TOKENS", "logging", "_parse_bool", "_error_status", "HTTPStatus", "_error_text", "html",
    "_join", "posixpath", "_segment", "quote", "_encode_text", "Any", "_read_form", "Request",
    "FormData", "_register_routes", "Router", "BaseRoute", "Host", "ResponseWriter",
    "MutableHeaders", "io", "Response"] := by
  apply Eq.trans
  · apply fixedNames_eq_of_composed
    · -- the lines are spelled out as characters, one after the other
      unfold fixedCode Support.helpers
      simp only [List.cons_append, List.nil_append]
      repeat'
        first
        | exact List.Forall₂.nil
        | apply append_eq_ofList
        | exact rfl
        | apply composedOf_text
        | apply List.Forall₂.cons
    · decide
  · decide +kernel

-- from here on the names are read from the list, never from the text again
attribute [irreducible] fixedNames

/-! ### Names of the module -/

/-- The name that a piece defines as a statement. -/
def pieceName? : Piece → Option String
  | .stmt s => definedName? s
  | .text _ _ => none

/-- The names that the module defines besides the fixed code: those of the functions and classes
that are made for the configuration and the groups. -/
def derivedNames (config : Config) (pieces : List Piece) : List String :=
  config.templateDataType :: pieces.filterMap pieceName?

section

variable {context : Context} {endpoints : List Endpoint}

theorem filterMap_pieceName?_stmts (stmts : List Stmt) :
    (stmts.map Piece.stmt).filterMap pieceName? = stmts.filterMap definedName? := by
  rw [List.filterMap_map]
  rfl

/-- Nothing is read off the imports that is not read off any import. -/
theorem filterMap_statements {α : Type} {f : Stmt → Option α}
    (hmodule : ∀ module, f (.importModule module) = none)
    (hfrom : ∀ module symbols, f (.importFrom module symbols) = none) (s : Imports) :
    s.statements.filterMap f = [] := by
  unfold Imports.statements
  rw [List.cons_append, List.filterMap_cons_none (hfrom _ _), List.filterMap_append,
    List.filterMap_map, List.filterMap_map]
  simp [hmodule, hfrom]

/-- What is read off statements is read off what they are made from. -/
theorem filterMap_of_forall₂ {α β : Type} {R : α → Stmt → Prop} {f : Stmt → Option β} {g : α → β}
    (hread : ∀ a stmt, R a stmt → f stmt = some (g a)) {items : List α} {stmts : List Stmt}
    (h : List.Forall₂ R items stmts) : stmts.filterMap f = items.map g := by
  induction h with
  | nil => rfl
  | cons hfirst _ ih => rw [List.filterMap_cons_some (hread _ _ hfirst), ih, List.map_cons]

/-- **The names that a module defines** besides the fixed code. -/
theorem Parts.Made.derivedNames_eq {p : Parts} (h : p.Made context endpoints) :
    derivedNames context.config (p.pieces context.config) =
      context.config.templateDataType ::
        ((named (EndpointGroup.ofEndpoints endpoints)).map
            (fun g => Group.protocolName context.config g.ident) ++
          context.config.receiverInterface :: context.config.routesFunction ::
          ((EndpointGroup.ofEndpoints endpoints).map
            (fun g => Group.functionName context.config g.ident) ++
          [context.config.routePathsType])) := by
  obtain ⟨protocol, -, hgrouped, hwhole⟩ := h.protocols
  have hhelpers : Support.helpers.filterMap pieceName? = [] := rfl
  have hclasses : (Support.classes context.config).filterMap pieceName? = [] := rfl
  have himports := filterMap_statements (f := definedName?) (fun _ => rfl) (fun _ _ => rfl) p.imports
  have hgrouped := filterMap_of_forall₂ (fun _ _ h => h.definedName?_eq) hgrouped
  have hfunctions := filterMap_of_forall₂ (fun _ _ h => h.definedName?_eq) h.functions
  rw [derivedNames, Parts.pieces]
  simp only [List.filterMap_append, filterMap_pieceName?_stmts, himports,
    hhelpers, hclasses, hgrouped, List.cons_append, List.append_assoc, List.filterMap_cons,
    List.filterMap_nil, hwhole.definedName?_eq, h.entry.definedName?_eq, hfunctions,
    h.urls.definedName?_eq, List.nil_append]

end

/-! ### Names that are defined twice -/

/-- A name of the fixed code is **defined a second time**.  Names are the same if they have the same
compatibility form. -/
def Redefines (config : Config) (pieces : List Piece) : Prop :=
  ∃ name ∈ derivedNames config pieces, Text.compatibilityForm name ∈ fixedNames

/-- The names that are configured. -/
def configuredNames (config : Config) : List String :=
  [config.templateDataType, config.receiverInterface, config.routesFunction, config.routePathsType]

/-- No name of the fixed code starts with a small letter and has an underscore. -/
theorem underscore_of_mem_fixedNames {name : String} (h : name ∈ fixedNames) {c : Char}
    {cs : List Char} (hchars : name.toList = c :: cs) (hsmall : Naming.isSmall c = true) :
    '_' ∉ cs := by
  have hall : ∀ name ∈ fixedNames,
      (name.toList.head?.all fun c => !Naming.isSmall c || !name.toList.contains '_') = true := by
    rw [fixedNames_eq]
    decide
  have hname := hall name h
  rw [hchars] at hname
  simp only [List.head?_cons, Option.all_some, hsmall, Bool.not_true, Bool.false_or,
    List.contains_cons, Bool.not_or, Bool.and_eq_true] at hname
  simpa using hname.2

theorem lt_of_isSnakeChar {c : Char} (h : Naming.isSnakeChar c = true) : c.toNat < 128 := by
  by_cases hc : c = '_'
  · rw [hc]
    decide
  · refine Naming.lt_of_isWordChar ?_
    simpa [Naming.isSnakeChar, Naming.isWordChar, hc, or_assoc] using Or.inr h

/-- The function of a group is not named as something of the fixed code if its file has an
identifier. -/
theorem functionName_mem_fixedNames_iff (config : Config) (group : String) :
    Text.compatibilityForm (Group.functionName config (Naming.groupIdentifier group)) ∈ fixedNames ↔
      Naming.groupIdentifier group = "" ∧
        "_" ++ Text.compatibilityForm config.routesFunction ∈ fixedNames := by
  rcases Naming.groupIdentifier_cases group with hempty | ⟨c, cs, hchars, hsmall, hsnake⟩
  · rw [hempty, Group.functionName, Text.compatibilityForm_append_underscore (by simp)]
    simp
  · have hne : Naming.groupIdentifier group ≠ "" := by
      rintro hempty
      simp [hempty] at hchars
    have hascii : ∀ d ∈ (Naming.groupIdentifier group).toList, d.toNat < 128 := by
      rw [hchars]
      intro d hd
      refine lt_of_isSnakeChar ?_
      rcases List.mem_cons.mp hd with rfl | hd
      · simp [Naming.isSnakeChar, hsmall]
      · exact hsnake d hd
    refine iff_of_false (fun hmem => ?_) fun h => hne h.1
    rw [Group.functionName, Text.compatibilityForm_append_underscore hascii] at hmem
    have hname : (Naming.groupIdentifier group ++ "_" ++
        Text.compatibilityForm config.routesFunction).toList =
          c :: (cs ++ '_' :: (Text.compatibilityForm config.routesFunction).toList) := by
      simp [hchars]
    exact underscore_of_mem_fixedNames hmem hname hsmall (by simp)

/-- The names that are made from the configuration and the routes are names of the fixed code only in
these cases. -/
theorem Parts.Made.redefines_iff {context : Context} {endpoints : List Endpoint} {p : Parts}
    (h : p.Made context endpoints) :
    Redefines context.config (p.pieces context.config) ↔
      (∃ name ∈ configuredNames context.config, Text.compatibilityForm name ∈ fixedNames) ∨
        (∃ e ∈ endpoints, Group.identOf e.definition = "" ∧
          "_" ++ Text.compatibilityForm context.config.routesFunction ∈ fixedNames) ∨
        ∃ e ∈ endpoints, Group.identOf e.definition ≠ "" ∧
          Text.compatibilityForm
            (Group.protocolName context.config (Group.identOf e.definition)) ∈ fixedNames := by
  have hfunctions : (∃ g ∈ EndpointGroup.ofEndpoints endpoints,
      Text.compatibilityForm (Group.functionName context.config g.ident) ∈ fixedNames) ↔
        ∃ e ∈ endpoints, Group.identOf e.definition = "" ∧
          "_" ++ Text.compatibilityForm context.config.routesFunction ∈ fixedNames := by
    rw [EndpointGroup.exists_ofEndpoints fun ident =>
      Text.compatibilityForm (Group.functionName context.config ident) ∈ fixedNames]
    simp only [Group.identOf, functionName_mem_fixedNames_iff]
  have hprotocols : (∃ g ∈ named (EndpointGroup.ofEndpoints endpoints),
      Text.compatibilityForm (Group.protocolName context.config g.ident) ∈ fixedNames) ↔
        ∃ e ∈ endpoints, Group.identOf e.definition ≠ "" ∧ Text.compatibilityForm
          (Group.protocolName context.config (Group.identOf e.definition)) ∈ fixedNames := by
    rw [← EndpointGroup.exists_ofEndpoints fun ident => ident ≠ "" ∧
      Text.compatibilityForm (Group.protocolName context.config ident) ∈ fixedNames]
    simp [named, and_assoc]
  rw [Redefines, h.derivedNames_eq, ← hfunctions, ← hprotocols]
  simp only [configuredNames, List.mem_cons, List.mem_append, List.mem_map, List.not_mem_nil]
  simp only [or_and_right, exists_or, exists_eq_left, exists_exists_and_eq_and, or_false]
  generalize (∃ g ∈ named _, _) = protocols
  generalize (∃ g ∈ EndpointGroup.ofEndpoints endpoints, _) = functions
  clear hfunctions hprotocols
  tauto

/-- **When a module redefines a name.**  A module that is generated defines a name of the fixed code a
second time exactly if one of the four names that are configured is such a name, or there is a route
without a file and an underscore before the name of the entry function makes such a name, or a
protocol of a group is named as something of the fixed code.  The function of a group that has a
name never is. -/
theorem redefines_iff_of_generate {config : Config} {library : Library} {host : Host} {attributeName : String}
    {m : RoutesModule} (h : generate config library host attributeName = .ok m) :
    ∃ definitions, Definition.ofFragments library.fragments = .ok definitions ∧
      (Redefines config m.pieces ↔
        (∃ name ∈ configuredNames config, Text.compatibilityForm name ∈ fixedNames) ∨
        (∃ d ∈ definitions, Group.identOf d = "" ∧
          "_" ++ Text.compatibilityForm config.routesFunction ∈ fixedNames) ∨
        ∃ d ∈ definitions, Group.identOf d ≠ "" ∧
          Text.compatibilityForm (Group.protocolName config (Group.identOf d)) ∈ fixedNames) := by
  obtain ⟨definitions, templates, parts, hdefinitions, hordered, -, -, hparts, hpieces⟩ :=
    exists_parts_of_generate h
  refine ⟨definitions, hdefinitions, ?_⟩
  rw [hpieces, hparts.redefines_iff, ← hordered.definition]
  simp only [List.mem_map, exists_exists_and_eq_and]

/-- With the names that are configured if nothing else is said, nothing is redefined. -/
theorem redefines_iff_of_generate_siteLibrary :
    let config : Config := { templatesModule := "app.templates" }
    ∃ m, generate config siteLibrary ⟨[], [], none⟩ "" = .ok m ∧ ¬Redefines config m.pieces := by
  intro config
  obtain ⟨root, get, post, hroutes, -, hidents, -⟩ := routes_siteLibrary
  obtain ⟨m, hm⟩ := exists_generate_siteLibrary config ⟨[], [], none⟩
  refine ⟨m, hm, ?_⟩
  obtain ⟨definitions, hdefinitions, hredefines⟩ := redefines_iff_of_generate hm
  have hperm := (Definition.perm_routes_of_ofFragments hdefinitions).map Group.identOf
  rw [hroutes, hidents] at hperm
  have hcases : ∀ d ∈ definitions, Group.identOf d ∈ ["", "b", "b"] := fun d hd =>
    hperm.mem_iff.mp (List.mem_map_of_mem hd)
  have hconfigured : ∀ name ∈ configuredNames config,
      Text.compatibilityForm name ∉ fixedNames := by
    rw [fixedNames_eq]
    decide +kernel
  have hfunction : "_" ++ Text.compatibilityForm config.routesFunction ∉ fixedNames := by
    rw [fixedNames_eq]
    decide +kernel
  have hprotocol : ∀ ident ∈ ["", "b", "b"],
      Text.compatibilityForm (Group.protocolName config ident) ∉ fixedNames := by
    rw [fixedNames_eq]
    decide +kernel
  rw [hredefines]
  rintro (⟨name, hname, h⟩ | ⟨d, -, -, h⟩ | ⟨d, hd, -, h⟩)
  · exact hconfigured name hname h
  · exact hfunction h
  · exact hprotocol _ (hcases d hd) h

/-- A configuration that is read from settings, whose names are all different. -/
def joinConfig : Config :=
  { templatesModule := "app", routesFunction := "join" }

theorem ofSettings_joinConfig :
    Config.ofSettings [("templates_module", .text "app"), ("routes_function", .text "join")] =
      .ok joinConfig := by
  unfold Config.ofSettings
  rw [Config.option_templatesModule rfl (by decide) (by decide)]
  rfl

/-- The function of the routes without a file is named as a helper, which it replaces, though the
configuration is read well and all its names are different. -/
theorem redefines_join :
    ∃ config, Config.ofSettings
        [("templates_module", .text "app"), ("routes_function", .text "join")] = .ok config ∧
      (config.templatesVariable :: configuredNames config).Nodup ∧
      ∃ m, generate config siteLibrary ⟨[], [], none⟩ "" = .ok m ∧
        ∃ name ∈ derivedNames config m.pieces, name ∈ fixedNames := by
  obtain ⟨root, get, post, hroutes, -, hidents, -⟩ := routes_siteLibrary
  obtain ⟨m, hm⟩ := exists_generate_siteLibrary joinConfig ⟨[], [], none⟩
  refine ⟨joinConfig, ofSettings_joinConfig, by decide, m, hm, "_join", ?_, ?_⟩
  · obtain ⟨definitions, templates, parts, hdefinitions, hordered, -, -, hparts, hpieces⟩ :=
      exists_parts_of_generate hm
    have hperm := (Definition.perm_routes_of_ofFragments hdefinitions).map Group.identOf
    have hroot : "" ∈ definitions.map Group.identOf := by
      rw [hperm.mem_iff, hroutes, hidents]
      exact List.mem_cons_self
    obtain ⟨d, hd, hident⟩ := List.mem_map.mp hroot
    rw [← hordered.definition] at hd
    obtain ⟨e, he, rfl⟩ := List.mem_map.mp hd
    obtain ⟨g, hg, hname⟩ := (EndpointGroup.exists_ofEndpoints fun ident =>
      Group.functionName joinConfig ident = "_join").mpr ⟨e, he, by rw [hident]; rfl⟩
    have hfunction : "_join" ∈ (EndpointGroup.ofEndpoints m.endpoints).map
        fun g => Group.functionName joinConfig g.ident := List.mem_map.mpr ⟨g, hg, hname⟩
    rw [hpieces, hparts.derivedNames_eq]
    simp only [List.mem_cons, List.mem_append, hfunction, true_or, or_true]
  · rw [fixedNames_eq]
    decide

end FragmentRoutes.RoutesModule
