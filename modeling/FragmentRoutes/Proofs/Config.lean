import FragmentRoutes.Config
import FragmentRoutes.Proofs.Except
import FragmentRoutes.Proofs.Text.SplitOn

/-!
# Reading configurations

The module of the templates is the one option that must be set.  A module is accepted by its dotted
parts, and every other name as an identifier, so a configuration that is read has identifiers for
names (`named_of_ofSettings`).
-/

namespace FragmentRoutes.Config

/-- An identifier is a module. -/
theorem checkModule_of_isName {name : String} (hname : Text.isName name = true)
    (hdot : '.' ∉ name.toList) : checkModule name = .ok name := by
  rw [checkModule, Text.splitOn_of_notMem rfl hdot, checkParts, checkIdentifier, if_pos hname]
  rfl

/-- The module of the templates is read from a setting that is an identifier. -/
theorem option_templatesModule {settings : Settings} {name : String}
    (hsetting : setting? settings "templates_module" = some (.text name))
    (hname : Text.isName name = true) (hdot : '.' ∉ name.toList) :
    option settings "templates_module" (readText checkModule) (.error .missing) = .ok name := by
  rw [option, hsetting]
  dsimp only [readText]
  rw [checkModule_of_isName hname hdot]
  rfl

/-- The names of a configuration are identifiers, and so are the parts of the module of the
templates. -/
structure Named (config : Config) : Prop where
  templatesModule : checkParts (config.templatesModule.splitOn ".") = .ok ()
  templatesVariable : Text.isName config.templatesVariable = true
  routesFunction : Text.isName config.routesFunction = true
  receiverInterface : Text.isName config.receiverInterface = true
  templateDataType : Text.isName config.templateDataType = true
  routePathsType : Text.isName config.routePathsType = true

theorem isName_of_checkParts {parts : List String} (h : checkParts parts = .ok ()) :
    ∀ part ∈ parts, Text.isName part = true := by
  induction parts with
  | nil => simp
  | cons part parts ih =>
    obtain ⟨name, hname, h⟩ := Except.bind_eq_ok.mp h
    refine List.forall_mem_cons.mpr ⟨?_, ih h⟩
    rw [checkIdentifier] at hname
    split_ifs at hname with hpart
    exact hpart

/-- The module of the templates is read from a setting. -/
theorem checkParts_of_option {settings : Settings} {module : String}
    (h : option settings "templates_module" (readText checkModule) (.error .missing) = .ok module) :
    checkParts (module.splitOn ".") = .ok () := by
  have hvalue := Except.mapError_eq_ok.mp h
  split at hvalue
  · rename_i value _
    cases value with
    | text text =>
      obtain ⟨_, hparts, hname⟩ := Except.bind_eq_ok.mp hvalue
      obtain rfl := Except.ok.inj hname
      exact hparts
    | _ => cases hvalue
  · cases hvalue

/-- A name is read from a setting, or is what stands in its place. -/
theorem isName_of_option {settings : Settings} {field default name : String}
    (hdefault : Text.isName default = true)
    (h : option settings field (readText checkIdentifier) (.ok default) = .ok name) :
    Text.isName name = true := by
  have hvalue := Except.mapError_eq_ok.mp h
  split at hvalue
  · rename_i value _
    cases value with
    | text text =>
      change checkIdentifier text = .ok name at hvalue
      rw [checkIdentifier] at hvalue
      split_ifs at hvalue with hname
      exact Except.ok.inj hvalue ▸ hname
    | _ => cases hvalue
  · exact Except.ok.inj hvalue ▸ hdefault

/-- **A configuration that is read** has identifiers for names. -/
theorem named_of_ofSettings {settings : Settings} {config : Config}
    (h : ofSettings settings = .ok config) : config.Named := by
  unfold ofSettings at h
  dsimp only at h
  split at h
  · rename_i config' hconfig
    obtain rfl := Except.ok.inj h
    obtain ⟨_, hmodule, hconfig⟩ := Except.bind_eq_ok.mp hconfig
    obtain ⟨_, hvariable, hconfig⟩ := Except.bind_eq_ok.mp hconfig
    -- the receiver and the file
    obtain ⟨_, -, hconfig⟩ := Except.bind_eq_ok.mp hconfig
    obtain ⟨_, -, hconfig⟩ := Except.bind_eq_ok.mp hconfig
    obtain ⟨_, -, hconfig⟩ := Except.bind_eq_ok.mp hconfig
    obtain ⟨_, hfunction, hconfig⟩ := Except.bind_eq_ok.mp hconfig
    obtain ⟨_, hinterface, hconfig⟩ := Except.bind_eq_ok.mp hconfig
    obtain ⟨_, hdata, hconfig⟩ := Except.bind_eq_ok.mp hconfig
    obtain ⟨_, hpaths, hconfig⟩ := Except.bind_eq_ok.mp hconfig
    repeat obtain ⟨_, -, hconfig⟩ := Except.bind_eq_ok.mp hconfig
    obtain rfl := Except.ok.inj hconfig
    exact ⟨checkParts_of_option hmodule, isName_of_option (by decide +kernel) hvariable,
      isName_of_option (by decide +kernel) hfunction, isName_of_option (by decide +kernel) hinterface,
      isName_of_option (by decide +kernel) hdata, isName_of_option (by decide +kernel) hpaths⟩
  · cases h

theorem Named.templatesModule_ne_empty {config : Config} (h : config.Named) :
    config.templatesModule ≠ "" := by
  intro hempty
  have hparts := h.templatesModule
  rw [hempty, Text.splitOn_of_notMem rfl List.not_mem_nil] at hparts
  cases hparts

end FragmentRoutes.Config
