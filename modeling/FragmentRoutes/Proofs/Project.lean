import FragmentRoutes.Project
import FragmentRoutes.Proofs.Code.Layout
import FragmentRoutes.Proofs.RoutesModule.Interface
import FragmentRoutes.Proofs.RoutesModule.ReturnFree

/-!
# Runs over files

A run finds out what to write, and where, without looking at the files (`planned`), and it writes
last of all (`run_generate`).  So a fault leaves the files as they are, and what is written twice is
the same.

A text is read as it was written if no return stands in it.  None does if none stands in the names
that the application gives its classes, modules and parameters (`Project.ReturnFree`), whatever the
fragments and the markup in them say.
-/

namespace FragmentRoutes

open Text

namespace Files

theorem lookup_write (files : Files) (path text other : String) :
    (files.write path text).lookup other = if other = path then some text else files.lookup other := by
  by_cases hother : other = path
  · simp [write, hother]
  · have hrest : (files.filter fun f => f.1 != path).lookup other = files.lookup other := by
      induction files with
      | nil => rfl
      | cons file files ih =>
        by_cases hfile : file.1 = path
        · rw [List.filter_cons_of_neg (by simp [hfile]), ih, List.lookup_cons, hfile,
            beq_false_of_ne hother]
        · rw [List.filter_cons_of_pos (by simp [hfile]), List.lookup_cons, List.lookup_cons, ih]
    rw [write, List.lookup_cons, beq_false_of_ne hother, if_neg hother]
    exact hrest

/-- What is written twice is the same. -/
theorem write_write (files : Files) (path text : String) :
    (files.write path text).write path text = files.write path text := by
  rw [write, write, List.filter_cons_of_neg (by simp), List.filter_filter]
  simp only [Bool.and_self]

/-- **A text that is written is read back** exactly if no return stands in it. -/
theorem read?_write_eq_iff (files : Files) (path text : String) :
    (files.write path text).read? path = some text ↔ ReturnFree text := by
  rw [read?, lookup_write, if_pos rfl, Option.map_some, Option.some_inj, ReturnFree,
    ← unifyLines_eq_self_iff, ← String.toList_inj, String.toList_ofList]

end Files

namespace Project

/-- The path of the file that a run is about, and the module that it generates. -/
def planned (project : Project) (config : Config) : Except Fault (String × RoutesModule) := do
  let m ← project.importModule config.templatesModule
  let held ← project.templates m config.templatesVariable
  let receiver ← project.receiver config
  let generated ← (RoutesModule.generate config held.1
    ⟨project.classes, ownFunctions m, receiver⟩ held.2).mapError Fault.generation
  if m.hasFile then return (outputPath m config.outputFile, generated) else throw (.noFile m.name)

theorem ofExcept_run {α : Type} (x : Except Fault α) (files : Files) :
    (ofExcept x : Step α).run files = (x, files) := by
  cases x <;> rfl

/-- **A run** writes last of all, and only if the file says something else. -/
theorem run_generate (project : Project) (config : Config) (writes : Bool) (files : Files) :
    (project.generate config writes).run files = match project.planned config with
      | .error fault => (.error fault, files)
      | .ok (path, generated) =>
        let isSame := files.read? path == some generated.text
        let written := writes && !isSame
        (.ok ⟨path, generated, written, isSame || written⟩,
          if written then files.write path generated.text else files) := by
  unfold generate planned
  rw [ExceptT.run_bind_apply, ofExcept_run]
  cases project.importModule config.templatesModule with
  | error fault => rfl
  | ok m =>
  dsimp only [Except.ok_bind]
  rw [ExceptT.run_bind_apply, ofExcept_run]
  cases project.templates m config.templatesVariable with
  | error fault => rfl
  | ok held =>
  dsimp only [Except.ok_bind]
  rw [ExceptT.run_bind_apply, ofExcept_run]
  cases project.receiver config with
  | error fault => rfl
  | ok receiver =>
  dsimp only [Except.ok_bind]
  rw [ExceptT.run_bind_apply, ofExcept_run]
  cases (RoutesModule.generate config held.1 ⟨project.classes, ownFunctions m, receiver⟩
    held.2).mapError Fault.generation with
  | error fault => rfl
  | ok generated =>
  dsimp only [Except.ok_bind]
  cases m.hasFile with
  | false => rfl
  | true =>
  have hget : (get : Step Files).run files = (.ok files, files) := rfl
  rw [if_neg (by decide), if_pos rfl, ExceptT.run_bind_apply, hget]
  dsimp only [pure, Except.pure]
  split_ifs <;> rfl

section

variable {project : Project} {config : Config} {files after : Files}

/-- **A fault** leaves the files as they are. -/
theorem eq_of_generate_error {writes : Bool} {fault : Fault}
    (h : (project.generate config writes).run files = (.error fault, after)) : after = files := by
  rw [run_generate] at h
  cases hplanned : project.planned config with
  | error _ =>
    rw [hplanned] at h
    exact (Prod.mk.inj h).2.symm
  | ok _ =>
    rw [hplanned] at h
    cases (Prod.mk.inj h).1

/-- A run that finds no module to write ends as the search for it does. -/
theorem run_of_planned_error {writes : Bool} {fault : Fault}
    (h : project.planned config = .error fault) :
    project.run files config writes = .error fault := by
  have hrun : (project.generate config writes).run files = (.error fault, files) := by
    rw [run_generate, h]
  rw [Project.run, StateT.run, hrun]

/-- **A check** leaves the files as they are, and it fails as a run that writes does. -/
theorem run_generate_false (project : Project) (config : Config) (files : Files) :
    (project.generate config false).run files =
      (((project.generate config true).run files).1.map fun outcome =>
        { outcome with written := false, upToDate := !outcome.written }, files) := by
  rw [run_generate, run_generate]
  cases project.planned config with
  | error fault => rfl
  | ok found => simp [Except.map]

/-- A run that ends well has found out what to write. -/
theorem planned_of_generate_ok {writes : Bool} {outcome : Outcome}
    (h : (project.generate config writes).run files = (.ok outcome, after)) :
    project.planned config = .ok (outcome.path, outcome.generated) ∧
      outcome.written = (writes && !(files.read? outcome.path == some outcome.generated.text)) ∧
      after = if outcome.written then files.write outcome.path outcome.generated.text else files := by
  rw [run_generate] at h
  cases hplanned : project.planned config with
  | error _ =>
    rw [hplanned] at h
    cases (Prod.mk.inj h).1
  | ok found =>
    rw [hplanned] at h
    obtain ⟨houtcome, hafter⟩ := Prod.mk.inj h
    obtain rfl := Except.ok.inj houtcome
    exact ⟨rfl, rfl, hafter.symm⟩

/-- After a run that writes the file is up to date. -/
theorem upToDate_of_generate_ok {outcome : Outcome}
    (h : (project.generate config true).run files = (.ok outcome, after)) :
    outcome.upToDate = true := by
  have hplanned := (planned_of_generate_ok h).1
  rw [run_generate, hplanned] at h
  rw [← Except.ok.inj (Prod.mk.inj h).1]
  simp

/-- **A run that writes** changes no file but its own. -/
theorem lookup_of_generate_ok {writes : Bool} {outcome : Outcome}
    (h : (project.generate config writes).run files = (.ok outcome, after)) {path : String}
    (hpath : path ≠ outcome.path) : after.lookup path = files.lookup path := by
  obtain ⟨-, -, rfl⟩ := planned_of_generate_ok h
  split_ifs
  · rw [Files.lookup_write, if_neg hpath]
  · rfl

/-- **What a run writes is read back** exactly if no return stands in it. -/
theorem read?_of_generate_ok {outcome : Outcome}
    (h : (project.generate config true).run files = (.ok outcome, after)) :
    after.read? outcome.path = some outcome.generated.text ↔ ReturnFree outcome.generated.text := by
  obtain ⟨-, hwritten, rfl⟩ := planned_of_generate_ok h
  split_ifs with hwrites
  · exact Files.read?_write_eq_iff files _ _
  · have hsame : files.read? outcome.path = some outcome.generated.text := by simp_all
    refine iff_of_true hsame ?_
    obtain ⟨text, -, htext⟩ := Option.map_eq_some_iff.mp hsame
    rw [← htext, returnFree_ofList_iff]
    exact return_notMem_unifyLines _

/-- **A second run** leaves the files as the first one did, and it writes exactly if a return stands
in the text. -/
theorem run_generate_again {outcome : Outcome}
    (h : (project.generate config true).run files = (.ok outcome, after)) :
    ∃ again, (project.generate config true).run after = (.ok again, after) ∧
      again.path = outcome.path ∧ again.generated = outcome.generated ∧ again.upToDate = true ∧
      (again.written = false ↔ ReturnFree outcome.generated.text) := by
  obtain ⟨hplanned, hwritten, hafter⟩ := planned_of_generate_ok h
  have hwrite : after.read? outcome.path ≠ some outcome.generated.text →
      after.write outcome.path outcome.generated.text = after := by
    intro hother
    by_cases hwrites : outcome.written = true
    · rw [hafter, if_pos hwrites, Files.write_write]
    · rw [if_neg hwrites] at hafter
      refine absurd ?_ hother
      simpa [hafter, hwritten] using hwrites
  rw [run_generate, hplanned]
  refine ⟨_, congrArg (Prod.mk _) ?_, rfl, rfl, ?_, ?_⟩
  · split_ifs with hwrites
    · exact hwrite (by simpa using hwrites)
    · rfl
  · simp
  · rw [← read?_of_generate_ok h]
    simp

end

/-! ### The names of an application -/

/-- The function that an item of a module is. -/
def Item.function? : Item → Option Host.Function
  | .function f => some f
  | _ => none

/-- The names that an application is written with: those of its classes and of the functions in its
modules. -/
def writtenNames (project : Project) : List String :=
  project.classes.flatMap Host.Class.writtenNames ++ project.modules.flatMap fun m =>
    (m.items.filterMap (·.2.function?)).flatMap Host.Function.writtenNames

/-- No return stands in a name that the application is written with. -/
def ReturnFree (project : Project) : Prop :=
  ∀ name ∈ project.writtenNames, Text.ReturnFree name

theorem mem_modules_of_importModule {project : Project} {name : String} {m : Module}
    (h : project.importModule name = .ok m) : m ∈ project.modules ∨ m.items = [] := by
  rw [importModule] at h
  split at h
  · cases h
  · split at h
    · rename_i found hfound
      obtain rfl := Except.ok.inj h
      rw [module?] at hfound
      split at hfound
      · rename_i own hown
        obtain rfl := Option.some.inj hfound
        exact .inl (List.mem_of_find?_eq_some hown)
      · split_ifs at hfound
        obtain rfl := Option.some.inj hfound
        exact .inr rfl
    · cases h

/-- The generator sees names of the application only. -/
theorem ReturnFree.host {project : Project} (h : project.ReturnFree) {name : String} {m : Module}
    (hm : project.importModule name = .ok m) (receiver : Option Host.ClassId) :
    Host.ReturnFree ⟨project.classes, ownFunctions m, receiver⟩ := by
  have hitem : ∀ entry ∈ m.items, ∀ f ∈ entry.2.function?, f.ReturnFree := by
    intro entry hentry f hf name hname
    rcases mem_modules_of_importModule hm with hmem | hempty
    · exact h name (List.mem_append_right _ (List.mem_flatMap.mpr ⟨m, hmem,
        List.mem_flatMap.mpr ⟨f, List.mem_filterMap.mpr ⟨entry, hentry, hf⟩, hname⟩⟩))
    · simp [hempty] at hentry
  refine List.forall_mem_append.mpr ⟨fun name hname => h name (List.mem_append_left _ hname), ?_⟩
  intro name hname
  obtain ⟨entry, hentry, hname⟩ := List.mem_flatMap.mp hname
  obtain ⟨⟨id, item⟩, hmem, hown⟩ := List.mem_filterMap.mp hentry
  cases item with
  | function f =>
    dsimp only at hown
    split_ifs at hown
    obtain rfl := Option.some.inj hown
    exact hitem _ hmem f rfl name hname
  | _ => cases hown

theorem returnFree_attributeName {project : Project} {m : Module} {name attributeName : String}
    {library : Library} (h : project.templates m name = .ok (library, attributeName)) :
    Text.ReturnFree attributeName := by
  have hheld : ∀ isHeld : Bool, Text.ReturnFree (if isHeld then "env" else "") := by
    intro isHeld
    split_ifs
    · exact returnFree_ofList rfl
    · exact returnFree_empty
  rw [templates] at h
  split at h
  · cases h
  · cases h
  · obtain ⟨-, rfl⟩ := Prod.mk.inj (Except.ok.inj h)
    exact hheld _
  · split at h
    · obtain ⟨-, rfl⟩ := Prod.mk.inj (Except.ok.inj h)
      exact hheld _
    · cases h
  · cases h

/-- **What a run is to write** has no return if the names of the application have none. -/
theorem ReturnFree.text_of_planned {project : Project} (h : project.ReturnFree) {config : Config}
    (hconfig : config.Named) {path : String} {generated : RoutesModule}
    (hplanned : project.planned config = .ok (path, generated)) :
    Text.ReturnFree generated.text := by
  obtain ⟨m, hm, hplanned⟩ := Except.bind_eq_ok.mp hplanned
  obtain ⟨held, hheld, hplanned⟩ := Except.bind_eq_ok.mp hplanned
  obtain ⟨receiver, -, hplanned⟩ := Except.bind_eq_ok.mp hplanned
  obtain ⟨found, hfound, hplanned⟩ := Except.bind_eq_ok.mp hplanned
  obtain rfl : found = generated := by
    split_ifs at hplanned
    exact (Prod.mk.inj (Except.ok.inj hplanned)).2
  exact RoutesModule.returnFree_text_of_generate hconfig (h.host hm receiver)
    (returnFree_attributeName hheld) (Except.mapError_eq_ok.mp hfound)

/-- **Runs are atomic.**  A fault leaves all files as they are, and so does a check, which tells
that the file is up to date exactly if a run that writes would not write.  A run that writes changes
no file but its own, and a second run leaves the files as the first one did.

What is written is read back, and a second run does not write again, if the configuration is one
that is read and no return stands in the names that the application is written with; and in general
if and only if no return stands in the text. -/
theorem atomic_generate (project : Project) (config : Config) (files : Files) :
    (∀ writes fault after,
      (project.generate config writes).run files = (.error fault, after) → after = files) ∧
    (project.generate config false).run files =
      (((project.generate config true).run files).1.map fun outcome =>
        { outcome with written := false, upToDate := !outcome.written }, files) ∧
    ∀ outcome after, (project.generate config true).run files = (.ok outcome, after) →
      outcome.upToDate = true ∧
      (∀ path, path ≠ outcome.path → after.lookup path = files.lookup path) ∧
      (after.read? outcome.path = some outcome.generated.text ↔
        Text.ReturnFree outcome.generated.text) ∧
      (∃ again, (project.generate config true).run after = (.ok again, after) ∧
        again.path = outcome.path ∧ again.generated = outcome.generated ∧ again.upToDate = true ∧
        (again.written = false ↔ Text.ReturnFree outcome.generated.text)) ∧
      ∀ settings, Config.ofSettings settings = .ok config → project.ReturnFree →
        after.read? outcome.path = some outcome.generated.text ∧
        ∃ again, (project.generate config true).run after = (.ok again, after) ∧
          again.generated = outcome.generated ∧ again.written = false ∧
          again.upToDate = true := by
  refine ⟨fun _ _ _ => eq_of_generate_error, run_generate_false project config files, ?_⟩
  intro outcome after h
  have hread := read?_of_generate_ok h
  obtain ⟨again, hagain, hpath, hgenerated, hupToDate, hwritten⟩ := run_generate_again h
  refine ⟨upToDate_of_generate_ok h, fun path => lookup_of_generate_ok h, hread,
    ⟨again, hagain, hpath, hgenerated, hupToDate, hwritten⟩, fun settings hsettings hnames => ?_⟩
  have htext : Text.ReturnFree outcome.generated.text :=
    hnames.text_of_planned (Config.named_of_ofSettings hsettings) (planned_of_generate_ok h).1
  exact ⟨hread.mpr htext, again, hagain, hgenerated, hwritten.mpr htext, hupToDate⟩

/-! ### An application with one class -/

open Host Resolution RoutesModule

/-- A class of the application. -/
def itemClass (qualname : String) : ClassId :=
  .own "Item" "app" qualname "Item"

/-- What counts returns a value of the class. -/
def itemCount (qualname : String) : Function :=
  ⟨"app", [], some (.cls (itemClass qualname)), false⟩

/-- The module of a page and of what counts for it. -/
def itemModule (qualname : String) : Module :=
  ⟨"app", true, [("templates", .templates countLibrary false),
    ("Count", .function (itemCount qualname))]⟩

/-- An application with the class and the module. -/
def itemProject (qualname : String) : Project :=
  ⟨[⟨itemClass qualname, [Class.root], .plain, [], []⟩], [itemModule qualname]⟩

/-- The application as the generator sees it. -/
def itemHost (qualname : String) : Host :=
  ⟨(itemProject qualname).classes, [("Count", itemCount qualname)], none⟩

/-- The configuration for the application. -/
def itemConfig : Config :=
  { templatesModule := "app" }

theorem ofSettings_itemConfig :
    Config.ofSettings [("templates_module", .text "app")] = .ok itemConfig := by
  unfold Config.ofSettings
  rw [Config.option_templatesModule rfl (by decide +kernel) (by decide)]
  rfl

/-- A module is generated if the page is resolved. -/
theorem exists_generate_item {qualname : String} {resolved : List Endpoint.Resolved}
    {signatures : List Signature} (hresolved : Endpoint.resolveFrom (itemHost qualname) []
      [countDefinition] = .ok (resolved, signatures)) :
    ∃ m, RoutesModule.generate itemConfig countLibrary (itemHost qualname) "" = .ok m ∧
      m.signatures = signatures := by
  have hredirects : (Redirect.mayRedirect countLibrary [] countDefinition.name).toOption.isSome =
      true := by decide +kernel
  obtain ⟨redirects, hredirects⟩ := Option.isSome_iff_exists.mp hredirects
  exact exists_generate_of_static itemConfig "" ofFragments_countLibrary hresolved
    (by simp only [List.mem_singleton, forall_eq]; rintro call ⟨⟩; decide)
    (by simp only [List.mem_singleton, forall_eq]; decide)
    (by simp only [List.mem_singleton, forall_eq]; exact ⟨_, Except.toOption_eq_some.mp hredirects⟩)

/-- What is generated for the application is what a run is to write. -/
theorem planned_item {qualname : String} {m : RoutesModule}
    (hm : RoutesModule.generate itemConfig countLibrary (itemHost qualname) "" = .ok m) :
    (itemProject qualname).planned itemConfig =
      .ok (outputPath (itemModule qualname) "template_routes.py", m) := by
  have hparts : "app".splitOn "." = ["app"] := splitOn_of_notMem rfl (by decide)
  have himport : (itemProject qualname).importModule itemConfig.templatesModule =
      .ok (itemModule qualname) := by
    rw [importModule, prefixes, itemConfig, hparts]
    rfl
  have hhost : (⟨(itemProject qualname).classes, ownFunctions (itemModule qualname), none⟩ : Host) =
      itemHost qualname := by
    have hown : ownFunctions (itemModule qualname) = [("Count", itemCount qualname)] := by
      simp [ownFunctions, itemModule, itemCount]
    rw [hown]
    rfl
  have htemplates : (itemProject qualname).templates (itemModule qualname)
      itemConfig.templatesVariable = .ok (countLibrary, "") := rfl
  have hreceiver : (itemProject qualname).receiver itemConfig = .ok none := rfl
  rw [planned, himport, Except.ok_bind, htemplates, Except.ok_bind, hreceiver, Except.ok_bind,
    hhost, hm]
  rfl

/-- No return stands in the names of an application with a class of this name, so what is written
for it is read back, and a second run does not write again. -/
theorem atomic_generate_item :
    Config.ofSettings [("templates_module", .text "app")] = .ok itemConfig ∧
    (itemProject "Item").ReturnFree ∧ ∃ outcome after again,
      ((itemProject "Item").generate itemConfig true).run [] = (.ok outcome, after) ∧
      after.read? outcome.path = some outcome.generated.text ∧
      ((itemProject "Item").generate itemConfig true).run after = (.ok again, after) ∧
      again.written = false := by
  have hresolve : (Endpoint.resolveFrom (itemHost "Item") [] [countDefinition]).toOption.isSome =
      true := by decide +kernel
  have hnames : (itemProject "Item").ReturnFree := by
    have hwritten : (itemProject "Item").writtenNames = ["app", "Item", "app", "app", "Item"] :=
      rfl
    rw [Project.ReturnFree, hwritten]
    simp only [List.forall_mem_cons, List.not_mem_nil, false_implies, implies_true, and_true]
    and_intros
    all_goals exact returnFree_ofList rfl
  obtain ⟨⟨resolved, signatures⟩, hresolved⟩ := Option.isSome_iff_exists.mp hresolve
  obtain ⟨m, hm, -⟩ := exists_generate_item (Except.toOption_eq_some.mp hresolved)
  have hrun := run_generate (itemProject "Item") itemConfig true []
  rw [planned_item hm] at hrun
  obtain ⟨-, -, -, -, hread⟩ := (atomic_generate _ _ _).2.2 _ _ hrun
  obtain ⟨hread, again, hagain, -, hwritten, -⟩ := hread _ ofSettings_itemConfig hnames
  exact ⟨ofSettings_itemConfig, hnames, _, _, again, hrun, hread, hagain, hwritten⟩

/-! ### A class with a return in its name -/

/-- A class that is imported by code without returns has none in its name. -/
theorem returnFree_outerName_of_shows {m : RoutesModule} {p : Parts} {config : Config} {c : ClassId}
    {e : Code.Expr} (htext : Text.ReturnFree m.text) (hpieces : m.pieces = p.pieces config)
    (hkeeps : p.imports.Keeps "receiver") (hmodule : c.module ≠ "")
    (hbuiltin : c.isBuiltin = false) (hhidden : Imports.isHidden c = false)
    (hnone : c ≠ .builtin "NoneType") (hshows : p.imports.Shows c e) :
    Text.ReturnFree (Imports.outerName c) := by
  cases hshows with
  | absent h => exact absurd h hnone
  | builtin _ h => simp [hbuiltin] at h
  | hidden _ _ h _ => simp [hhidden] at h
  | imported _ _ _ hlocal =>
    rw [Imports.HasLocal, hkeeps.own, if_neg hmodule] at hlocal
    have hmem := hkeeps.mem_aliases_statements.mpr (.inr (hkeeps.lookup_iff.mp hlocal))
    obtain ⟨stmt, hstmt, halias⟩ := List.mem_flatMap.mp hmem
    have hrender := (Code.returnFree_renderModule_iff.mp htext).2 (.stmt stmt)
    refine Code.returnFree_of_mem_aliases (hrender ?_) halias
    rw [hpieces]
    exact List.mem_append_left _ (List.mem_map_of_mem hstmt)

theorem isHidden_itemClass_return : Imports.isHidden (itemClass "It\rem") = false := by
  have hlocals : (itemClass "It\rem").qualname.splitOn "<locals>" =
      [(itemClass "It\rem").qualname] := splitOn_of_notMem rfl (by decide)
  rw [Imports.isHidden, hlocals]
  decide

theorem outerName_itemClass_return : Imports.outerName (itemClass "It\rem") = "It\rem" := by
  have hparts : (itemClass "It\rem").qualname.splitOn "." = [(itemClass "It\rem").qualname] :=
    splitOn_of_notMem rfl (by decide)
  rw [Imports.outerName, hparts]
  rfl

/-- The class is imported by what is generated, so a return stands in the text. -/
theorem exists_generate_return :
    ∃ m, RoutesModule.generate itemConfig countLibrary (itemHost "It\rem") "" = .ok m ∧
      ¬Text.ReturnFree m.text := by
  have hresolve : ((Endpoint.resolveFrom (itemHost "It\rem") [] [countDefinition]).toOption.map
      fun found => (found.2.find? fun g => g.name == "Show").map fun g =>
        (g.isRequired, g.params.map fun p => p.type.same (.cls (itemClass "It\rem")))) =
      some (some (true, [true])) := by
    decide +kernel
  obtain ⟨⟨resolved, signatures⟩, hresolved, hfound⟩ := Option.map_eq_some_iff.mp hresolve
  obtain ⟨shown, hfind, hshown⟩ := Option.map_eq_some_iff.mp hfound
  obtain ⟨m, hm, rfl⟩ := exists_generate_item (Except.toOption_eq_some.mp hresolved)
  refine ⟨m, hm, fun htext => ?_⟩
  obtain ⟨definitions, templates, p, hdefinitions, hordered, -, hkeeps, hmade, hpieces⟩ :=
    exists_parts_of_generate hm
  obtain rfl := Except.ok.inj (ofFragments_countLibrary.symm.trans hdefinitions)
  obtain ⟨e, he, hdefinition⟩ : ∃ e ∈ m.endpoints, e.definition = countDefinition :=
    List.mem_map.mp (hordered.definition ▸ List.mem_singleton_self countDefinition)
  have hcall : ⟨"Show", [.call "Count" []]⟩ ∈ e.definition.calls := by
    rw [hdefinition]
    exact Definition.mem_calls_iff.mpr ⟨_, rfl, .self _⟩
  obtain ⟨hrequired, hparams⟩ := Prod.mk.inj hshown
  have hsignature : Context.signature ⟨itemConfig, itemHost "It\rem", countLibrary, m.signatures,
      templates⟩ "Show" = shown := Context.signature_eq hfind
  obtain ⟨stmt, params, returns, -, hdeclared, -⟩ :=
    hmade.exists_declares he hcall (by rw [hsignature, hrequired])
  rw [hsignature] at hdeclared
  obtain ⟨param, hparam, hitem⟩ := List.map_eq_singleton_iff.mp hparams
  rw [hparam] at hdeclared
  obtain ⟨given, rest, ⟨type, -, before, -, hgrows⟩, -, -⟩ :=
    List.forall₂_cons_left_iff.mp hdeclared
  rw [eq_cls_of_same hitem] at hgrows
  have hshows := (Imports.makes_typeExpr_cls before (itemClass "It\rem")).2.mono hgrows
  have hfree := returnFree_outerName_of_shows htext hpieces hkeeps (by decide) (by decide)
    isHidden_itemClass_return (by decide) hshows
  rw [outerName_itemClass_return] at hfree
  exact absurd (by decide : '\r' ∈ "It\rem".toList) hfree

/-- **A return in the name of a class** is written and not read back, so a second run writes again,
and a check finds the file out of date. -/
theorem writes_again_broken :
    Config.ofSettings [("templates_module", .text "app")] = .ok itemConfig ∧
    ∃ outcome after again,
      ((itemProject "It\rem").generate itemConfig true).run [] = (.ok outcome, after) ∧
      after.read? outcome.path ≠ some outcome.generated.text ∧
      ((itemProject "It\rem").generate itemConfig true).run after = (.ok again, after) ∧
      again.written = true := by
  obtain ⟨m, hm, htext⟩ := exists_generate_return
  have hrun := run_generate (itemProject "It\rem") itemConfig true []
  rw [planned_item hm] at hrun
  obtain ⟨again, hagain, -, -, -, hwritten⟩ := run_generate_again hrun
  refine ⟨ofSettings_itemConfig, _, _, again, hrun,
    fun hread => htext ((read?_of_generate_ok hrun).mp hread), hagain, ?_⟩
  simpa using fun h => htext (hwritten.mp h)

end Project

end FragmentRoutes
