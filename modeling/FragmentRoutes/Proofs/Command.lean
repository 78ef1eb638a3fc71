import FragmentRoutes.Command
import FragmentRoutes.Proofs.Call.Scope
import FragmentRoutes.Proofs.Project
import FragmentRoutes.Proofs.Terminal.Markup

/-!
# How commands end

A fault ends a command with code 1 and a line that is printed with styles.  What a terminal makes of
this line is known as far as it reads markup (`Renderer.ReadsMarkup`).  The words of the fault are
printed as they are exactly if they hold no tags and the terminal keeps the rest
(`print?_faultLine_eq_iff`), which it does for ordinary words (`keeps_faultLine`).  Words whose first
tag closes something are not printed at all (`print?_faultLine_of_closing`).
-/

namespace FragmentRoutes

open Host Terminal

namespace Command

/-! ### The line for a fault -/

/-- The style of the first word of the line. -/
def faultStyle : List Char :=
  ['b', 'o', 'l', 'd', ' ', 'r', 'e', 'd']

/-- What stands in front of the words of a fault. -/
def faultFront : List Char :=
  '[' :: (faultStyle ++ [']', 'e', 'r', 'r', 'o', 'r', '[', '/'] ++ faultStyle ++ [']', ':', ' '])

/-- What the front shows. -/
def faultWord : List Char :=
  ['e', 'r', 'r', 'o', 'r', ':', ' ']

/-- The front as it is read. -/
def frontSpans : List Span :=
  [.shown [], .tag faultStyle, .shown ['e'], .shown ['r'], .shown ['r'], .shown ['o'],
    .shown ['r'], .shown [], .tag ('/' :: faultStyle), .shown [':'], .shown [' ']]

theorem spansWithin_faultFront (fuel : Nat) (cs : List Char) :
    spansWithin (fuel + 9) (faultFront ++ cs) = frontSpans ++ spansWithin fuel cs := by
  have hopens : startsTag 'b' = true := by decide
  have hcloses : startsTag '/' = true := by decide
  simp [spansWithin, splitTag?, hopens, hcloses, faultFront, faultStyle, frontSpans]

/-- The line that words about a fault are printed in. -/
def faultLine (words : String) : String :=
  "[bold red]error[/bold red]: " ++ words

theorem toList_faultLine (words : String) :
    (faultLine words).toList = faultFront ++ words.toList := by
  have hfront : "[bold red]error[/bold red]: ".toList = faultFront := by
    unfold faultFront faultStyle
    exact String.toList_ofList
  unfold faultLine
  rw [String.toList_append, hfront]

/-- **The pieces of the line** are those of its front and those of the words. -/
theorem spans_faultLine (words : String) :
    spans (faultLine words) = frontSpans ++ spans words := by
  have hlength : (faultFront ++ words.toList).length = words.toList.length + 19 + 9 := by
    have hfront : faultFront.length = 28 := rfl
    rw [List.length_append, hfront, Nat.add_comm]
  have hwords : spansWithin (words.toList.length + 19) words.toList = spans words :=
    spansWithin_eq_spansWithin (Nat.le_add_right _ 19) le_rfl
  rw [spans, toList_faultLine, hlength, spansWithin_faultFront, hwords]

theorem shownIn_faultLine (words : String) :
    shownIn (spans (faultLine words)) = faultWord ++ shownIn (spans words) := by
  have hfront : shownIn frontSpans = faultWord := rfl
  rw [spans_faultLine, shownIn, List.flatMap_append, ← shownIn, ← shownIn, hfront]

/-- Behind pieces that are shown the same styles are open as in front of them. -/
theorem openAfter_append_of_no_tags {opened : List (List Char)} {before : List Span}
    (h : before.filterMap Span.tag? = []) (after : List Span) :
    openAfter opened (before ++ after) = openAfter opened after := by
  induction before with
  | nil => rfl
  | cons span before ih =>
    cases span with
    | shown cs => exact ih h
    | tag inside => cases h

/-- The pieces in front of the first tag are no tags. -/
theorem exists_tag_of_head? {spans : List Span} {inside : List Char}
    (h : (spans.filterMap Span.tag?).head? = some inside) :
    ∃ before after, spans = before ++ .tag inside :: after ∧
      before.filterMap Span.tag? = [] := by
  induction spans with
  | nil => cases h
  | cons span spans ih =>
    cases span with
    | shown cs =>
      obtain ⟨before, after, rfl, hbefore⟩ := ih h
      exact ⟨.shown cs :: before, after, rfl, hbefore⟩
    | tag first =>
      obtain rfl : first = inside := Option.some.inj h
      exact ⟨[], spans, rfl, rfl⟩

/-- **The front** opens a style and closes it again, so no style is open in front of the words. -/
theorem openAfter_frontSpans (after : List Span) :
    openAfter [] (frontSpans ++ after) = openAfter [] after := by
  have hstyle : namesStyle faultStyle = true := by decide
  have hopen : ∀ spans, openAfter [] (.tag faultStyle :: spans) = openAfter [faultStyle] spans :=
    fun _ => if_pos hstyle
  have hclose : ∀ spans, openAfter [faultStyle] (.tag ('/' :: faultStyle) :: spans) =
      openAfter [] spans := fun spans => by simp [openAfter]
  simp only [frontSpans, List.cons_append, List.nil_append, openAfter, hopen, hclose]

theorem isOrdinary_faultWord_append {cs : List Char} (h : IsOrdinary cs) :
    IsOrdinary (faultWord ++ cs) where
  no_control := List.forall_mem_append.mpr ⟨by simp [faultWord], h.no_control⟩
  no_code := by
    have hcolon : reachesColon (' ' :: cs) = false := rfl
    simp [faultWord, hasCode, hcolon, h.no_code]

section

variable {render : Renderer} {words : String}

/-- **Words are printed as they are** exactly if they are unmarked and the renderer keeps what stands
outside the tags of their line. -/
theorem print?_faultLine_eq_iff (h : render.ReadsMarkup) :
    render.print? (faultLine words) = some ("error: " ++ words) ↔
      Unmarked words.toList ∧ render.Keeps (faultLine words) := by
  have hword : ("error: " ++ words).toList = faultWord ++ words.toList := by
    rw [String.toList_append]
    rfl
  rw [Renderer.print?, Option.map_eq_some_iff, Renderer.Keeps]
  constructor
  · rintro ⟨cs, hcs, hwords⟩
    rw [← String.toList_inj, String.toList_ofList, hword] at hwords
    subst hwords
    -- the word in front has no marks, so all marks of the words are shown
    have hmarks := h.hides_tags hcs
    rw [shownIn_faultLine, List.countP_append, List.countP_append] at hmarks
    have hunmarked := unmarked_of_countP_le le_rfl (Nat.le_of_add_le_add_left hmarks)
    refine ⟨hunmarked, ?_⟩
    rw [hcs, shownIn_faultLine, shownIn_spans_eq_iff.mpr hunmarked]
  · rintro ⟨hunmarked, hkeeps⟩
    rw [shownIn_faultLine, shownIn_spans_eq_iff.mpr hunmarked] at hkeeps
    exact ⟨_, hkeeps, by rw [← hword, String.ofList_toList]⟩

/-- Ordinary words without marks are kept. -/
theorem keeps_faultLine (h : render.ReadsMarkup) (hunmarked : Unmarked words.toList)
    (hordinary : IsOrdinary words.toList) : render.Keeps (faultLine words) := by
  have htags : (spans words).filterMap Span.tag? = [] := by
    refine List.filterMap_eq_nil_iff.mpr fun span hspan => ?_
    cases span with
    | shown cs => rfl
    | tag inside => exact absurd hspan ((spansWithin_of_unmarked le_rfl hunmarked).1 inside)
  have hopen : openAfter [] (spans (faultLine words)) = some [] := by
    rw [spans_faultLine, openAfter_frontSpans, ← List.append_nil (spans words),
      openAfter_append_of_no_tags htags]
    rfl
  refine h.shows_ordinary hopen ?_
  rw [shownIn_faultLine, shownIn_spans_eq_iff.mpr hunmarked]
  exact isOrdinary_faultWord_append hordinary

/-- Words whose first tag closes something are not printed. -/
theorem print?_faultLine_of_closing (h : render.ReadsMarkup) {name : List Char}
    (hclosing : ((spans words).filterMap Span.tag?).head? = some ('/' :: name)) :
    render.print? (faultLine words) = none := by
  obtain ⟨before, after, hspans, hnone⟩ := exists_tag_of_head? hclosing
  have hopen : openAfter [] (frontSpans ++ before) = some [] := by
    rw [openAfter_frontSpans, ← List.append_nil before, openAfter_append_of_no_tags hnone]
    rfl
  rw [Renderer.print?, spans_faultLine, hspans, ← List.append_assoc,
    h.refuses_unmatched name after hopen]
  rfl

end

/-! ### Commands that a fault ends -/

/-- What a fault leaves on the error output is the line about it, if that is printed. -/
theorem err_failed {platform : Platform} {fault : Project.Fault} {words : String}
    (hwords : fault.message? platform.diagnosis = some words) :
    (failed platform fault).err =
      ((platform.render.print? (faultLine words)).map (· ++ "\n")).getD "" := by
  have hshown : ((fault.message? platform.diagnosis).bind fun message =>
      platform.render.print? ("[bold red]error[/bold red]: " ++ message)) =
        platform.render.print? (faultLine words) := by
    rw [hwords]
    rfl
  unfold failed
  dsimp only
  rw [hshown]
  cases platform.render.print? (faultLine words) with
  | none => rfl
  | some line => rfl

/-- **A fault ends a command** with code 1, leaves the files as they are, and is reported on the
error output alone.  On a terminal that reads markup, it is reported in its own words exactly if these
are unmarked and the terminal keeps the rest of the line, which it does if they are ordinary too.
Nothing is reported in words whose first tag closes something. -/
theorem run_reports_fault (root : String) {platform : Platform}
    (hmarkup : platform.render.ReadsMarkup) {project : Project} {files : Files}
    {args : List String} {command : Command} {fault : Project.Fault} {words : String}
    (hcommand : parse args = .ok command)
    (hrun : project.run files command.config (command.action == .generate) = .error fault)
    (hwords : fault.message? platform.diagnosis = some words) :
    (run root project files args platform).2 = files ∧
      (run root project files args platform).1.code = 1 ∧
      (run root project files args platform).1.out = "" ∧
      ((run root project files args platform).1.err = "error: " ++ words ++ "\n" ↔
        Unmarked words.toList ∧ platform.render.Keeps (faultLine words)) ∧
      (Unmarked words.toList → IsOrdinary words.toList →
        (run root project files args platform).1.err = "error: " ++ words ++ "\n") ∧
      ∀ name, ((spans words).filterMap Span.tag?).head? = some ('/' :: name) →
        (run root project files args platform).1.err = "" := by
  have hresult : run root project files args platform = (failed platform fault, files) := by
    rw [run, hcommand]
    dsimp only
    rw [hrun]
  have herr := err_failed hwords
  have hiff : (failed platform fault).err = "error: " ++ words ++ "\n" ↔
      Unmarked words.toList ∧ platform.render.Keeps (faultLine words) := by
    rw [herr, ← print?_faultLine_eq_iff hmarkup]
    cases platform.render.print? (faultLine words) with
    | none =>
      rw [Option.map_none, Option.getD_none]
      refine iff_of_false (fun hempty => ?_) (by simp)
      -- the line is not empty, since it begins with a word
      have hword : "error: ".length = 7 := rfl
      have hlength := congrArg String.length hempty
      rw [String.length_append, String.length_append, hword, String.length_empty] at hlength
      omega
    | some line =>
      rw [Option.map_some, Option.getD_some, Option.some_inj]
      exact String.append_left_inj _
  rw [hresult]
  refine ⟨rfl, rfl, rfl, hiff, fun hunmarked hordinary => ?_, fun name hclosing => ?_⟩
  · exact hiff.mpr ⟨hunmarked, keeps_faultLine hmarkup hunmarked hordinary⟩
  · rw [herr, print?_faultLine_of_closing hmarkup hclosing]
    rfl

/-! ### A page that gives a function what it does not take -/

section

variable (type : HostType)

/-- What a page calls with the parameter of its path. -/
def showCall : Call :=
  ⟨"Show", [.name "id"]⟩

/-- The route of the page. -/
def showDefinition : Definition :=
  ⟨⟨"GET /\x7bid\x7d Show(id)", some .get, "", "/\x7bid\x7d", [.param "id"], 200, false,
    "Show(id)"⟩, some showCall, "", ""⟩

/-- The page. -/
def showLibrary : Library :=
  ⟨["GET /\x7bid\x7d Show(id)"], [⟨"GET /\x7bid\x7d Show(id)", "", none⟩]⟩

/-- A function that takes a value of the type. -/
def showFunction : Function :=
  ⟨"app", [⟨"id", some type, .positional, false⟩], some .str, false⟩

/-- The module of the page and of the function. -/
def showModule : Project.Module :=
  ⟨"app", true, [("templates", .templates showLibrary false),
    ("Show", .function (showFunction type))]⟩

/-- An application that is the module. -/
def showProject : Project :=
  ⟨[], [showModule type]⟩

/-- The application as the generator sees it. -/
def showHost : Host :=
  ⟨[], [("Show", showFunction type)], none⟩

/-- The configuration that the arguments ask for. -/
def showConfig : Config :=
  { templatesModule := "app" }

/-- The words about the page when the type is written in the given way. -/
def showWords (written : String) : String :=
  "method expects type " ++ written ++ " but id is str (in 'GET /\x7bid\x7d Show(id)')"

theorem parse_showArgs : parse ["check", "-m", "app"] = .ok ⟨.check, showConfig, "."⟩ := by
  have hconfig : Config.ofSettings [("templates_module", .text "app")] = .ok showConfig := by
    unfold Config.ofSettings
    rw [Config.option_templatesModule rfl (by decide +kernel) (by decide)]
    rfl
  have hgiven : readOptions moduleOptions 2 ["-m", "app"] =
      .ok [(⟨"templates-module", some 'm', some "templates_module", true⟩, "app")] := rfl
  have hoptions : parse ["check", "-m", "app"] = ofOptions .check ["-m", "app"] := rfl
  rw [hoptions, ofOptions]
  simp only [Action.options, List.length_cons, List.length_nil, hgiven]
  rw [Except.ok_bind]
  have hsettings : settings [(⟨"templates-module", some 'm', some "templates_module", true⟩,
      "app")] = [("templates_module", .text "app")] := rfl
  rw [hsettings, hconfig]
  rfl

theorem ofFragments_showLibrary :
    Definition.ofFragments showLibrary.fragments = .ok [showDefinition] := by
  have hscan : Code.Token.scan (Text.stripChars "Show(id)".toList) =
      some (showCall.tokens ++ [Code.Token.newline]) := by decide +kernel
  have hfree : showCall.Named Call.Free 1 := .call rfl (List.forall_mem_singleton.mpr (.name rfl))
  have hparse : Call.parse "Show(id)" = .ok showCall :=
    Call.parse_of_scan hfree hscan (by decide +kernel) (by decide +kernel)
  have hfragments : showLibrary.fragments = [⟨"GET /\x7bid\x7d Show(id)", "", none⟩] := by
    decide
  rw [hfragments]
  exact Definition.ofFragments_of_call rfl hparse (by decide) (by decide)

/-- A page whose call cannot be resolved ends a run with the words about it. -/
theorem run_show (words : String) (h : (match
      Endpoint.resolveFrom (showHost type) [] [showDefinition] with
    | .error fault => RoutesModule.Failure.message? (.endpoints (.resolution fault))
    | .ok _ => none) = some words) (files : Files) (writes : Bool) :
    ∃ fault, (showProject type).run files showConfig writes = .error fault ∧
      fault.message? = some words := by
  have hparts : "app".splitOn "." = ["app"] := Text.splitOn_of_notMem rfl (by decide)
  -- the steps of planning up to the resolution go well, whatever the type
  have himport : (showProject type).importModule showConfig.templatesModule =
      .ok (showModule type) := by
    rw [Project.importModule, Project.prefixes, showConfig, hparts]
    rfl
  have hhost : (⟨(showProject type).classes, Project.ownFunctions (showModule type), none⟩ :
      Host) = showHost type := by
    have hown : Project.ownFunctions (showModule type) = [("Show", showFunction type)] := by
      simp [Project.ownFunctions, showModule, showFunction]
    rw [hown]
    rfl
  have htemplates : (showProject type).templates (showModule type) showConfig.templatesVariable =
      .ok (showLibrary, "") := rfl
  have hreceiver : (showProject type).receiver showConfig = .ok none := rfl
  cases hresolved : Endpoint.resolveFrom (showHost type) [] [showDefinition] with
  | ok found =>
    rw [hresolved] at h
    exact absurd h (by simp)
  | error fault =>
    rw [hresolved] at h
    have hlibrary : Endpoint.ofLibrary showLibrary (showHost type) =
        .error (.resolution fault) := by
      rw [Endpoint.ofLibrary, ofFragments_showLibrary, Except.mapError, Except.ok_bind, hresolved]
      rfl
    have hplanned : (showProject type).planned showConfig =
        .error (.generation (.endpoints (.resolution fault))) := by
      rw [Project.planned, himport, Except.ok_bind, htemplates, Except.ok_bind, hreceiver,
        Except.ok_bind, hhost, RoutesModule.generate, hlibrary]
      rfl
    exact ⟨_, Project.run_of_planned_error hplanned, h⟩

end

/-- The words about numbers are ordinary and unmarked, and they are printed as they are. -/
theorem run_reports_fault_numbers :
    ∃ fault, Platform.plain.render.ReadsMarkup ∧
      parse ["check", "-m", "app"] = .ok ⟨.check, showConfig, "."⟩ ∧
      (showProject (.uniteBarred [.int, .float])).run [] showConfig false = .error fault ∧
      fault.message? Platform.plain.diagnosis = some (showWords "int | float") ∧
      (run "" (showProject (.uniteBarred [.int, .float])) [] ["check", "-m", "app"] .plain).1.err =
        "error: " ++ showWords "int | float" ++ "\n" := by
  obtain ⟨fault, hrun, hwords⟩ := run_show (.uniteBarred [.int, .float])
    (showWords "int | float") (by decide +kernel) [] false
  obtain ⟨-, -, -, -, hreport, -⟩ := run_reports_fault ""
    (show Platform.plain.render.ReadsMarkup from Renderer.readsMarkup_plain)
    parse_showArgs hrun hwords
  have hunmarked : Unmarked (showWords "int | float").toList :=
    shownIn_spans_eq_iff.mp (by decide +kernel)
  have hcontrol : (showWords "int | float").toList.all (fun c => 32 ≤ c.toNat) = true := by
    decide +kernel
  have hordinary : IsOrdinary (showWords "int | float").toList :=
    ⟨fun c hc => of_decide_eq_true (List.all_eq_true.mp hcontrol c hc), by decide +kernel⟩
  exact ⟨fault, Renderer.readsMarkup_plain, parse_showArgs, hrun, hwords,
    hreport hunmarked hordinary⟩

/-- **The items of a list** are left out of the words about it: what stands in the brackets is read
as a style. -/
theorem run_drops_items :
    ∃ fault, parse ["check", "-m", "app"] = .ok ⟨.check, showConfig, "."⟩ ∧
      (showProject (.applied .direct (.builtin "list") [.int])).run [] showConfig false =
        .error fault ∧
      fault.message? = some (showWords "list[int]") ∧
      (run "" (showProject (.applied .direct (.builtin "list") [.int])) []
        ["check", "-m", "app"]).1.err = "error: " ++ showWords "list" ++ "\n" := by
  obtain ⟨fault, hrun, hwords⟩ := run_show (.applied .direct (.builtin "list") [.int])
    (showWords "list[int]") (by decide +kernel) [] false
  have hresult : run "" (showProject (.applied .direct (.builtin "list") [.int])) []
      ["check", "-m", "app"] = (failed .plain fault, []) := by
    have haction : (Action.check == Action.generate) = false := rfl
    rw [run, parse_showArgs]
    dsimp only
    rw [haction, hrun]
  have herr : (failed .plain fault).err = _ := err_failed hwords
  refine ⟨fault, parse_showArgs, hrun, hwords, ?_⟩
  rw [hresult, herr]
  decide +kernel

end Command

end FragmentRoutes
