import FragmentRoutes.Proofs.Call.Names
import FragmentRoutes.Proofs.Naming.Allocation
import FragmentRoutes.Proofs.Naming.RouteName
import FragmentRoutes.Proofs.RoutesModule.Interface
import FragmentRoutes.Proofs.Text.IdentifierForm

/-!
# Names of the methods of the URL builders

The class of the URL builders has a method for each definition, by the name that the definition got.
Every such name is an identifier: a callee is the form of a text that can name something, and the
name of a route is made of words with capitals.

An identifier names a method (`NamesMethod`) unless it is a reserved word or a name that the class
defines itself.  A callee that no other definition has is taken as it is, and the name of a route
may be one word, so each of them may be such an identifier (`Spoils`).  No other name is one, and
the names are all of use exactly if no definition spoils them (`namesMethod_allocate_iff`).
-/

namespace FragmentRoutes

namespace Naming

/-- A name that is given is one that is asked for, or has a number after it. -/
theorem exists_proposed_of_mem_allocate {definitions : List Definition} {ident : String}
    (h : ident ∈ allocate definitions) : ∃ d ∈ definitions,
      ident = proposed definitions d ∨ ∃ n : Nat, ident = proposed definitions d ++ toString n := by
  obtain ⟨i, hi⟩ := List.mem_iff_getElem?.mp h
  obtain ⟨name, hname, hfresh⟩ := getElem?_allocateFrom hi
  rw [List.getElem?_map, Option.map_eq_some_iff] at hname
  obtain ⟨d, hd, rfl⟩ := hname
  refine ⟨d, List.mem_of_getElem? hd, ?_⟩
  cases hfresh with
  | asked => exact .inl rfl
  | numbered => exact .inr ⟨_, rfl⟩

/-- A name that is asked for is given to someone, if it was not taken before. -/
theorem mem_append_allocateFrom {names : List String} {name : String} (h : name ∈ names)
    (taken : List String) : name ∈ taken ++ allocateFrom taken names := by
  induction names generalizing taken with
  | nil => cases h
  | cons first names ih =>
    rw [allocateFrom, ← List.singleton_append, ← List.append_assoc]
    rcases List.mem_cons.mp h with rfl | h
    · refine List.mem_append_left _ (List.mem_append.mpr ?_)
      have hfresh := freshFor_fresh taken name
      generalize fresh taken name = ident at hfresh
      cases hfresh with
      | asked => exact .inr List.mem_cons_self
      | numbered hheld => exact .inl hheld
    · exact ih h _

theorem proposed_mem_allocate {definitions : List Definition} {d : Definition}
    (hd : d ∈ definitions) : proposed definitions d ∈ allocate definitions := by
  have hname : proposed definitions d ∈ definitions.map (proposed definitions) :=
    List.mem_map_of_mem hd
  have hmem := mem_append_allocateFrom hname []
  rwa [List.nil_append] at hmem

/-- The callee of a definition with a call is what it asks for, if it is the only one to have it. -/
theorem proposed_of_calleeOf {definitions : List Definition} {d : Definition} {callee : String}
    (hd : d ∈ definitions) (hcall : calleeOf d = some callee) :
    proposed definitions d =
      if (definitions.map calleeOf).count (some callee) = 1 then callee
      else routeIdentifier d.label ++ "Calling" ++ callee := by
  obtain ⟨call, hsome, rfl⟩ := Option.map_eq_some_iff.mp hcall
  have hcount : definitions.countP (fun e => (e.call.map (·.callee)) == some call.callee) =
      (definitions.map calleeOf).count (some call.callee) := by
    rw [List.count, List.countP_map]
    rfl
  have hpos : 0 < (definitions.map calleeOf).count (some call.callee) :=
    List.count_pos_iff.mpr (List.mem_map.mpr ⟨d, hd, hcall⟩)
  rw [proposed, hsome]
  dsimp only
  rw [hcount]
  split_ifs
  · omega
  · rfl
  · rfl
  · omega

end Naming

namespace RoutesModule

open Code Naming Text

/-! ### Identifiers that name methods -/

/-- The attribute that a statement of a method sets. -/
def attributeSet? : Stmt → Option String
  | .setAttribute "self" name _ => some name
  | _ => none

/-- The names that a method has in its class: its own, and those of the attributes that it sets. -/
def classNames : Stmt → List String
  | .function _ name _ _ body => name :: body.filterMap attributeSet?
  | _ => []

/-- The identifier can name a method of the class of the URL builders, and the class does not define
it itself. -/
def NamesMethod (ident : String) : Prop :=
  isName ident = true ∧ ident ∉ classNames urlConstructor

theorem classNames_urlConstructor : classNames urlConstructor = ["__init__", "paths_prefix"] :=
  rfl

/-- The definition has the only call of a callee that names no method, or it has no call and its
route is named for a reserved word. -/
inductive Spoils (definitions : List Definition) (d : Definition) : Prop where
  | callee {callee : String} (hcall : calleeOf d = some callee)
    (halone : (definitions.map calleeOf).count (some callee) = 1)
    (hbad : callee ∈ reservedWords ∨ callee ∈ classNames urlConstructor) : Spoils definitions d
  | word {w : List Char} (hcall : calleeOf d = none) (hword : BareWord d.label w)
    (hbad : String.ofList (capitalized w) ∈ ["False", "None", "True"]) : Spoils definitions d

/-- An identifier with a number after it names a method. -/
theorem namesMethod_append_number {s : String} (h : isIdentifier s = true) (n : Nat) :
    NamesMethod (s ++ toString n) := by
  refine ⟨isName_append_number h n, fun hmem => ?_⟩
  have hends : ∀ name ∈ classNames urlConstructor, endsWithDigit name = false := by
    rw [classNames_urlConstructor]
    decide
  exact append_number_ne (hends _ hmem) rfl

/-- An identifier that starts with a capital names a method if it is not reserved. -/
theorem namesMethod_of_isCapital {s : String} {c : Char} {cs : List Char}
    (hs : s.toList = c :: cs) (hc : isCapital c = true) (hid : isIdentifier s = true) :
    NamesMethod s ↔ isReserved s = false := by
  have hown : s ∉ classNames urlConstructor := by
    intro hmem
    have hheads : ∀ name ∈ classNames urlConstructor, name.toList.head?.any isCapital = false := by
      rw [classNames_urlConstructor]
      decide
    have hhead := hheads s hmem
    rw [hs, List.head?_cons, Option.any_some, hc] at hhead
    cases hhead
  rw [NamesMethod, and_iff_left hown, isName, hid, Bool.true_and, Bool.not_eq_true']

/-- The name of a route before `Calling` and a callee is not reserved, whatever the callee is. -/
theorem namesMethod_calling (label : Route.Label) {callee : String}
    (hid : isIdentifier callee = true) :
    NamesMethod (routeIdentifier label ++ "Calling" ++ callee) := by
  obtain ⟨c, cs, heq, hc, -⟩ := routeIdentifier_cases label
  have hchars : (routeIdentifier label ++ "Calling" ++ callee).toList =
      c :: (cs ++ "Calling".toList ++ callee.toList) := by
    rw [String.toList_append, String.toList_append, heq]
    rfl
  have hcalling : isIdentifier (routeIdentifier label ++ "Calling") = true :=
    isIdentifier_append (isIdentifier_routeIdentifier label) (by decide)
  have hall := isIdentifier_append hcalling (continuesIdentifier_of_isIdentifier hid)
  refine (namesMethod_of_isCapital hchars hc hall).mpr ?_
  by_contra hreserved
  have hmem := mem_of_isReserved_of_isCapital (by simpa using hreserved) hchars hc
  have habsent : ∀ word ∈ ["False", "None", "True"], 'C' ∉ word.toList := by decide
  refine habsent _ hmem ?_
  rw [hchars]
  simp

/-! ### The names of all definitions -/

/-- A callee that is read is an identifier. -/
theorem isIdentifier_callee {fragments : List Fragment} {definitions : List Definition}
    (h : Definition.ofFragments fragments = .ok definitions) {d : Definition}
    (hd : d ∈ definitions) {callee : String} (hcall : calleeOf d = some callee) :
    isIdentifier callee = true := by
  obtain ⟨f, -, hparse⟩ := Definition.exists_parse_of_mem h hd
  obtain ⟨call, hsome, rfl⟩ := Option.map_eq_some_iff.mp hcall
  have hparsed := Definition.parseCall_of_parse hparse
  rw [hsome] at hparsed
  obtain ⟨s, hs, heq⟩ := (Call.named_of_parse (Definition.parse_of_parseCall hparsed).1).callee
  rw [heq]
  exact isIdentifier_compatibilityForm (isIdentifier_of_isName hs)

/-- What a definition asks for is an identifier, which names a method unless the definition spoils
it. -/
theorem isIdentifier_proposed {definitions : List Definition} {d : Definition}
    (hd : d ∈ definitions)
    (hcallee : ∀ callee, calleeOf d = some callee → isIdentifier callee = true) :
    isIdentifier (proposed definitions d) = true ∧
      (NamesMethod (proposed definitions d) ↔ ¬Spoils definitions d) := by
  cases hcall : calleeOf d with
  | none =>
    have hroute : proposed definitions d = routeIdentifier d.label := by
      rw [proposed, Option.map_eq_none_iff.mp hcall]
    obtain ⟨c, cs, heq, hc, -⟩ := routeIdentifier_cases d.label
    have hid := isIdentifier_routeIdentifier d.label
    rw [hroute, namesMethod_of_isCapital heq hc hid, ← Bool.not_eq_true,
      isReserved_routeIdentifier_iff]
    refine ⟨hid, not_congr ⟨?_, ?_⟩⟩
    · rintro ⟨w, hw, hbad⟩
      exact .word hcall hw hbad
    · rintro (⟨hsome, -, -⟩ | ⟨-, hw, hbad⟩)
      · rw [hcall] at hsome
        cases hsome
      · exact ⟨_, hw, hbad⟩
  | some callee =>
    have hid := hcallee callee hcall
    rw [proposed_of_calleeOf hd hcall]
    split_ifs with halone
    · refine ⟨hid, ?_⟩
      have hspoils : Spoils definitions d ↔
          callee ∈ reservedWords ∨ callee ∈ classNames urlConstructor := by
        constructor
        · rintro (⟨hsome, -, hbad⟩ | ⟨hnone, -, -⟩)
          · obtain rfl := Option.some.inj (hcall.symm.trans hsome)
            exact hbad
          · rw [hcall] at hnone
            cases hnone
        · exact fun hbad => .callee hcall halone hbad
      rw [hspoils, not_or, NamesMethod, isName, hid, Bool.true_and, Bool.not_eq_true', isReserved,
        List.contains_eq_mem, decide_eq_false_iff_not]
    · have hnames := namesMethod_calling d.label hid
      refine ⟨isIdentifier_of_isName hnames.1, iff_of_true hnames ?_⟩
      rintro (⟨hsome, hone, -⟩ | ⟨hnone, -, -⟩)
      · obtain rfl := Option.some.inj (hcall.symm.trans hsome)
        exact halone hone
      · rw [hcall] at hnone
        cases hnone

/-- **The names that definitions get are identifiers**, and they all name methods of the URL
builders exactly if no definition spoils them. -/
theorem namesMethod_allocate_iff {fragments : List Fragment} {definitions : List Definition}
    (h : Definition.ofFragments fragments = .ok definitions) :
    (∀ ident ∈ allocate definitions, isIdentifier ident = true) ∧
      ((∀ ident ∈ allocate definitions, NamesMethod ident) ↔
        ∀ d ∈ definitions, ¬Spoils definitions d) := by
  have hproposed := fun d (hd : d ∈ definitions) =>
    isIdentifier_proposed hd fun callee hcall => isIdentifier_callee h hd hcall
  constructor
  · intro ident hident
    obtain ⟨d, hd, rfl | ⟨n, rfl⟩⟩ := exists_proposed_of_mem_allocate hident
    · exact (hproposed d hd).1
    · exact isIdentifier_of_isName (isName_append_number (hproposed d hd).1 n)
  constructor
  · intro hall d hd
    exact (hproposed d hd).2.mp (hall _ (proposed_mem_allocate hd))
  · intro hnone ident hident
    obtain ⟨d, hd, rfl | ⟨n, rfl⟩⟩ := exists_proposed_of_mem_allocate hident
    · exact (hproposed d hd).2.mpr (hnone d hd)
    · exact namesMethod_append_number (hproposed d hd).1 n

/-- The route of a page is named for its callee, which is of use. -/
theorem namesMethod_allocate_iff_show :
    allocate [countDefinition] = ["Show"] ∧ ∀ ident ∈ allocate [countDefinition],
      NamesMethod ident := by
  have hspoils : ∀ d ∈ [countDefinition], ¬Spoils [countDefinition] d := by
    intro d hd
    obtain rfl := List.mem_singleton.mp hd
    rintro (⟨hcall, -, hbad⟩ | ⟨hcall, -, -⟩)
    · obtain rfl := Option.some.inj hcall
      rw [classNames_urlConstructor] at hbad
      exact absurd hbad (by decide)
    · cases hcall
  exact ⟨by decide, (namesMethod_allocate_iff ofFragments_countLibrary).2.mpr hspoils⟩

/-- A route without a method and with one word in its path is named for a reserved word. -/
theorem not_namesMethod_of_bare_word : ∃ definitions,
    Definition.ofFragments [⟨"/none", "", none⟩] = .ok definitions ∧
      allocate definitions = ["None"] ∧ ¬NamesMethod "None" := by
  have hdefinitions : Definition.ofFragments [⟨"/none", "", none⟩] = .ok _ :=
    Definition.ofFragments_of_pairwise (by decide) rfl (by decide)
  have hreserved : isReserved "None" = true := by decide
  refine ⟨_, hdefinitions, by decide, fun hname => ?_⟩
  have hfree := hname.1
  rw [isName, hreserved, Bool.not_true, Bool.and_false] at hfree
  cases hfree

end RoutesModule

end FragmentRoutes
