import FragmentRoutes.Proofs.Naming
import Mathlib.Data.Nat.Find

/-!
# The names that definitions get

A definition asks for a name (`AsksFor`), and it gets this name unless an earlier definition holds
it; then it gets the name with the least number from two on that no earlier definition holds
(`FreshFor`).  So each definition has one name, and no two have the same
(`allocate_distinct_and_least`).
-/

namespace FragmentRoutes.Naming

/-! ### The search for a name -/

/-- The name that is **fresh** for one that is asked for: this one, or, if it is held, the same with
the least number from two on that is not held. -/
inductive FreshFor (held : List String) (name : String) : String → Prop where
  | asked (hfree : name ∉ held) : FreshFor held name name
  | numbered {n : Nat} (hheld : name ∈ held) (htwo : 2 ≤ n) (hfree : name ++ toString n ∉ held)
    (hleast : ∀ k, 2 ≤ k → k < n → name ++ toString k ∈ held) :
    FreshFor held name (name ++ toString n)

/-- The search ends with the least number that is free, if there is one within its bound. -/
theorem numbered_eq_least {taken : List String} {name : String} {fuel n k : Nat} (hle : n ≤ k)
    (hfuel : k ≤ n + fuel) (hfree : name ++ toString k ∉ taken)
    (hleast : ∀ j, n ≤ j → j < k → name ++ toString j ∈ taken) :
    numbered taken name n fuel = name ++ toString k := by
  induction fuel generalizing n with
  | zero =>
    obtain rfl : n = k := by omega
    rfl
  | succ fuel ih =>
    rw [numbered]
    by_cases hn : n = k
    · subst hn
      rw [if_neg (by simpa using hfree)]
    · have hheld : name ++ toString n ∈ taken := hleast n le_rfl (by omega)
      rw [if_pos (by simpa using hheld)]
      exact ih (by omega) (by omega) fun j hj => hleast j (by omega)

/-- **The name that is given is fresh** for the one asked for. -/
theorem freshFor_fresh (taken : List String) (name : String) :
    FreshFor taken name (fresh taken name) := by
  rw [fresh]
  by_cases hheld : name ∈ taken
  · rw [if_pos (by simpa using hheld)]
    classical
    obtain ⟨m, hm, hbound, hm'⟩ := Text.exists_numbered_not_mem taken name 2
    have hsome : ∃ n, 2 ≤ n ∧ name ++ toString n ∉ taken := ⟨m, hm, hm'⟩
    obtain ⟨htwo, hfree⟩ := Nat.find_spec hsome
    have hleast : ∀ k, 2 ≤ k → k < Nat.find hsome → name ++ toString k ∈ taken := by
      intro k hk hlt
      by_contra hnot
      exact Nat.find_min hsome hlt ⟨hk, hnot⟩
    have hle : Nat.find hsome ≤ m := Nat.find_min' hsome ⟨hm, hm'⟩
    rw [numbered_eq_least htwo (by omega) hfree hleast]
    exact .numbered hheld htwo hfree hleast
  · rw [if_neg (by simpa using hheld)]
    exact .asked hheld

/-- A name is fresh for the one asked for at its place, with the names before it held. -/
theorem getElem?_allocateFrom {taken names : List String} {i : Nat} {ident : String}
    (h : (allocateFrom taken names)[i]? = some ident) :
    ∃ name, names[i]? = some name ∧
      FreshFor (taken ++ (allocateFrom taken names).take i) name ident := by
  induction names generalizing taken i with
  | nil => cases h
  | cons name names ih =>
    cases i with
    | zero =>
      obtain rfl := Option.some.inj h
      exact ⟨name, rfl, by simpa using freshFor_fresh taken name⟩
    | succ i =>
      have hlater : (allocateFrom (taken ++ [fresh taken name]) names)[i]? = some ident := h
      obtain ⟨name', hname', hfresh⟩ := ih hlater
      exact ⟨name', hname', by simpa [allocateFrom] using hfresh⟩

/-! ### The names that definitions ask for -/

/-- The callee of the call of a definition, if it has one. -/
def calleeOf (d : Definition) : Option String :=
  d.call.map (·.callee)

/-- The definition at a place **asks for** the name: that of its route if it has no call, its callee
if no other definition has it, and that of its route before the callee if another has it. -/
inductive AsksFor (definitions : List Definition) (i : Nat) : String → Prop where
  | route {d : Definition} (hd : definitions[i]? = some d) (hcall : calleeOf d = none) :
    AsksFor definitions i (routeIdentifier d.label)
  | callee {d : Definition} {callee : String} (hd : definitions[i]? = some d)
    (hcall : calleeOf d = some callee)
    (halone : ∀ j e, definitions[j]? = some e → calleeOf e = some callee → j = i) :
    AsksFor definitions i callee
  | shared {d e : Definition} {callee : String} {j : Nat} (hd : definitions[i]? = some d)
    (hcall : calleeOf d = some callee) (he : definitions[j]? = some e)
    (hshared : calleeOf e = some callee) (hne : j ≠ i) :
    AsksFor definitions i (routeIdentifier d.label ++ "Calling" ++ callee)

/-- An element is one of several that pass a test if another place has one that passes it. -/
theorem one_lt_countP_iff {α : Type} {p : α → Bool} {items : List α} {i : Nat} {a : α}
    (ha : items[i]? = some a) (hp : p a = true) :
    1 < items.countP p ↔ ∃ j b, j ≠ i ∧ items[j]? = some b ∧ p b = true := by
  obtain ⟨hi, rfl⟩ := List.getElem?_eq_some_iff.mp ha
  -- the places before and behind the element are counted apart from it
  have hsplit : items.take i ++ items[i] :: items.drop (i + 1) = items := by
    rw [List.getElem_cons_drop, List.take_append_drop]
  have hcount : 1 < items.countP p ↔
      (∃ b ∈ items.take i, p b = true) ∨ ∃ b ∈ items.drop (i + 1), p b = true := by
    rw [← List.countP_pos_iff, ← List.countP_pos_iff]
    conv_lhs => rw [← hsplit]
    rw [List.countP_append, List.countP_cons_of_pos hp]
    omega
  rw [hcount]
  constructor
  · rintro (⟨b, hb, hpb⟩ | ⟨b, hb, hpb⟩)
    · obtain ⟨j, hj, rfl⟩ := List.mem_take_iff_getElem.mp hb
      exact ⟨j, _, by omega, List.getElem?_eq_getElem _, hpb⟩
    · obtain ⟨j, hj, rfl⟩ := List.mem_drop_iff_getElem.mp hb
      exact ⟨i + 1 + j, _, by omega, List.getElem?_eq_getElem _, hpb⟩
  · rintro ⟨j, b, hne, hb, hpb⟩
    obtain ⟨hj, rfl⟩ := List.getElem?_eq_some_iff.mp hb
    rcases Nat.lt_or_gt_of_ne hne with hlt | hgt
    · exact .inl ⟨_, List.mem_take_iff_getElem.mpr ⟨j, by omega, rfl⟩, hpb⟩
    · refine .inr ⟨_, List.mem_drop_iff_getElem.mpr ⟨j - (i + 1), by omega, ?_⟩, hpb⟩
      congr 1
      omega

/-- **What a definition asks for** is what is proposed for it. -/
theorem asksFor_proposed {definitions : List Definition} {i : Nat} {d : Definition}
    (hd : definitions[i]? = some d) : AsksFor definitions i (proposed definitions d) := by
  rw [proposed]
  cases hcall : d.call with
  | none => exact .route hd (by rw [calleeOf, hcall]; rfl)
  | some call =>
    have hcallee : calleeOf d = some call.callee := by rw [calleeOf, hcall]; rfl
    have hshared : 1 < definitions.countP (fun e => (e.call.map (·.callee)) == some call.callee) ↔
        ∃ j e, j ≠ i ∧ definitions[j]? = some e ∧ calleeOf e = some call.callee := by
      have hpasses : (d.call.map (·.callee) == some call.callee) = true := by simp [hcall]
      rw [one_lt_countP_iff hd hpasses]
      simp only [beq_iff_eq, calleeOf]
    dsimp only
    split_ifs with hcount
    · obtain ⟨j, e, hne, he, hsame⟩ := hshared.mp hcount
      exact .shared hd hcallee he hsame hne
    · refine .callee hd hcallee fun j e he hsame => ?_
      by_contra hne
      exact hcount (hshared.mpr ⟨j, e, hne, he, hsame⟩)

/-- **Each definition gets one name, and no two get the same.**  A definition gets the name that it
asks for unless an earlier one holds it; then it gets this name with the least number from two on
that no earlier one holds. -/
theorem allocate_distinct_and_least (definitions : List Definition) :
    (allocate definitions).length = definitions.length ∧ (allocate definitions).Nodup ∧
      ∀ i ident, (allocate definitions)[i]? = some ident →
        ∃ name, AsksFor definitions i name ∧
          FreshFor ((allocate definitions).take i) name ident := by
  refine ⟨length_allocate definitions, nodup_allocate definitions, fun i ident hident => ?_⟩
  obtain ⟨name, hname, hfresh⟩ := getElem?_allocateFrom hident
  rw [List.getElem?_map, Option.map_eq_some_iff] at hname
  obtain ⟨d, hd, rfl⟩ := hname
  exact ⟨_, asksFor_proposed hd, by simpa [allocate] using hfresh⟩

/-- Three routes that ask for one name or for one that has a number already. -/
def numberedRoutes : List Definition := [
  ⟨⟨"GET /a ReadAB2()", some .get, "", "/a", [.literal "a"], 200, false, "ReadAB2()"⟩,
    some ⟨"ReadAB2", []⟩, "", ""⟩,
  ⟨⟨"GET /a-b", some .get, "", "/a-b", [.literal "a-b"], 200, false, ""⟩, none, "", ""⟩,
  ⟨⟨"GET /a_b", some .get, "", "/a_b", [.literal "a_b"], 200, false, ""⟩, none, "", ""⟩]

/-- The number two is held by a callee, so the third route gets the number three. -/
theorem allocate_distinct_and_least_numbered :
    (allocate numberedRoutes)[2]? = some "ReadAB3" ∧
      ∃ name, AsksFor numberedRoutes 2 name ∧ FreshFor ["ReadAB2", "ReadAB"] name "ReadAB3" := by
  have hidents : allocate numberedRoutes = ["ReadAB2", "ReadAB", "ReadAB3"] := by decide
  have hthird : (allocate numberedRoutes)[2]? = some "ReadAB3" := by rw [hidents]; rfl
  obtain ⟨-, -, hasked⟩ := allocate_distinct_and_least numberedRoutes
  obtain ⟨name, hname, hfresh⟩ := hasked 2 "ReadAB3" hthird
  rw [hidents] at hfresh
  exact ⟨hthird, name, hname, hfresh⟩

end FragmentRoutes.Naming
