import FragmentRoutes.Host.View
import Mathlib.Tactic.Common

/-!
# Applications without classes

Only standard classes are left if an application has no classes of its own.  None of these reads its
values from texts, and their fields are not known, so values are made of models alone.
-/

namespace FragmentRoutes.Host

variable {host : Host} (h : host.classes = [])

include h

/-- No standard class reads its values from texts. -/
theorem isDecodable_of_no_classes (t : HostType) : host.isDecodable t = false := by
  have hown : ∀ d a, host.ownAttribute? d "from_text" = some a → a = .standard ∨ a = .value .none := by
    intro d a ha
    rw [ownAttribute?, find?, h] at ha
    dsimp only [List.find?_nil] at ha
    split at ha
    · split_ifs at ha
      · exact .inl (Option.some.inj ha).symm
      · exact .inr (Option.some.inj ha).symm
    · cases ha
  rw [isDecodable]
  cases hattribute : (classOf? t).bind fun c => host.attribute? c "from_text" with
  | none => rfl
  | some a =>
    obtain ⟨c, -, ha⟩ := Option.bind_eq_some_iff.mp hattribute
    obtain ⟨d, -, ha⟩ := List.exists_of_findSome?_eq_some ha
    rcases hown d a ha with rfl | rfl
    · rfl
    · rfl

theorem conversion?_ne_text (t : HostType) : host.conversion? t ≠ some .text := by
  simp only [conversion?, isDecodable_of_no_classes h, Bool.false_eq_true, if_false]
  split_ifs <;> simp

/-- A class that forms are read into is a standard one. -/
theorem standard_of_isStruct {c : ClassId} (hstruct : host.isStruct (.cls c) = true) :
    c = Class.modelBase ∨ c ∈ standardLineages.map (·.1) := by
  have hlineages : host.lineages = standardLineages := by
    rw [lineages, h, List.foldl_nil]
  have hfields : host.dataFields = [] := by
    rw [dataFields, h]
    rfl
  have hmodel : host.isModel c = true := by
    simpa [isStruct, classOf?, dataFields?, hfields] using hstruct
  rw [isModel, descends, lineage, hlineages, lineageAmong] at hmodel
  split at hmodel
  · rename_i line hfind
    have hkey := List.find?_some hfind
    exact .inr (List.mem_map.mpr ⟨_, List.mem_of_find?_eq_some hfind, by simpa using hkey⟩)
  · have hroot : Class.modelBase ≠ Class.root := by decide
    rw [unknownLineage] at hmodel
    split_ifs at hmodel
    · exact .inl (by simpa [eq_comm] using hmodel)
    · have hmem : Class.modelBase = c ∨ Class.modelBase = Class.root := by simpa using hmodel
      exact .inl (hmem.resolve_right hroot).symm

end FragmentRoutes.Host
