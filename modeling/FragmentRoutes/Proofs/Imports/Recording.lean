import FragmentRoutes.Proofs.Imports.Requests

/-!
# Steps that only record

Whatever code is made, the imports are changed by single writes only (`Recording`).  So what is known
of runs of writes holds of the steps of the making, and they keep what was recorded
(`Recording.extends_run`).
-/

namespace FragmentRoutes.Imports

open Code Host

/-- What the step changes in the imports is a run of writes. -/
def Recording {α : Type} (x : Making α) : Prop :=
  ∀ s, ∃ ws : List Write, (x.run s).2 = ws.foldl Write.apply s

section

variable {α β : Type} {x : Making α} {f : α → Making β}

/-- **Recording keeps what was recorded.** -/
theorem Recording.extends_run (h : Recording x) (s : Imports) : s.Extends (x.run s).2 := by
  obtain ⟨ws, hws⟩ := h s
  rw [hws]
  exact extends_foldl s ws

theorem Recording.makes (h : Recording x) (s : Imports) : Makes x s fun _ _ => True :=
  ⟨(h.extends_run s).toGrows, trivial⟩

theorem recording_pure (a : α) : Recording (pure a : Making α) :=
  fun _ => ⟨[], rfl⟩

theorem Recording.bind (h : Recording x) (h' : ∀ a, Recording (f a)) : Recording (x >>= f) := by
  intro s
  obtain ⟨ws, hws⟩ := h s
  obtain ⟨ws', hws'⟩ := h' (x.run s).1 (x.run s).2
  refine ⟨ws ++ ws', ?_⟩
  rw [List.foldl_append, ← hws]
  exact hws'

theorem Recording.ite {y : Making α} {c : Prop} [Decidable c] (h : Recording x)
    (h' : Recording y) : Recording (if c then x else y) := by
  split_ifs
  · exact h
  · exact h'

end

/-! ### Requests -/

theorem recording_reserve (names : List String) :
    Recording (modify (·.reserve names) : Making PUnit) :=
  fun s => ⟨(Request.reserve names).writes, (Request.reserve names).run_snd s⟩

theorem recording_ref (module symbol : String) : Recording (ref module symbol) :=
  fun s => ⟨(Request.symbol ⟨module, symbol⟩).writes, (Request.symbol ⟨module, symbol⟩).run_snd s⟩

theorem recording_moduleExpr (module : String) : Recording (moduleExpr module) :=
  fun s => ⟨(Request.module module).writes, (Request.module module).run_snd s⟩

theorem recording_typeExpr (t : HostType) : Recording (typeExpr t) :=
  fun s => ⟨(Request.type t).writes, (Request.type t).run_snd s⟩

end FragmentRoutes.Imports
