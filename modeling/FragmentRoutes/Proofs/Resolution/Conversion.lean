import FragmentRoutes.Proofs.Resolution.Typing

/-!
# Converted values are accepted

A text is converted to a class, and a parameter that asks for the conversion accepts values of
that class (`accepts_convertedType`).  The class asks for the same conversion itself
(`conversion?_convertedType`), so it does not matter which of the parameters that take a value is
asked for its type.
-/

namespace FragmentRoutes.Resolution

open Host

/-! ### Classes and members -/

/-- A type that is the class of a standard name is that class. -/
theorem eq_cls_of_isBuiltin {t : HostType} {name : String} (h : t.isBuiltin name = true) :
    t = .cls (.builtin name) := by
  cases t with
  | cls c => rw [HostType.isBuiltin, HostType.isClass, beq_iff_eq] at h; rw [h]
  | _ => simp [HostType.isBuiltin, HostType.isClass] at h

/-- A class is not told apart from the class or the absent value. -/
theorem unwrap_cls (c : ClassId) : (HostType.cls c).unwrap = .cls c := by
  rw [HostType.unwrap]
  rfl

/-- The type without the absent value is the type itself or one of its members. -/
theorem unwrap_eq_or_mem (t : HostType) : t.unwrap = t ∨ t.unwrap ∈ t.members := by
  rw [HostType.unwrap]
  split_ifs with hnone
  · split
    · rename_i m hm
      have hmem : m ∈ t.members.filter fun m => !m.isNoneType := by
        rw [hm]
        exact List.mem_cons_self
      exact Or.inr (List.mem_filter.mp hmem).1
    · exact Or.inl rfl
  · exact Or.inl rfl

/-! ### Accepted values -/

section

variable {host : Host}

/-- What the type without the absent value accepts, the type accepts too. -/
theorem accepts_of_accepts_unwrap {t arg : HostType} (h : host.accepts t.unwrap arg = true) :
    host.accepts t arg = true := by
  rcases unwrap_eq_or_mem t with heq | hmem
  · rwa [heq] at h
  · have hmembers : (!t.members.isEmpty) = true := by
      simpa using List.ne_nil_of_mem hmem
    rw [accepts.eq_def, if_pos hmembers]
    split_ifs
    · rfl
    · rw [List.any_eq_true]
      exact ⟨⟨t.unwrap, hmem⟩, List.mem_attach _ _, h⟩

/-- A class accepts its own values. -/
theorem accepts_cls (host : Host) (c : ClassId) : host.accepts (.cls c) (.cls c) = true := by
  rw [accepts.eq_def]
  simp [HostType.members, HostType.same]

theorem accepts_of_acceptsAll {t : HostType} (h : acceptsAll t = true) (arg : HostType) :
    host.accepts t arg = true := by
  rw [accepts.eq_def, h, Bool.true_or, if_pos rfl]

/-- A parameter that takes texts as they are accepts texts. -/
theorem accepts_str {t : HostType} (h : host.conversion? t = some .str) :
    host.accepts t HostType.str = true := by
  refine accepts_of_accepts_unwrap ?_
  rw [conversion?] at h
  split_ifs at h with hbool hint hfloat hstr htext
  · cases h
  · cases h
  · cases h
  · rw [Bool.or_eq_true, Bool.or_eq_true] at hstr
    rcases hstr with (hstr | hany) | hobject
    · rw [show t.unwrap = HostType.str from eq_cls_of_isBuiltin hstr]
      exact accepts_cls host _
    · refine accepts_of_acceptsAll ?_ _
      cases ht : t.unwrap with
      | any => rfl
      | _ => rw [ht] at hany; cases hany
    · rw [eq_cls_of_isBuiltin hobject]
      exact accepts_of_acceptsAll rfl _
  · cases h

/-- **A parameter accepts what a text is converted to for it.** -/
theorem accepts_convertedType {t : HostType} {kind : Conversion}
    (h : host.conversion? t = some kind) : host.accepts t (convertedType kind t) = true := by
  by_cases hstr : kind = .str
  · rw [convertedType, if_pos hstr]
    exact accepts_str (hstr ▸ h)
  · obtain ⟨c, hc⟩ := exists_cls_convertedType h
    rw [convertedType, if_neg hstr] at hc ⊢
    refine accepts_of_accepts_unwrap ?_
    rw [hc]
    exact accepts_cls host c

/-- **What a text is converted to asks for the same conversion.** -/
theorem conversion?_convertedType {t : HostType} {kind : Conversion}
    (h : host.conversion? t = some kind) : host.conversion? (convertedType kind t) = some kind := by
  by_cases hstr : kind = .str
  · rw [convertedType, if_pos hstr, hstr]
    rfl
  · obtain ⟨c, hc⟩ := exists_cls_convertedType h
    rw [convertedType, if_neg hstr] at hc ⊢
    rw [conversion?] at h ⊢
    rwa [hc, unwrap_cls, ← hc]

end

end FragmentRoutes.Resolution
