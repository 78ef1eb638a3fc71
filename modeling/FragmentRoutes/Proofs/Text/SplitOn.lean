import Mathlib.Data.String.Basic

/-!
# Splitting texts at a character

A text that is split at a character is cut where the character stands (`splitOn_eq`), so that no part
has it (`notMem_of_mem_splitOn`), and the parts put together again are the text
(`intercalate_splitOn`).  A text in which it does not stand is one part.
-/

namespace FragmentRoutes.Text

open String in
/-- A text is cut on from what was read of a part. -/
theorem splitOnAux_eq (c : Char) (done part rest : List Char) (parts : List String) :
    splitOnAux (ofList (done ++ part ++ rest)) (singleton c) ⟨utf8Len done⟩
        ⟨utf8Len (done ++ part)⟩ 0 parts =
      parts.reverse ++ (rest.splitOnPPrepend (· == c) part.reverse).map ofList := by
  have hextract : Pos.Raw.extract (ofList (done ++ part ++ rest)) ⟨utf8Len done⟩
      ⟨utf8Len (done ++ part)⟩ = ofList part := by
    rw [utf8Len_append]
    exact extract_of_valid done part rest
  induction rest generalizing done part parts with
  | nil =>
    have hend : Pos.Raw.atEnd (ofList (done ++ part ++ [])) ⟨utf8Len (done ++ part)⟩ = true :=
      (atEnd_of_valid (done ++ part) []).mpr rfl
    rw [splitOnAux, if_pos hend, hextract, List.splitOnPPrepend_nil]
    simp
  | cons d rest ih =>
    have hend : ¬Pos.Raw.atEnd (ofList (done ++ part ++ d :: rest)) ⟨utf8Len (done ++ part)⟩ =
        true := by
      rw [atEnd_of_valid]
      exact List.cons_ne_nil d rest
    have hget : Pos.Raw.get (ofList (done ++ part ++ d :: rest)) ⟨utf8Len (done ++ part)⟩ = d :=
      get_of_valid (done ++ part) (d :: rest)
    have hseparator : Pos.Raw.get (singleton c) 0 = c := by
      rw [singleton_eq_ofList]
      exact get_of_valid [] [c]
    have hnext : Pos.Raw.next (ofList (done ++ part ++ d :: rest)) ⟨utf8Len (done ++ part)⟩ =
        ⟨utf8Len (done ++ part ++ [d])⟩ := by
      rw [next_of_valid]
      simp [Nat.add_assoc]
    have hsplit : done ++ part ++ d :: rest = done ++ (part ++ [d]) ++ rest := by simp
    rw [splitOnAux, if_neg hend, hget, hseparator, List.splitOnPPrepend_cons_eq_if]
    by_cases hd : (d == c) = true
    · have hpast : Pos.Raw.next (singleton c) 0 = ⟨utf8Len [c]⟩ := by
        rw [singleton_eq_ofList]
        exact next_of_valid [] c []
      have hwhole : Pos.Raw.atEnd (singleton c) ⟨utf8Len [c]⟩ = true := by
        rw [singleton_eq_ofList]
        exact (atEnd_of_valid [c] []).mpr rfl
      have hback : (⟨utf8Len (done ++ part ++ [d])⟩ : Pos.Raw).unoffsetBy ⟨utf8Len [c]⟩ =
          ⟨utf8Len (done ++ part)⟩ := by
        rw [eq_of_beq hd]
        simp [Pos.Raw.unoffsetBy, ← Nat.add_assoc]
      have hfresh := ih (done ++ part ++ [d]) [] (ofList part :: parts)
      have hall : done ++ part ++ [d] ++ [] ++ rest = done ++ part ++ d :: rest := by simp
      rw [hall, List.append_nil] at hfresh
      rw [if_pos hd, if_pos hd, hpast, if_pos hwhole, hnext, hback, hextract, hfresh ?_]
      · simp
      · rw [← hall]
        simpa using extract_of_valid (done ++ part ++ [d]) [] rest
    · have hshift : (⟨utf8Len (done ++ part)⟩ : Pos.Raw).unoffsetBy 0 = ⟨utf8Len (done ++ part)⟩ :=
        rfl
      have hlonger := ih done (part ++ [d]) parts
      rw [← hsplit, ← List.append_assoc] at hlonger
      rw [if_neg hd, if_neg hd, hshift, hnext, hlonger ?_]
      · simp
      · have h := extract_of_valid done (part ++ [d]) rest
        rw [← utf8Len_append, ← hsplit, ← List.append_assoc] at h
        exact h

/-- **A text split at a character** is its characters split there. -/
theorem splitOn_eq {s separator : String} {c : Char} (hseparator : separator.toList = [c]) :
    s.splitOn separator = (s.toList.splitOn c).map String.ofList := by
  obtain rfl : separator = String.singleton c := by
    rw [String.singleton_eq_ofList, ← hseparator, String.ofList_toList]
  have hne : (String.singleton c == "") = false := by simp
  rw [String.splitOn, hne, if_neg Bool.false_ne_true]
  have hall := splitOnAux_eq c [] [] s.toList []
  rw [List.nil_append, List.nil_append, String.ofList_toList] at hall
  exact hall

/-- No part has the character at which the text is split. -/
theorem notMem_of_mem_splitOn {cs part : List Char} {c : Char} (h : part ∈ cs.splitOn c) :
    c ∉ part := by
  induction cs generalizing part with
  | nil =>
    rw [List.splitOn_nil] at h
    obtain rfl := List.mem_singleton.mp h
    exact List.not_mem_nil
  | cons d cs ih =>
    rw [List.splitOn_cons_eq_if_modifyHead] at h
    split_ifs at h with hd
    · rcases List.mem_cons.mp h with rfl | h
      · exact List.not_mem_nil
      · exact ih h
    · obtain ⟨first, rest, hparts⟩ := List.exists_cons_of_ne_nil (List.splitOn_ne_nil c cs)
      rw [hparts] at h ih
      rcases List.mem_cons.mp h with rfl | h
      · rw [List.mem_cons, not_or]
        exact ⟨fun heq => hd (beq_iff_eq.mpr heq.symm), ih List.mem_cons_self⟩
      · exact ih (List.mem_cons_of_mem _ h)

/-- The parts of a text, put together again. -/
theorem intercalate_splitOn {s separator : String} {c : Char} (hseparator : separator.toList = [c]) :
    separator.intercalate (s.splitOn separator) = s := by
  rw [splitOn_eq hseparator, ← String.toList_inj, String.toList_intercalate, hseparator,
    List.map_map]
  simp

/-- **A text in which the separator cannot start** is one part. -/
theorem splitOn_of_notMem {s separator : String} {c : Char} {cs : List Char}
    (hseparator : separator.toList = c :: cs) (h : c ∉ s.toList) : s.splitOn separator = [s] := by
  obtain rfl : separator = String.ofList (c :: cs) := by rw [← hseparator, String.ofList_toList]
  have haux : ∀ done rest : List Char, c ∉ rest → String.splitOnAux (String.ofList (done ++ rest))
      (String.ofList (c :: cs)) 0 ⟨String.utf8Len done⟩ 0 [] = [String.ofList (done ++ rest)] := by
    intro done rest
    induction rest generalizing done with
    | nil =>
      intro _
      have hend : String.Pos.Raw.atEnd (String.ofList (done ++ [])) ⟨String.utf8Len done⟩ = true :=
        (String.atEnd_of_valid done []).mpr rfl
      have hextract : String.Pos.Raw.extract (String.ofList (done ++ [])) 0
          ⟨String.utf8Len done⟩ = String.ofList done := by
        simpa using String.extract_of_valid [] done []
      rw [String.splitOnAux, if_pos hend, hextract, List.append_nil]
      rfl
    | cons d rest ih =>
      intro hrest
      obtain ⟨hd, hrest⟩ := List.ne_and_not_mem_of_not_mem_cons hrest
      have hend : ¬String.Pos.Raw.atEnd (String.ofList (done ++ d :: rest))
          ⟨String.utf8Len done⟩ = true := by
        rw [String.atEnd_of_valid]
        exact List.cons_ne_nil d rest
      have hget : String.Pos.Raw.get (String.ofList (done ++ d :: rest)) ⟨String.utf8Len done⟩ = d :=
        String.get_of_valid done (d :: rest)
      have hfirst : String.Pos.Raw.get (String.ofList (c :: cs)) 0 = c :=
        String.get_of_valid [] (c :: cs)
      have hshift : (⟨String.utf8Len done⟩ : String.Pos.Raw).unoffsetBy 0 =
          ⟨String.utf8Len done⟩ := rfl
      have hnext : String.Pos.Raw.next (String.ofList (done ++ d :: rest)) ⟨String.utf8Len done⟩ =
          ⟨String.utf8Len (done ++ [d])⟩ := by
        rw [String.next_of_valid]
        simp
      have hlonger := ih (done ++ [d]) hrest
      rw [List.append_assoc, List.singleton_append] at hlonger
      rw [String.splitOnAux, if_neg hend, hget, hfirst, if_neg (by simpa using hd.symm), hshift,
        hnext, hlonger]
  have hne : (String.ofList (c :: cs) == "") = false := by simp
  have hall := haux [] s.toList h
  rw [List.nil_append, String.ofList_toList] at hall
  rw [String.splitOn, hne, if_neg Bool.false_ne_true]
  exact hall

end FragmentRoutes.Text
