import FragmentRoutes.Code.Layout
import FragmentRoutes.Proofs.Code.Printer
import FragmentRoutes.Proofs.Imports.Statements

/-!
# Statements without returns

A statement is `ReturnFree` if no return stands in a name in it, at any depth, nor in the text that
describes a function or a class, which is not quoted.  Such a statement is written without returns
(`Stmt.ReturnFree.render`).  A module is exactly if its pieces are
(`returnFree_renderModule_iff`).
-/

namespace FragmentRoutes.Code

open Text

/-! ### Statements -/

/-- No return stands in the name of the parameter, nor in its type and default. -/
def Param.ReturnFree : Param → Prop
  | .mk _ id type default => Text.ReturnFree id ∧ (∀ e ∈ type, e.ReturnFree) ∧
    ∀ e ∈ default, e.ReturnFree

/-- The text that describes what statements belong to. -/
def description? : List Stmt → Option String
  | .expr (.constant (.text text)) :: _ => some text
  | _ => none

/-- Only the first statement describes what statements belong to. -/
theorem description?_append {ss ts : List Stmt} (hss : description? ss = none)
    (hts : description? ts = none) : description? (ss ++ ts) = none := by
  cases ss with
  | nil => exact hts
  | cons s ss =>
    rw [← hss]
    cases s with
    | expr value =>
      cases value with
      | constant c => cases c <;> rfl
      | _ => rfl
    | _ => rfl

mutual

/-- No return stands in a name of the statement, at any depth, nor in a text that describes a
function or a class. -/
def Stmt.ReturnFree : Stmt → Prop
  | .expr value => value.ReturnFree
  | .assign target value => target.ReturnFree ∧ value.ReturnFree
  | .typedAssign target type value => target.ReturnFree ∧ type.ReturnFree ∧ value.ReturnFree
  | .ret value => value.ReturnFree
  | .pass => True
  | .ifElse test body otherwise =>
    test.ReturnFree ∧ Stmt.AllReturnFree body ∧ Stmt.AllReturnFree otherwise
  | .attempt body error name handler otherwise =>
    Stmt.AllReturnFree body ∧ error.ReturnFree ∧ (∀ id ∈ name, Text.ReturnFree id) ∧
      Stmt.AllReturnFree handler ∧ Stmt.AllReturnFree otherwise
  | .each target iter body => target.ReturnFree ∧ iter.ReturnFree ∧ Stmt.AllReturnFree body
  | .function _ name params returns body =>
    Text.ReturnFree name ∧ (∀ p ∈ params, p.ReturnFree) ∧ returns.ReturnFree ∧
      Stmt.AllReturnFree body ∧ ∀ text ∈ description? body, Text.ReturnFree text
  | .classDef name bases body =>
    Text.ReturnFree name ∧ (∀ e ∈ bases, e.ReturnFree) ∧
      Stmt.AllReturnFree body ∧ ∀ text ∈ description? body, Text.ReturnFree text
  | .importModule module => Text.ReturnFree module
  | .importFrom module symbols => Text.ReturnFree module ∧
    ∀ entry ∈ symbols, Text.ReturnFree entry.1 ∧ ∀ given ∈ entry.2, Text.ReturnFree given

/-- No return stands in a name of the statements. -/
def Stmt.AllReturnFree : List Stmt → Prop
  | [] => True
  | s :: ss => s.ReturnFree ∧ Stmt.AllReturnFree ss

end

attribute [simp] Stmt.ReturnFree Stmt.AllReturnFree

theorem Stmt.allReturnFree_iff {ss : List Stmt} :
    Stmt.AllReturnFree ss ↔ ∀ s ∈ ss, s.ReturnFree := by
  induction ss with
  | nil => simp
  | cons s ss ih => simp [ih]

@[simp]
theorem Stmt.allReturnFree_append_iff {ss ts : List Stmt} :
    Stmt.AllReturnFree (ss ++ ts) ↔ Stmt.AllReturnFree ss ∧ Stmt.AllReturnFree ts := by
  rw [Stmt.allReturnFree_iff, Stmt.allReturnFree_iff, Stmt.allReturnFree_iff,
    List.forall_mem_append]

@[simp]
theorem Stmt.returnFree_set_iff {name : String} {value : Expr} :
    (Stmt.set name value).ReturnFree ↔ Text.ReturnFree name ∧ value.ReturnFree := by
  simp [Stmt.set]

@[simp]
theorem Stmt.returnFree_setAttribute_iff {owner name : String} {value : Expr} :
    (Stmt.setAttribute owner name value).ReturnFree ↔
      (Text.ReturnFree owner ∧ Text.ReturnFree name) ∧ value.ReturnFree := by
  simp [Stmt.setAttribute]

@[simp]
theorem Stmt.returnFree_when_iff {test : Expr} {body : List Stmt} :
    (Stmt.when test body).ReturnFree ↔ test.ReturnFree ∧ Stmt.AllReturnFree body := by
  simp [Stmt.when]

@[simp]
theorem Param.returnFree_mk_iff {kind : ParamKind} {name : String} {type default : Option Expr} :
    (Param.mk kind name type default).ReturnFree ↔ Text.ReturnFree name ∧
      (∀ e ∈ type, e.ReturnFree) ∧ ∀ e ∈ default, e.ReturnFree := by
  rw [Param.ReturnFree]

@[simp]
theorem Param.returnFree_typed_iff {name : String} {type : Expr} :
    (Param.typed name type).ReturnFree ↔ Text.ReturnFree name ∧ type.ReturnFree := by
  simp [Param.typed]

@[simp]
theorem Param.returnFree_plain_iff {name : String} :
    (Param.plain name).ReturnFree ↔ Text.ReturnFree name := by
  simp [Param.plain]

/-- The names of parameters hold no return, and neither do those of the expressions in them. -/
theorem Param.namesFree {params : List Param} (h : ∀ p ∈ params, p.ReturnFree) :
    (∀ name ∈ params.map Param.name, Text.ReturnFree name) ∧
      NamesFree (Param.subtermsOf params) := by
  have hoptional : ∀ {e : Option Expr}, (∀ e' ∈ e, e'.ReturnFree) →
      NamesFree (Expr.optionalSubterms e) := by
    rintro (_ | e) he
    · exact namesFree_nil
    · exact he e rfl
  induction params with
  | nil => simp [namesFree_nil]
  | cons p params ih =>
    obtain ⟨kind, id, type, default⟩ := p
    obtain ⟨⟨hid, htype, hdefault⟩, hparams⟩ := List.forall_mem_cons.mp h
    rw [List.map_cons, List.forall_mem_cons, Param.subtermsOf, namesFree_append_iff,
      namesFree_append_iff]
    exact ⟨⟨hid, (ih hparams).1⟩, ⟨hoptional htype, hoptional hdefault⟩, (ih hparams).2⟩

theorem returnFree_line {depth : Nat} {text : String} (h : Text.ReturnFree text) :
    Text.ReturnFree (line depth text) := by
  refine Text.ReturnFree.append (returnFree_ofList_iff.mpr fun hmem => ?_) h
  exact absurd (List.eq_of_mem_replicate hmem) (by decide)

theorem Expr.ReturnFree.render {e : Expr} (h : e.ReturnFree) : Text.ReturnFree e.render :=
  h.print _ _

/-- The lines of statements that may open with a description are theirs and that of the
description. -/
theorem mem_describedLines {depth : Nat} {ss : List Stmt} {l : String}
    (h : l ∈ describedLines depth ss) : l ∈ bodyLines depth ss ∨
      ∃ text ∈ description? ss, l = line depth (renderDescription text) := by
  unfold describedLines at h
  split at h
  · rename_i text rest
    rcases List.mem_cons.mp h with rfl | h
    · exact .inr ⟨text, rfl, rfl⟩
    · exact .inl (by rw [bodyLines]; exact List.mem_append_right _ h)
  · exact .inl h

/-- The lines of statements that may open with a description hold no return if theirs and the
description do not. -/
theorem returnFree_describedLines {depth : Nat} {ss : List Stmt}
    (hbody : ∀ l ∈ bodyLines depth ss, Text.ReturnFree l)
    (hdescription : ∀ text ∈ description? ss, Text.ReturnFree text) :
    ∀ l ∈ describedLines depth ss, Text.ReturnFree l := by
  intro l hl
  rcases mem_describedLines hl with hl | ⟨text, htext, rfl⟩
  · exact hbody l hl
  · exact returnFree_line (((returnFree_ofList rfl).append (hdescription text htext)).append
      (returnFree_ofList rfl))

/-- The lines of an alternative hold no return if those of its statements do not. -/
theorem Stmt.AllReturnFree.elseLines {ss : List Stmt} (h : Stmt.AllReturnFree ss)
    (hbody : ∀ depth, ∀ l ∈ bodyLines depth ss, Text.ReturnFree l) (depth : Nat) :
    ∀ l ∈ elseLines depth ss, Text.ReturnFree l := by
  cases ss with
  | nil => simp [Code.elseLines]
  | cons s rest =>
    have helse : ∀ l ∈ line depth "else:" :: bodyLines (depth + 1) (s :: rest),
        Text.ReturnFree l :=
      List.forall_mem_cons.mpr ⟨returnFree_line (returnFree_ofList rfl), hbody _⟩
    unfold Code.elseLines
    split
    · exact fun l hl => absurd hl List.not_mem_nil
    · rename_i test body otherwise heq
      -- a condition that continues another one has the lines of a condition but for the first
      obtain ⟨rfl, rfl⟩ := List.cons.inj heq
      have hlines := hbody depth
      rw [bodyLines, bodyLines, List.append_nil] at hlines
      simp only [Stmt.isDefinition, Bool.false_eq_true, if_false, Stmt.lines,
        List.forall_mem_append, List.forall_mem_cons] at hlines
      rw [Stmt.AllReturnFree, Stmt.ReturnFree] at h
      rw [List.forall_mem_append, List.forall_mem_cons]
      exact ⟨⟨returnFree_line (((returnFree_ofList rfl).append h.1.1.render).append
        (returnFree_ofList rfl)), hlines.1.2⟩, hlines.2⟩
    · rename_i heq
      obtain ⟨rfl, rfl⟩ := List.cons.inj heq
      exact helse

mutual

theorem Stmt.ReturnFree.lines : ∀ {s : Stmt}, s.ReturnFree → ∀ depth,
    ∀ l ∈ s.lines depth, Text.ReturnFree l
  | .expr value, h, depth => by
    rw [Stmt.ReturnFree] at h
    rw [Stmt.lines, List.forall_mem_singleton]
    exact returnFree_line h.render
  | .assign target value, h, depth => by
    rw [Stmt.ReturnFree] at h
    rw [Stmt.lines, List.forall_mem_singleton]
    refine returnFree_line ?_
    simp only [returnFree_append_iff]
    exact ⟨⟨h.1.print _ _, returnFree_ofList rfl⟩, h.2.render⟩
  | .typedAssign target type value, h, depth => by
    rw [Stmt.ReturnFree] at h
    rw [Stmt.lines, List.forall_mem_singleton]
    refine returnFree_line ?_
    simp only [returnFree_append_iff]
    exact ⟨⟨⟨⟨h.1.print _ _, returnFree_ofList rfl⟩, h.2.1.render⟩, returnFree_ofList rfl⟩,
      h.2.2.render⟩
  | .ret value, h, depth => by
    rw [Stmt.ReturnFree] at h
    rw [Stmt.lines, List.forall_mem_singleton]
    exact returnFree_line ((returnFree_ofList rfl).append h.render)
  | .pass, _, depth => by
    rw [Stmt.lines, List.forall_mem_singleton]
    exact returnFree_line (returnFree_ofList rfl)
  | .ifElse test body otherwise, h, depth => by
    rw [Stmt.ReturnFree] at h
    rw [Stmt.lines, List.forall_mem_append, List.forall_mem_cons]
    exact ⟨⟨returnFree_line (((returnFree_ofList rfl).append h.1.render).append
      (returnFree_ofList rfl)), Stmt.AllReturnFree.bodyLines h.2.1 _⟩,
      h.2.2.elseLines (Stmt.AllReturnFree.bodyLines h.2.2) _⟩
  | .attempt body error name handler otherwise, h, depth => by
    rw [Stmt.ReturnFree] at h
    obtain ⟨hbody, herror, hname, hhandler, hotherwise⟩ := h
    have hrest := Stmt.AllReturnFree.bodyLines hotherwise (depth + 1)
    unfold Stmt.lines
    dsimp only
    rw [List.forall_mem_append, List.forall_mem_append, List.forall_mem_cons, List.forall_mem_cons]
    refine ⟨⟨⟨returnFree_line (returnFree_ofList rfl), Stmt.AllReturnFree.bodyLines hbody _⟩,
      returnFree_line ?_, Stmt.AllReturnFree.bodyLines hhandler _⟩, ?_⟩
    · simp only [returnFree_append_iff]
      refine ⟨⟨⟨returnFree_ofList rfl, herror.render⟩, ?_⟩, returnFree_ofList rfl⟩
      split
      · exact (returnFree_ofList rfl).append (hname _ rfl)
      · exact returnFree_empty
    · split_ifs
      · exact fun l hl => absurd hl List.not_mem_nil
      · exact List.forall_mem_cons.mpr ⟨returnFree_line (returnFree_ofList rfl), hrest⟩
  | .each target iter body, h, depth => by
    rw [Stmt.ReturnFree] at h
    rw [Stmt.lines, List.forall_mem_cons]
    refine ⟨returnFree_line ?_, Stmt.AllReturnFree.bodyLines h.2.2 _⟩
    simp only [returnFree_append_iff]
    exact ⟨⟨⟨⟨returnFree_ofList rfl, h.1.print _ _⟩, returnFree_ofList rfl⟩, h.2.1.render⟩,
      returnFree_ofList rfl⟩
  | .function isAsync name params returns body, h, depth => by
    rw [Stmt.ReturnFree] at h
    obtain ⟨hname, hparams, hreturns, hbody, hdescription⟩ := h
    have hparams := Param.namesFree hparams
    rw [Stmt.lines, List.forall_mem_cons]
    refine ⟨returnFree_line ?_,
      returnFree_describedLines (Stmt.AllReturnFree.bodyLines hbody _) hdescription⟩
    simp only [returnFree_append_iff]
    refine ⟨⟨⟨⟨⟨⟨?_, hname⟩, returnFree_ofList rfl⟩, .intercalate (returnFree_ofList rfl)
      (NamesFree.printParams hparams.1 hparams.2 _ _)⟩, returnFree_ofList rfl⟩, hreturns.render⟩,
      returnFree_ofList rfl⟩
    split_ifs
    · exact returnFree_ofList rfl
    · exact returnFree_ofList rfl
  | .classDef name bases body, h, depth => by
    rw [Stmt.ReturnFree] at h
    obtain ⟨hname, hbases, hbody, hdescription⟩ := h
    rw [Stmt.lines, List.forall_mem_cons]
    refine ⟨returnFree_line ?_,
      returnFree_describedLines (Stmt.AllReturnFree.bodyLines hbody _) hdescription⟩
    simp only [returnFree_append_iff]
    refine ⟨⟨⟨returnFree_ofList rfl, hname⟩, ?_⟩, returnFree_ofList rfl⟩
    split_ifs
    · exact returnFree_empty
    · refine ((returnFree_ofList rfl).append (.intercalate (returnFree_ofList rfl) ?_)).append
        (returnFree_ofList rfl)
      exact List.forall_mem_map.mpr fun e he => (hbases e he).render
  | .importModule module, h, depth => by
    rw [Stmt.ReturnFree] at h
    rw [Stmt.lines, List.forall_mem_singleton]
    exact returnFree_line ((returnFree_ofList rfl).append h)
  | .importFrom module symbols, h, depth => by
    rw [Stmt.ReturnFree] at h
    have hsymbols : ∀ s ∈ symbols.map renderSymbol, Text.ReturnFree s := by
      refine List.forall_mem_map.mpr fun entry hentry => ?_
      obtain ⟨symbol, given⟩ := entry
      obtain ⟨hsymbol, hgiven⟩ := h.2 _ hentry
      cases given with
      | none => exact hsymbol
      | some given => exact (hsymbol.append (returnFree_ofList rfl)).append (hgiven given rfl)
    rw [Stmt.lines, List.forall_mem_singleton]
    refine returnFree_line ?_
    simp only [returnFree_append_iff]
    exact ⟨⟨⟨returnFree_ofList rfl, h.1⟩, returnFree_ofList rfl⟩,
      .intercalate (returnFree_ofList rfl) hsymbols⟩

theorem Stmt.AllReturnFree.bodyLines : ∀ {ss : List Stmt}, Stmt.AllReturnFree ss → ∀ depth,
    ∀ l ∈ bodyLines depth ss, Text.ReturnFree l
  | [], _, depth => by simp [Code.bodyLines]
  | s :: ss, h, depth => by
    rw [Stmt.AllReturnFree] at h
    have hlines := Stmt.ReturnFree.lines h.1 depth
    rw [Code.bodyLines, List.forall_mem_append]
    refine ⟨?_, Stmt.AllReturnFree.bodyLines h.2 _⟩
    split_ifs
    · exact List.forall_mem_cons.mpr ⟨returnFree_empty, hlines⟩
    · exact hlines

end

/-- **A statement is written without returns** if no name in it has one. -/
theorem Stmt.ReturnFree.render {s : Stmt} (h : s.ReturnFree) : Text.ReturnFree s.render :=
  .intercalate (returnFree_ofList rfl) (h.lines 0)

/-! ### Modules -/

theorem Piece.returnFree_between (a b : Piece) : ReturnFree (a.between b) := by
  unfold between
  split_ifs
  · exact returnFree_ofList rfl
  · exact returnFree_ofList rfl
  · exact returnFree_ofList rfl

theorem returnFree_renderAfter_iff {previous : Piece} {pieces : List Piece} :
    ReturnFree (renderAfter previous pieces) ↔ ∀ p ∈ pieces, ReturnFree p.render := by
  induction pieces generalizing previous with
  | nil => simp [renderAfter, returnFree_empty]
  | cons p pieces ih => simp [renderAfter, ih, Piece.returnFree_between]

/-- **A module is written without returns** exactly if its first line and its pieces are. -/
theorem returnFree_renderModule_iff {header : String} {pieces : List Piece} :
    ReturnFree (renderModule header pieces) ↔
      ReturnFree header ∧ ∀ p ∈ pieces, ReturnFree p.render := by
  have hend : ReturnFree "\n" := returnFree_ofList rfl
  have hends : ReturnFree "\n\n" := returnFree_ofList rfl
  cases pieces with
  | nil => simp [renderModule, hends]
  | cons p pieces => simp [renderModule, returnFree_renderAfter_iff, hend, hends, and_assoc]

/-- The symbols that a statement imports are written out. -/
theorem returnFree_of_mem_aliases {stmt : Stmt} {owner : Imports.Owner} {name : String}
    (h : ReturnFree stmt.render) (hmem : (owner, name) ∈ stmt.aliases) :
    ReturnFree owner.symbol := by
  cases stmt with
  | importFrom module symbols =>
    obtain ⟨entry, hentry, heq⟩ := List.mem_map.mp hmem
    obtain ⟨rfl, -⟩ := Prod.mk.inj heq
    have hcomma : ReturnFree ", " := returnFree_ofList rfl
    rw [Stmt.render, Stmt.lines, String.intercalate_singleton, line] at h
    simp only [returnFree_append_iff, returnFree_intercalate_iff hcomma] at h
    have hsymbol := h.2.2 _ (List.mem_map_of_mem hentry)
    obtain ⟨symbol, given⟩ := entry
    cases given with
    | none => exact hsymbol
    | some given =>
      rw [renderSymbol] at hsymbol
      simp only [returnFree_append_iff] at hsymbol
      exact hsymbol.1.1
  | _ => cases hmem

end FragmentRoutes.Code
