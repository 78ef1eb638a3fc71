import FragmentRoutes.Code.Printer
import FragmentRoutes.Proofs.Code.Subterms
import FragmentRoutes.Proofs.Text.ReturnFree
import Mathlib.Tactic.Tauto

/-!
# Expressions without returns

Texts in code are quoted, and quoting escapes returns.  What is not quoted are names: an expression
is `ReturnFree` if no return stands in a name in it, at any depth.  Such an expression is written
without returns (`Expr.ReturnFree.print`).
-/

namespace FragmentRoutes.Code

open Text

/-! ### Quoted texts -/

theorem return_notMem_escapeText (layout : Bool) (c : Char) : '\r' ∉ escapeText layout c := by
  unfold escapeText
  split_ifs with hkept _ _ hreturn
  · rintro h
    obtain rfl := List.mem_singleton.mp h
    simp at hkept
  · decide
  · decide
  · decide
  · decide
  · exact return_notMem_escapeCode c
  · exact fun h => hreturn (beq_iff_eq.mpr (List.mem_singleton.mp h).symm)

/-- No return stands in a piece that is quoted, nor in the quotes that are left for it. -/
theorem return_notMem_quotable {kinds : List (List Char)} (hkinds : ∀ k ∈ kinds, '\r' ∉ k)
    (layout : Bool) (cs : List Char) :
    '\r' ∉ (quotable kinds layout cs).1 ∧ ∀ k ∈ (quotable kinds layout cs).2, '\r' ∉ k := by
  have hescaped : '\r' ∉ cs.flatMap (escapeText layout) := by
    simp [return_notMem_escapeText]
  have hquoted := return_notMem_quoteChars cs
  have hkept : ∀ k ∈ (if (cs.flatMap (escapeText layout)).contains '\n' then
      kinds.filter (3 ≤ ·.length) else kinds), '\r' ∉ k := by
    split_ifs
    · exact fun k hk => hkinds k (List.mem_of_mem_filter hk)
    · exact hkinds
  rw [quotable]
  dsimp only
  split
  · refine ⟨fun h => hquoted ?_, ?_⟩
    · exact List.mem_of_mem_drop ((List.dropLast_sublist _).subset h)
    · rw [List.forall_mem_singleton]
      cases hfind : kinds.find? fun k => ((quoteChars cs).take 1).isPrefixOf k with
      | none => exact fun h => hquoted (List.mem_of_mem_take h)
      | some k => exact hkinds k (List.mem_of_find?_eq_some hfind)
  · rename_i k ks heq _
    exact ⟨hescaped, fun j hj => hkept j (List.mem_of_mem_filter (heq.symm ▸ hj))⟩
  · rename_i k ks last heq hlast
    have hlast : '\r' ≠ last := by
      rintro rfl
      exact hescaped (List.mem_of_getLast? hlast)
    have hsorted : ∀ j ∈ (k :: ks).filter (·.head? != some last) ++
        (k :: ks).filter (·.head? == some last), '\r' ∉ j := by
      intro j hj
      have hmem : j ∈ k :: ks := by
        rcases List.mem_append.mp hj with hj | hj
        · exact List.mem_of_mem_filter hj
        · exact List.mem_of_mem_filter hj
      exact hkept j (List.mem_of_mem_filter (heq.symm ▸ hmem))
    split_ifs
    · refine ⟨?_, hsorted⟩
      simpa [hlast] using fun h => hescaped ((List.dropLast_sublist _).subset h)
    · exact ⟨hescaped, hsorted⟩

theorem return_notMem_quoteKinds : ∀ k ∈ quoteKinds, '\r' ∉ k := by
  decide

theorem return_notMem_mark {kinds : List (List Char)} (hkinds : ∀ k ∈ kinds, '\r' ∉ k) :
    '\r' ∉ kinds.head?.getD ['\''] := by
  cases kinds with
  | nil => decide
  | cons k kinds => exact hkinds k List.mem_cons_self

theorem returnFree_quotePlain (cs : List Char) : ReturnFree (quotePlain cs) := by
  obtain ⟨hwritten, hkinds⟩ := return_notMem_quotable return_notMem_quoteKinds true cs
  have hmark := return_notMem_mark hkinds
  refine returnFree_ofList_iff.mpr ?_
  simp only [List.mem_append, not_or]
  exact ⟨⟨hmark, hwritten⟩, hmark⟩

theorem returnFree_quotePieces (pieces : List (Bool × List Char)) :
    ReturnFree (quotePieces pieces) := by
  have hfold : ∀ (pieces : List (Bool × List Char)) (acc : List Char × List (List Char)),
      ('\r' ∉ acc.1 ∧ ∀ k ∈ acc.2, '\r' ∉ k) →
      '\r' ∉ (pieces.foldl (fun acc piece => (acc.1 ++ (quotable acc.2 (!piece.1) piece.2).1,
          (quotable acc.2 (!piece.1) piece.2).2)) acc).1 ∧
        ∀ k ∈ (pieces.foldl (fun acc piece => (acc.1 ++ (quotable acc.2 (!piece.1) piece.2).1,
          (quotable acc.2 (!piece.1) piece.2).2)) acc).2, '\r' ∉ k := by
    intro pieces
    induction pieces with
    | nil => exact fun _ h => h
    | cons piece pieces ih =>
      rintro acc ⟨hwritten, hkinds⟩
      obtain ⟨hmore, hleft⟩ := return_notMem_quotable hkinds (!piece.1) piece.2
      exact ih _ ⟨by simp [hwritten, hmore], hleft⟩
  obtain ⟨hwritten, hkinds⟩ := hfold pieces ([], quoteKinds)
    ⟨List.not_mem_nil, return_notMem_quoteKinds⟩
  have hmark := return_notMem_mark hkinds
  refine returnFree_ofList_iff.mpr ?_
  simp only [List.mem_append, not_or]
  exact ⟨⟨hmark, hwritten⟩, hmark⟩

theorem returnFree_quoteCodes (ns : List Nat) : ReturnFree (quoteCodes ns) := by
  have hmark := quoteMark_ne_return (ns.map Char.ofNat)
  refine returnFree_ofList_iff.mpr ?_
  simp only [List.mem_cons, List.mem_append, List.mem_flatMap, List.not_mem_nil, or_false, not_or,
    not_exists, not_and]
  refine ⟨hmark.symm, fun n _ => ?_, hmark.symm⟩
  split_ifs
  · simp [return_notMem_hexDigits]
  · exact return_notMem_quoteChar hmark _

/-- **A constant is written without returns.** -/
theorem Constant.returnFree_render (value : Constant) : ReturnFree value.render := by
  have hinfinity : ReturnFree infinityText := returnFree_ofList rfl
  have hreal : ∀ fraction x, ReturnFree (realText fraction x) := by
    intro fraction x
    cases x with
    | nan =>
      simp only [realText, returnFree_append_iff]
      exact ⟨⟨⟨⟨returnFree_ofList rfl, hinfinity⟩, returnFree_ofList rfl⟩, hinfinity⟩,
        returnFree_ofList rfl⟩
    | infinite negative =>
      cases negative with
      | true => exact .append (returnFree_ofList rfl) hinfinity
      | false => exact .append returnFree_empty hinfinity
    | finite negative m e => exact Numeral.Double.returnFree_render fraction _
  cases value with
  | none => exact returnFree_ofList rfl
  | bool value =>
    cases value with
    | true => exact returnFree_ofList rfl
    | false => exact returnFree_ofList rfl
  | ellipsis => exact returnFree_ofList rfl
  | int n => exact returnFree_toString_int n
  | real x => exact hreal true x
  | imaginary x => exact (hreal false x).append (returnFree_ofList rfl)
  | text s => exact returnFree_quote s
  | markedText s => exact (returnFree_ofList rfl).append (returnFree_quote s)
  | codes ns => exact returnFree_quoteCodes ns
  | bytes bs => exact returnFree_quoteBytes bs

/-! ### Expressions -/

/-- The name of a parameter. -/
def Param.name : Param → String
  | .mk _ id _ _ => id

/-- The names that an expression writes itself, outside of the expressions in it. -/
def Expr.ownNames : Expr → List String
  | .name id => [id]
  | .attribute _ id => [id]
  | .call _ _ keywords => keywords.filterMap Prod.fst
  | .lambda params _ => params.map Param.name
  | .binding id _ => [id]
  | _ => []

/-- No return stands in a name that the expressions write. -/
def NamesFree (es : List Expr) : Prop :=
  ∀ e ∈ es, ∀ name ∈ e.ownNames, Text.ReturnFree name

/-- No return stands in a name of the expression, at any depth. -/
def Expr.ReturnFree (e : Expr) : Prop :=
  NamesFree e.subterms

theorem namesFree_nil : NamesFree [] :=
  fun _ h => absurd h List.not_mem_nil

theorem namesFree_cons_iff {e : Expr} {es : List Expr} :
    NamesFree (e :: es) ↔ (∀ name ∈ e.ownNames, Text.ReturnFree name) ∧ NamesFree es :=
  List.forall_mem_cons

theorem namesFree_append_iff {es es' : List Expr} :
    NamesFree (es ++ es') ↔ NamesFree es ∧ NamesFree es' :=
  List.forall_mem_append

theorem namesFree_subtermsOf_iff {es : List Expr} :
    NamesFree (Expr.subtermsOf es) ↔ ∀ e ∈ es, e.ReturnFree := by
  induction es with
  | nil => simp [Expr.subtermsOf, namesFree_nil]
  | cons e es ih => simp [Expr.subtermsOf, namesFree_append_iff, ih, Expr.ReturnFree]

theorem returnFree_parenthesize {place own : Level} {s : String} (h : Text.ReturnFree s) :
    Text.ReturnFree (parenthesize place own s) := by
  unfold parenthesize
  split_ifs
  · exact ((returnFree_ofList rfl).append h).append (returnFree_ofList rfl)
  · exact h

theorem returnFree_withCommas {parts : List String} (h : ∀ s ∈ parts, Text.ReturnFree s) :
    Text.ReturnFree (withCommas parts) := by
  unfold withCommas
  split
  · exact (h _ List.mem_cons_self).append (returnFree_ofList rfl)
  · exact .intercalate (returnFree_ofList rfl) h

theorem UnaryOp.returnFree_render (op : UnaryOp) : Text.ReturnFree op.render := by
  cases op <;> exact returnFree_ofList rfl

theorem BinaryOp.returnFree_render (op : BinaryOp) : Text.ReturnFree op.render := by
  cases op <;> exact returnFree_ofList rfl

theorem BoolOp.returnFree_render (op : BoolOp) : Text.ReturnFree op.render := by
  cases op <;> exact returnFree_ofList rfl

theorem CompareOp.returnFree_render (op : CompareOp) : Text.ReturnFree op.render := by
  cases op <;> exact returnFree_ofList rfl

theorem returnFree_constant (value : Constant) (inner : Bool) (place : Level) :
    Text.ReturnFree ((Expr.constant value).print inner place) := by
  cases value with
  | text s =>
    rw [Expr.print]
    split_ifs
    · exact returnFree_quotePlain _
    · exact returnFree_quote s
  | markedText s =>
    rw [Expr.print]
    split_ifs
    · exact (returnFree_ofList rfl).append (returnFree_quotePlain _)
    · exact (returnFree_ofList rfl).append (returnFree_quote s)
  | _ =>
    rw [Expr.print]
    · exact Constant.returnFree_render _
    all_goals simp

mutual

/-- **An expression is written without returns** if its names are. -/
theorem Expr.ReturnFree.print : ∀ {e : Expr}, e.ReturnFree → ∀ (inner : Bool) (place : Level),
    Text.ReturnFree (e.print inner place)
  | .name id, h, inner, place => by
    rw [Expr.ReturnFree, Expr.subterms, namesFree_cons_iff, Expr.ownNames] at h
    rw [Expr.print]
    exact h.1 id List.mem_cons_self
  | .constant value, _, inner, place => returnFree_constant value inner place
  | .attribute value name, h, inner, place => by
    rw [Expr.ReturnFree, Expr.subterms, namesFree_cons_iff, Expr.ownNames] at h
    unfold Expr.print
    simp only [returnFree_append_iff]
    refine ⟨⟨⟨Expr.ReturnFree.print h.2 _ _, ?_⟩, returnFree_ofList rfl⟩, h.1 _ List.mem_cons_self⟩
    split
    · exact returnFree_ofList rfl
    · exact returnFree_ofList rfl
    · exact returnFree_ofList rfl
  | .subscript value index, h, inner, place => by
    simp only [Expr.ReturnFree, Expr.subterms, namesFree_cons_iff, namesFree_append_iff] at h
    unfold Expr.print
    simp only [returnFree_append_iff]
    have hindex := Expr.ReturnFree.print h.2.2 inner
    refine ⟨⟨⟨Expr.ReturnFree.print h.2.1 _ _, returnFree_ofList rfl⟩, ?_⟩, returnFree_ofList rfl⟩
    split
    · -- a tuple stands in brackets as it does where nothing binds
      have hloose := hindex 0
      rw [Expr.print, if_neg (by simp)] at hloose
      exact hloose
    · exact hindex _
  | .call callee args keywords, h, inner, place => by
    simp only [Expr.ReturnFree, Expr.subterms, namesFree_cons_iff, namesFree_append_iff,
      Expr.ownNames] at h
    rw [Expr.print]
    simp only [returnFree_append_iff]
    refine ⟨⟨⟨Expr.ReturnFree.print h.2.1.1 _ _, returnFree_ofList rfl⟩,
      .intercalate (returnFree_ofList rfl) ?_⟩, returnFree_ofList rfl⟩
    exact List.forall_mem_append.mpr
      ⟨NamesFree.printItems h.2.1.2 _ _, NamesFree.printKeywords h.1 h.2.2 _⟩
  | .starred value, h, inner, place => by
    rw [Expr.ReturnFree, Expr.subterms, namesFree_cons_iff] at h
    rw [Expr.print]
    exact (returnFree_ofList rfl).append (Expr.ReturnFree.print h.2 _ _)
  | .unary op operand, h, inner, place => by
    rw [Expr.ReturnFree, Expr.subterms, namesFree_cons_iff] at h
    rw [Expr.print]
    exact returnFree_parenthesize (op.returnFree_render.append (Expr.ReturnFree.print h.2 _ _))
  | .binary left op right, h, inner, place => by
    simp only [Expr.ReturnFree, Expr.subterms, namesFree_cons_iff, namesFree_append_iff] at h
    rw [Expr.print]
    refine returnFree_parenthesize ?_
    simp only [returnFree_append_iff]
    exact ⟨⟨⟨⟨Expr.ReturnFree.print h.2.1 _ _, returnFree_ofList rfl⟩, op.returnFree_render⟩,
      returnFree_ofList rfl⟩, Expr.ReturnFree.print h.2.2 _ _⟩
  | .boolean op operands, h, inner, place => by
    rw [Expr.ReturnFree, Expr.subterms, namesFree_cons_iff] at h
    rw [Expr.print]
    refine returnFree_parenthesize (.intercalate ?_ (NamesFree.printRising h.2 _ _))
    exact ((returnFree_ofList rfl).append op.returnFree_render).append (returnFree_ofList rfl)
  | .compare first rest, h, inner, place => by
    simp only [Expr.ReturnFree, Expr.subterms, namesFree_cons_iff, namesFree_append_iff] at h
    rw [Expr.print]
    exact returnFree_parenthesize
      ((Expr.ReturnFree.print h.2.1 _ _).append (NamesFree.printComparisons h.2.2 _))
  | .conditional test body otherwise, h, inner, place => by
    simp only [Expr.ReturnFree, Expr.subterms, namesFree_cons_iff, namesFree_append_iff] at h
    rw [Expr.print]
    refine returnFree_parenthesize ?_
    simp only [returnFree_append_iff]
    exact ⟨⟨⟨⟨Expr.ReturnFree.print h.2.1.2 _ _, returnFree_ofList rfl⟩,
      Expr.ReturnFree.print h.2.1.1 _ _⟩, returnFree_ofList rfl⟩, Expr.ReturnFree.print h.2.2 _ _⟩
  | .lambda params body, h, inner, place => by
    simp only [Expr.ReturnFree, Expr.subterms, namesFree_cons_iff, namesFree_append_iff,
      Expr.ownNames] at h
    rw [Expr.print]
    refine returnFree_parenthesize ?_
    simp only [returnFree_append_iff]
    refine ⟨⟨⟨⟨returnFree_ofList rfl, ?_⟩, .intercalate (returnFree_ofList rfl)
      (NamesFree.printParams h.1 h.2.1 _ _)⟩, returnFree_ofList rfl⟩, Expr.ReturnFree.print h.2.2 _ _⟩
    split_ifs
    · exact returnFree_empty
    · exact returnFree_ofList rfl
  | .tuple items, h, inner, place => by
    rw [Expr.ReturnFree, Expr.subterms, namesFree_cons_iff] at h
    rw [Expr.print]
    split_ifs
    · exact returnFree_ofList rfl
    · exact returnFree_parenthesize (returnFree_withCommas (NamesFree.printItems h.2 _ _))
  | .list items, h, inner, place => by
    rw [Expr.ReturnFree, Expr.subterms, namesFree_cons_iff] at h
    rw [Expr.print]
    exact ((returnFree_ofList rfl).append (.intercalate (returnFree_ofList rfl)
      (NamesFree.printItems h.2 _ _))).append (returnFree_ofList rfl)
  | .set items, h, inner, place => by
    rw [Expr.ReturnFree, Expr.subterms, namesFree_cons_iff] at h
    rw [Expr.print]
    split_ifs
    · exact returnFree_ofList rfl
    · exact ((returnFree_ofList rfl).append (.intercalate (returnFree_ofList rfl)
        (NamesFree.printItems h.2 _ _))).append (returnFree_ofList rfl)
  | .dict items, h, inner, place => by
    rw [Expr.ReturnFree, Expr.subterms, namesFree_cons_iff] at h
    rw [Expr.print]
    exact ((returnFree_ofList rfl).append (.intercalate (returnFree_ofList rfl)
      (NamesFree.printPairs h.2 _))).append (returnFree_ofList rfl)
  | .listOf element clauses, h, inner, place => by
    simp only [Expr.ReturnFree, Expr.subterms, namesFree_cons_iff, namesFree_append_iff] at h
    rw [Expr.print]
    simp only [returnFree_append_iff]
    exact ⟨⟨⟨returnFree_ofList rfl, Expr.ReturnFree.print h.2.1 _ _⟩,
      NamesFree.printClauses h.2.2 _⟩, returnFree_ofList rfl⟩
  | .setOf element clauses, h, inner, place => by
    simp only [Expr.ReturnFree, Expr.subterms, namesFree_cons_iff, namesFree_append_iff] at h
    rw [Expr.print]
    simp only [returnFree_append_iff]
    exact ⟨⟨⟨returnFree_ofList rfl, Expr.ReturnFree.print h.2.1 _ _⟩,
      NamesFree.printClauses h.2.2 _⟩, returnFree_ofList rfl⟩
  | .generator element clauses, h, inner, place => by
    simp only [Expr.ReturnFree, Expr.subterms, namesFree_cons_iff, namesFree_append_iff] at h
    rw [Expr.print]
    simp only [returnFree_append_iff]
    exact ⟨⟨⟨returnFree_ofList rfl, Expr.ReturnFree.print h.2.1 _ _⟩,
      NamesFree.printClauses h.2.2 _⟩, returnFree_ofList rfl⟩
  | .dictOf key value clauses, h, inner, place => by
    simp only [Expr.ReturnFree, Expr.subterms, namesFree_cons_iff, namesFree_append_iff] at h
    rw [Expr.print]
    simp only [returnFree_append_iff]
    exact ⟨⟨⟨⟨⟨returnFree_ofList rfl, Expr.ReturnFree.print h.2.1.1 _ _⟩, returnFree_ofList rfl⟩,
      Expr.ReturnFree.print h.2.1.2 _ _⟩, NamesFree.printClauses h.2.2 _⟩, returnFree_ofList rfl⟩
  | .await value, h, inner, place => by
    rw [Expr.ReturnFree, Expr.subterms, namesFree_cons_iff] at h
    rw [Expr.print]
    exact returnFree_parenthesize ((returnFree_ofList rfl).append (Expr.ReturnFree.print h.2 _ _))
  | .yield none, _, inner, place => by
    rw [Expr.print]
    exact returnFree_parenthesize (returnFree_ofList rfl)
  | .yield (some value), h, inner, place => by
    rw [Expr.ReturnFree, Expr.subterms, namesFree_cons_iff, Expr.optionalSubterms] at h
    rw [Expr.print]
    exact returnFree_parenthesize ((returnFree_ofList rfl).append (Expr.ReturnFree.print h.2 _ _))
  | .yieldFrom value, h, inner, place => by
    rw [Expr.ReturnFree, Expr.subterms, namesFree_cons_iff] at h
    rw [Expr.print]
    exact returnFree_parenthesize ((returnFree_ofList rfl).append (Expr.ReturnFree.print h.2 _ _))
  | .binding name value, h, inner, place => by
    rw [Expr.ReturnFree, Expr.subterms, namesFree_cons_iff, Expr.ownNames] at h
    rw [Expr.print]
    exact returnFree_parenthesize (((h.1 _ List.mem_cons_self).append (returnFree_ofList rfl)).append
      (Expr.ReturnFree.print h.2 _ _))
  | .template parts, _, inner, place => by
    -- a text with values in it is quoted as a whole
    rw [Expr.print]
    split_ifs
    · exact (returnFree_ofList rfl).append (returnFree_quotePlain _)
    · exact (returnFree_ofList rfl).append (returnFree_quotePieces _)
  | .slice lower upper step, h, inner, place => by
    simp only [Expr.ReturnFree, Expr.subterms, namesFree_cons_iff, namesFree_append_iff] at h
    rw [Expr.print]
    simp only [returnFree_append_iff]
    exact ⟨⟨⟨NamesFree.printOptional h.2.1.1 _ returnFree_empty, returnFree_ofList rfl⟩,
      NamesFree.printOptional h.2.1.2 _ returnFree_empty⟩,
      NamesFree.printOptional h.2.2 _ (returnFree_ofList rfl)⟩

theorem NamesFree.printItems : ∀ {es : List Expr}, NamesFree (Expr.subtermsOf es) →
    ∀ (inner : Bool) (place : Level), ∀ s ∈ printItems inner place es, Text.ReturnFree s
  | [], _, inner, place => by simp [Code.printItems]
  | e :: es, h, inner, place => by
    rw [Expr.subtermsOf, namesFree_append_iff] at h
    rw [Code.printItems, List.forall_mem_cons]
    exact ⟨Expr.ReturnFree.print h.1 _ _, NamesFree.printItems h.2 _ _⟩

theorem NamesFree.printRising : ∀ {es : List Expr}, NamesFree (Expr.subtermsOf es) →
    ∀ (inner : Bool) (place : Level), ∀ s ∈ printRising inner place es, Text.ReturnFree s
  | [], _, inner, place => by simp [Code.printRising]
  | e :: es, h, inner, place => by
    rw [Expr.subtermsOf, namesFree_append_iff] at h
    rw [Code.printRising, List.forall_mem_cons]
    exact ⟨Expr.ReturnFree.print h.1 _ _, NamesFree.printRising h.2 _ _⟩

theorem NamesFree.printOptional : ∀ {e : Option Expr}, NamesFree (Expr.optionalSubterms e) →
    ∀ (inner : Bool) {front : String}, Text.ReturnFree front →
      Text.ReturnFree (printOptional inner front e)
  | none, _, inner, front, _ => by
    rw [Code.printOptional]
    exact returnFree_empty
  | some e, h, inner, front, hfront => by
    rw [Expr.optionalSubterms] at h
    rw [Code.printOptional]
    exact hfront.append (Expr.ReturnFree.print h _ _)

theorem NamesFree.printKeywords : ∀ {keywords : List (Option String × Expr)},
    (∀ name ∈ keywords.filterMap Prod.fst, Text.ReturnFree name) →
      NamesFree (Expr.keywordSubterms keywords) →
        ∀ (inner : Bool), ∀ s ∈ printKeywords inner keywords, Text.ReturnFree s
  | [], _, _, inner => by simp [Code.printKeywords]
  | (none, e) :: rest, hnames, h, inner => by
    rw [Expr.keywordSubterms, namesFree_append_iff] at h
    rw [List.filterMap_cons_none rfl] at hnames
    rw [Code.printKeywords, List.forall_mem_cons]
    exact ⟨(returnFree_ofList rfl).append (Expr.ReturnFree.print h.1 _ _),
      NamesFree.printKeywords hnames h.2 _⟩
  | (some name, e) :: rest, hnames, h, inner => by
    rw [Expr.keywordSubterms, namesFree_append_iff] at h
    have hname : Prod.fst (some name, e) = some name := rfl
    rw [List.filterMap_cons_some hname, List.forall_mem_cons] at hnames
    rw [Code.printKeywords, List.forall_mem_cons]
    exact ⟨(hnames.1.append (returnFree_ofList rfl)).append (Expr.ReturnFree.print h.1 _ _),
      NamesFree.printKeywords hnames.2 h.2 _⟩

theorem NamesFree.printComparisons : ∀ {rest : List (CompareOp × Expr)},
    NamesFree (Expr.comparedSubterms rest) →
      ∀ (inner : Bool), Text.ReturnFree (printComparisons inner rest)
  | [], _, inner => by
    rw [Code.printComparisons]
    exact returnFree_empty
  | (op, e) :: rest, h, inner => by
    rw [Expr.comparedSubterms, namesFree_append_iff] at h
    rw [Code.printComparisons]
    simp only [returnFree_append_iff]
    exact ⟨⟨⟨⟨returnFree_ofList rfl, op.returnFree_render⟩, returnFree_ofList rfl⟩,
      Expr.ReturnFree.print h.1 _ _⟩, NamesFree.printComparisons h.2 _⟩

theorem NamesFree.printPairs : ∀ {entries : List (Option Expr × Expr)},
    NamesFree (Expr.entrySubterms entries) →
      ∀ (inner : Bool), ∀ s ∈ printPairs inner entries, Text.ReturnFree s
  | [], _, inner => by simp [Code.printPairs]
  | (none, value) :: rest, h, inner => by
    rw [Expr.entrySubterms, namesFree_append_iff] at h
    rw [Code.printPairs, List.forall_mem_cons]
    exact ⟨(returnFree_ofList rfl).append (Expr.ReturnFree.print h.1 _ _),
      NamesFree.printPairs h.2 _⟩
  | (some key, value) :: rest, h, inner => by
    rw [Expr.entrySubterms, namesFree_append_iff, namesFree_append_iff] at h
    rw [Code.printPairs, List.forall_mem_cons]
    exact ⟨((Expr.ReturnFree.print h.1.1 _ _).append (returnFree_ofList rfl)).append
      (Expr.ReturnFree.print h.1.2 _ _), NamesFree.printPairs h.2 _⟩

theorem NamesFree.printClauses : ∀ {clauses : List Clause}, NamesFree (Clause.subtermsOf clauses) →
    ∀ (inner : Bool), Text.ReturnFree (printClauses inner clauses)
  | [], _, inner => by
    rw [Code.printClauses]
    exact returnFree_empty
  | .mk isAsync target iter conditions :: rest, h, inner => by
    simp only [Clause.subtermsOf, namesFree_append_iff] at h
    rw [Code.printClauses]
    simp only [returnFree_append_iff]
    refine ⟨⟨⟨⟨⟨?_, Expr.ReturnFree.print h.1.1.1 _ _⟩, returnFree_ofList rfl⟩,
      Expr.ReturnFree.print h.1.1.2 _ _⟩, NamesFree.printConditions h.1.2 _⟩,
      NamesFree.printClauses h.2 _⟩
    split_ifs
    · exact returnFree_ofList rfl
    · exact returnFree_ofList rfl

theorem NamesFree.printConditions : ∀ {es : List Expr}, NamesFree (Expr.subtermsOf es) →
    ∀ (inner : Bool), Text.ReturnFree (printConditions inner es)
  | [], _, inner => by
    rw [Code.printConditions]
    exact returnFree_empty
  | e :: es, h, inner => by
    rw [Expr.subtermsOf, namesFree_append_iff] at h
    rw [Code.printConditions]
    exact ((returnFree_ofList rfl).append (Expr.ReturnFree.print h.1 _ _)).append
      (NamesFree.printConditions h.2 _)

theorem NamesFree.printParams : ∀ {params : List Param},
    (∀ name ∈ params.map Param.name, Text.ReturnFree name) → NamesFree (Param.subtermsOf params) →
      ∀ (inner starred : Bool), ∀ s ∈ printParams inner starred params, Text.ReturnFree s
  | [], _, _, inner, starred => by simp [Code.printParams]
  | .mk kind name type default :: params, hnames, h, inner, starred => by
    rw [List.map_cons, List.forall_mem_cons] at hnames
    simp only [Param.subtermsOf, namesFree_append_iff] at h
    have hshown : Text.ReturnFree (name ++ Code.printOptional inner ": " type ++
        Code.printOptional inner "=" default) :=
      (hnames.1.append (NamesFree.printOptional h.1.1 _ (returnFree_ofList rfl))).append
        (NamesFree.printOptional h.1.2 _ (returnFree_ofList rfl))
    have hmark : Text.ReturnFree "*" := returnFree_ofList rfl
    have hmarks : Text.ReturnFree "**" := returnFree_ofList rfl
    have hslash : Text.ReturnFree "/" := returnFree_ofList rfl
    have hrest := fun starred => NamesFree.printParams hnames.2 h.2 inner starred
    cases kind with
    | positionalOnly =>
      unfold Code.printParams
      dsimp only
      split_ifs
      · exact List.forall_mem_cons.mpr ⟨hshown, List.forall_mem_cons.mpr ⟨hslash, hrest _⟩⟩
      · exact List.forall_mem_cons.mpr ⟨hshown, hrest _⟩
    | positional =>
      rw [Code.printParams]
      exact List.forall_mem_cons.mpr ⟨hshown, hrest _⟩
    | rest =>
      rw [Code.printParams]
      exact List.forall_mem_cons.mpr ⟨hmark.append hshown, hrest _⟩
    | keywordOnly =>
      rw [Code.printParams]
      split_ifs
      · exact List.forall_mem_cons.mpr ⟨hshown, hrest _⟩
      · exact List.forall_mem_cons.mpr ⟨hmark, List.forall_mem_cons.mpr ⟨hshown, hrest _⟩⟩
    | keywordRest =>
      rw [Code.printParams]
      exact List.forall_mem_cons.mpr ⟨hmarks.append hshown, hrest _⟩

end

/-! ### Expressions without returns -/

@[simp]
theorem Expr.returnFree_name_iff {id : String} :
    (Expr.name id).ReturnFree ↔ Text.ReturnFree id := by
  simp [Expr.ReturnFree, NamesFree, Expr.ownNames]

@[simp]
theorem Expr.returnFree_constant (value : Constant) : (Expr.constant value).ReturnFree := by
  simp [Expr.ReturnFree, NamesFree, Expr.ownNames]

@[simp]
theorem Expr.returnFree_text (value : String) : (Expr.text value).ReturnFree :=
  Expr.returnFree_constant _

@[simp]
theorem Expr.returnFree_int (value : Int) : (Expr.int value).ReturnFree :=
  Expr.returnFree_constant _

@[simp]
theorem Expr.returnFree_absent : Expr.absent.ReturnFree :=
  Expr.returnFree_constant _

@[simp]
theorem Expr.returnFree_attribute_iff {value : Expr} {name : String} :
    (Expr.attribute value name).ReturnFree ↔ value.ReturnFree ∧ Text.ReturnFree name := by
  simp [Expr.ReturnFree, namesFree_cons_iff, Expr.ownNames, and_comm]

theorem Expr.ReturnFree.attrs {value : Expr} {names : List String} (hvalue : value.ReturnFree)
    (hnames : ∀ name ∈ names, Text.ReturnFree name) : (value.attrs names).ReturnFree := by
  induction names generalizing value with
  | nil => exact hvalue
  | cons name names ih =>
    obtain ⟨hname, hnames⟩ := List.forall_mem_cons.mp hnames
    exact ih (Expr.returnFree_attribute_iff.mpr ⟨hvalue, hname⟩) hnames

@[simp]
theorem Expr.returnFree_subscript_iff {value index : Expr} :
    (Expr.subscript value index).ReturnFree ↔ value.ReturnFree ∧ index.ReturnFree := by
  simp [Expr.ReturnFree, namesFree_cons_iff, namesFree_append_iff, Expr.ownNames]

@[simp]
theorem Expr.returnFree_call_iff {callee : Expr} {args : List Expr}
    {keywords : List (Option String × Expr)} :
    (Expr.call callee args keywords).ReturnFree ↔ callee.ReturnFree ∧ (∀ e ∈ args, e.ReturnFree) ∧
      ∀ k ∈ keywords, (∀ name ∈ k.1, Text.ReturnFree name) ∧ k.2.ReturnFree := by
  have hkeywords : (∀ name ∈ keywords.filterMap Prod.fst, Text.ReturnFree name) ∧
      NamesFree (Expr.keywordSubterms keywords) ↔
        ∀ k ∈ keywords, (∀ name ∈ k.1, Text.ReturnFree name) ∧ k.2.ReturnFree := by
    induction keywords with
    | nil => simp [Expr.keywordSubterms, namesFree_nil]
    | cons k keywords ih =>
      obtain ⟨name, value⟩ := k
      rw [Expr.keywordSubterms, namesFree_append_iff, List.forall_mem_cons, ← ih]
      cases name with
      | none => simp [Expr.ReturnFree, and_left_comm]
      | some name => simp [Expr.ReturnFree, and_assoc, and_left_comm]
  rw [← hkeywords]
  simp only [Expr.ReturnFree, Expr.subterms, namesFree_cons_iff, namesFree_append_iff,
    namesFree_subtermsOf_iff, Expr.ownNames]
  tauto

@[simp]
theorem Expr.returnFree_apply_iff {callee : Expr} {args : List Expr} :
    (callee.apply args).ReturnFree ↔ callee.ReturnFree ∧ ∀ e ∈ args, e.ReturnFree := by
  simp [Expr.apply]

@[simp]
theorem Expr.returnFree_applyName_iff {callee : String} {args : List Expr} :
    (Expr.applyName callee args).ReturnFree ↔ Text.ReturnFree callee ∧ ∀ e ∈ args, e.ReturnFree := by
  simp [Expr.applyName]

@[simp]
theorem Expr.returnFree_unary_iff {op : UnaryOp} {operand : Expr} :
    (Expr.unary op operand).ReturnFree ↔ operand.ReturnFree := by
  simp [Expr.ReturnFree, namesFree_cons_iff, Expr.ownNames]

@[simp]
theorem Expr.returnFree_binary_iff {left right : Expr} {op : BinaryOp} :
    (Expr.binary left op right).ReturnFree ↔ left.ReturnFree ∧ right.ReturnFree := by
  simp [Expr.ReturnFree, namesFree_cons_iff, namesFree_append_iff, Expr.ownNames]

@[simp]
theorem Expr.returnFree_boolean_iff {op : BoolOp} {operands : List Expr} :
    (Expr.boolean op operands).ReturnFree ↔ ∀ e ∈ operands, e.ReturnFree := by
  rw [← namesFree_subtermsOf_iff, Expr.ReturnFree, Expr.subterms, namesFree_cons_iff]
  simp [Expr.ownNames]

@[simp]
theorem Expr.returnFree_compare_iff {first : Expr} {rest : List (CompareOp × Expr)} :
    (Expr.compare first rest).ReturnFree ↔ first.ReturnFree ∧ ∀ c ∈ rest, c.2.ReturnFree := by
  have hrest : NamesFree (Expr.comparedSubterms rest) ↔ ∀ c ∈ rest, c.2.ReturnFree := by
    induction rest with
    | nil => simp [Expr.comparedSubterms, namesFree_nil]
    | cons c rest ih =>
      rw [Expr.comparedSubterms, namesFree_append_iff, ih, List.forall_mem_cons, Expr.ReturnFree]
  rw [← hrest]
  simp [Expr.ReturnFree, namesFree_cons_iff, namesFree_append_iff, Expr.ownNames]

@[simp]
theorem Expr.returnFree_conditional_iff {test body otherwise : Expr} :
    (Expr.conditional test body otherwise).ReturnFree ↔
      test.ReturnFree ∧ body.ReturnFree ∧ otherwise.ReturnFree := by
  simp [Expr.ReturnFree, namesFree_cons_iff, namesFree_append_iff, Expr.ownNames]

@[simp]
theorem Expr.returnFree_tuple_iff {items : List Expr} :
    (Expr.tuple items).ReturnFree ↔ ∀ e ∈ items, e.ReturnFree := by
  rw [← namesFree_subtermsOf_iff, Expr.ReturnFree, Expr.subterms, namesFree_cons_iff]
  simp [Expr.ownNames]

@[simp]
theorem Expr.returnFree_list_iff {items : List Expr} :
    (Expr.list items).ReturnFree ↔ ∀ e ∈ items, e.ReturnFree := by
  rw [← namesFree_subtermsOf_iff, Expr.ReturnFree, Expr.subterms, namesFree_cons_iff]
  simp [Expr.ownNames]

@[simp]
theorem Expr.returnFree_dict_iff {entries : List (Option Expr × Expr)} :
    (Expr.dict entries).ReturnFree ↔
      ∀ entry ∈ entries, (∀ key ∈ entry.1, key.ReturnFree) ∧ entry.2.ReturnFree := by
  have hentries : NamesFree (Expr.entrySubterms entries) ↔
      ∀ entry ∈ entries, (∀ key ∈ entry.1, key.ReturnFree) ∧ entry.2.ReturnFree := by
    induction entries with
    | nil => simp [Expr.entrySubterms, namesFree_nil]
    | cons entry entries ih =>
      obtain ⟨key, value⟩ := entry
      cases key with
      | none => simp [Expr.entrySubterms, namesFree_append_iff, ih, Expr.ReturnFree]
      | some key => simp [Expr.entrySubterms, namesFree_append_iff, ih, Expr.ReturnFree, and_assoc]
  rw [← hentries]
  simp [Expr.ReturnFree, namesFree_cons_iff, Expr.ownNames]

/-- A text that is made of one value. -/
theorem Expr.returnFree_template_value_iff {value : Expr} :
    (Expr.template [.value value none none]).ReturnFree ↔ value.ReturnFree := by
  simp [Expr.ReturnFree, namesFree_cons_iff, Expr.ownNames, TemplatePart.subtermsOf]

@[simp]
theorem Expr.returnFree_await_iff {value : Expr} :
    (Expr.await value).ReturnFree ↔ value.ReturnFree := by
  simp [Expr.ReturnFree, namesFree_cons_iff, Expr.ownNames]

end FragmentRoutes.Code
