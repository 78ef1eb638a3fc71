import FragmentRoutes.Code.Reader
import FragmentRoutes.Proofs.Code.Subterms
import Mathlib.Data.Option.Basic
import Mathlib.Tactic.Common

/-!
# Names in what is read

A name is cut out of a text if the text can name something, and is put into its compatibility form
(`Token.IsFormOfName`).  So the names among the tokens of a text are such forms, and its brackets
match (`Token.spelled_scan`).

The reader takes the names that it calls from the tokens, and leaves tokens behind whose names are
among them, with the same brackets open, or one less if it has read up to a closing one.  Each of
its functions yields this (`Reader.Yields`) if the functions below it do, on every bound, so what a
text spells calls only names that are among its tokens, and its calls are nested no deeper than
brackets may be (`callsNamed_of_read`).
-/

namespace FragmentRoutes.Code

/-! ### Names among tokens -/

/-- The names among the tokens all have the property, and the brackets among them can follow those
that are open: none is closed by another, and not too many are open at a time. -/
def Spelled (P : String → Prop) : List String → List Token → Prop
  | _, [] => True
  | o, t :: ts => (∀ id, t = .name id → P id) ∧ ∃ o', Token.track o t = some o' ∧ Spelled P o' ts

/-- How many brackets may still be opened. -/
def room (o : List String) : Nat :=
  Token.maxDepth - o.length

section

variable {P : String → Prop} {o o' : List String} {t : Token} {ts : List Token}

theorem spelled_nil : Spelled P o [] :=
  trivial

theorem Spelled.cons (h : Spelled P o' ts) (ht : ∀ id, t = .name id → P id)
    (htrack : Token.track o t = some o') : Spelled P o (t :: ts) :=
  ⟨ht, o', htrack, h⟩

/-- Behind a token the brackets are open that the scan tracks. -/
theorem Spelled.tail (h : Spelled P o (t :: ts))
    (htrack : Token.track o t = some o' := by rfl) : Spelled P o' ts := by
  obtain ⟨-, o'', htrack', h⟩ := h
  obtain rfl := Option.some.inj (htrack.symm.trans htrack')
  exact h

theorem Spelled.head {id : String} (h : Spelled P o (.name id :: ts)) : P id :=
  h.1 id rfl

/-- Only the names among the tokens matter for the property. -/
theorem Spelled.of_forall_name {Q : String → Prop} (h : Spelled P o ts)
    (hnames : ∀ id, .name id ∈ ts → Q id) : Spelled Q o ts := by
  induction ts generalizing o with
  | nil => exact spelled_nil
  | cons t ts ih =>
    obtain ⟨-, o', htrack, hrest⟩ := h
    refine (ih hrest fun id hid => hnames id (List.mem_cons_of_mem _ hid)).cons ?_ htrack
    rintro id rfl
    exact hnames id List.mem_cons_self

theorem room_cons_le (c : String) : room (c :: o) ≤ room o := by
  rw [room, room, List.length_cons]
  omega

/-- Behind an opening bracket there is room for one bracket less. -/
theorem Spelled.opened {c : String} (h : Spelled P o (t :: ts))
    (htrack : Token.track o t = (if Token.maxDepth ≤ o.length then none else some (c :: o)) := by
      rfl) :
    Spelled P (c :: o) ts ∧ room o = room (c :: o) + 1 := by
  obtain ⟨-, o'', htrack', h⟩ := h
  rw [htrack] at htrack'
  split_ifs at htrack' with hfull
  obtain rfl := Option.some.inj htrack'
  refine ⟨h, ?_⟩
  rw [room, room, List.length_cons]
  omega

end

namespace Token

/-- The form of a text that can name something. -/
def IsFormOfName (id : String) : Prop :=
  ∃ s, Text.isName s = true ∧ id = Text.compatibilityForm s

/-- No name is read from the text. -/
def ReadsNoName (x : Option (Token × List Char)) : Prop :=
  ∀ id rest, x ≠ some (.name id, rest)

theorem ReadsNoName.none : ReadsNoName none := by
  rintro id rest ⟨⟩

theorem ReadsNoName.bind {α : Type} {x : Option α} {f : α → Option (Token × List Char)}
    (hf : ∀ a, ReadsNoName (f a)) : ReadsNoName (x >>= f) := by
  intro id rest h
  obtain ⟨a, -, h⟩ := Option.bind_eq_some_iff.mp h
  exact hf a id rest h

theorem ReadsNoName.some {t : Token} {rest : List Char} (ht : ∀ id, t ≠ .name id) :
    ReadsNoName (some (t, rest)) := by
  rintro id rest' h
  exact ht id (Prod.mk.inj (Option.some.inj h)).1

theorem readsNoName_basedNumber (base : Nat) (cs : List Char) :
    ReadsNoName (basedNumber base cs) := by
  unfold basedNumber
  dsimp only
  generalize digits _ _ = run
  split
  · exact .none
  · split_ifs
    · exact .none
    · exact .some (by simp)

theorem readsNoName_decimalNumber (cs : List Char) : ReadsNoName (decimalNumber cs) := by
  unfold decimalNumber
  refine .bind fun ⟨front, rest⟩ => ?_
  dsimp -zeta only
  extract_lets leadingZero goOn
  -- what follows the fraction is read in one way, with and without a fraction
  have hgoOn : ∀ r, ReadsNoName (goOn r) := by
    rintro ⟨fraction, rest⟩
    refine .bind fun ⟨power, rest⟩ => ?_
    dsimp only
    split
    · split_ifs
      · exact .some (by simp)
      · exact .none
    · split_ifs
      · exact .some (by simp)
      · exact .none
    · split_ifs
      · exact .none
      · exact .none
      · exact .some (by simp)
      · exact .some (by simp)
  split
  · split
    · split_ifs
      · exact .bind hgoOn
      · exact .bind hgoOn
    · exact .bind hgoOn
  · exact .bind hgoOn

theorem readsNoName_number (cs : List Char) : ReadsNoName (number cs) := by
  unfold number
  split
  · split_ifs
    · exact readsNoName_basedNumber _ _
    · exact readsNoName_basedNumber _ _
    · exact readsNoName_basedNumber _ _
    · exact readsNoName_decimalNumber _
  · exact readsNoName_decimalNumber _

theorem readsNoName_quotedText (marks : TextMarks) (cs : List Char) :
    ReadsNoName (quotedText marks cs) := by
  unfold quotedText
  split
  · dsimp only
    rw [Option.map_eq_bind]
    exact .bind fun _ => .some (by simp)
  · exact .none

theorem readsNoName_mark? (cs : List Char) : ReadsNoName (mark? cs) := by
  rw [mark?, Option.map_eq_bind]
  exact .bind fun _ => .some (by simp)

/-- A name at the start of a text is the form of the text that it is written as. -/
theorem isFormOfName_of_nameOrQuoted {cs rest : List Char} {id : String}
    (h : nameOrQuoted cs = some (.name id, rest)) : IsFormOfName id := by
  unfold nameOrQuoted at h
  dsimp only at h
  split at h
  · exact absurd h (readsNoName_quotedText _ _ _ _)
  · split_ifs at h with hchars hreserved
    · cases h
    · obtain ⟨hid, -⟩ := Prod.mk.inj (Option.some.inj h)
      obtain rfl := Token.name.inj hid
      have hletters : Text.isIdentifierChars (cs.takeWhile isNamePart) = true := by
        simpa using hchars
      refine ⟨_, ?_, rfl⟩
      rw [Text.isName, Text.isIdentifier, String.toList_ofList, hletters, Bool.true_and,
        Bool.not_eq_true']
      exact Bool.eq_false_iff.mpr hreserved

theorem isFormOfName_of_next? {cs rest : List Char} {id : String}
    (h : next? cs = some (.name id, rest)) : IsFormOfName id := by
  unfold next? at h
  split at h
  · cases h
  · split_ifs at h
    · exact absurd h (readsNoName_number _ _ _)
    · exact absurd h (readsNoName_number _ _ _)
    · exact absurd h (readsNoName_quotedText _ _ _ _)
    · exact isFormOfName_of_nameOrQuoted h
    · exact absurd h (readsNoName_mark? _ _ _)

theorem spelled_scanFrom {place : Place} {opened : List String} {fuel : Nat} {cs : List Char}
    {ts : List Token} (h : scanFrom place opened fuel cs = some ts) :
    Spelled IsFormOfName opened ts := by
  induction fuel generalizing place opened cs ts with
  | zero => cases h
  | succ fuel ih =>
    cases cs with
    | nil =>
      unfold scanFrom at h
      split_ifs at h
      · obtain rfl := Option.some.inj h
        exact spelled_nil.cons (by simp) rfl
      · obtain rfl := Option.some.inj h
        exact spelled_nil
    | cons c cs =>
      unfold scanFrom at h
      split at h
      · exact ih h
      split at h
      · split at h
        · obtain ⟨more, hmore, rfl⟩ := Option.map_eq_some_iff.mp h
          exact (ih hmore).cons (by simp) rfl
        · exact ih h
        · exact ih h
      split at h
      · split at h
        · exact ih h
        · exact ih h
      split at h
      · split at h
        · split_ifs at h
          exact ih h
        · cases h
      split at h
      · cases h
      split at h
      · cases h
      · rename_i token rest hnext
        split at h
        · cases h
        · rename_i htrack
          obtain ⟨more, hmore, rfl⟩ := Option.map_eq_some_iff.mp h
          refine (ih hmore).cons (fun id hid => ?_) htrack
          rw [hid] at hnext
          exact isFormOfName_of_next? hnext

/-- **The names of a text** are forms of names, and its brackets match. -/
theorem spelled_scan {cs : List Char} {ts : List Token} (h : scan cs = some ts) :
    Spelled IsFormOfName [] ts :=
  spelled_scanFrom h

end Token

/-! ### Expressions that call names -/

/-- A name has the property, and so have the callee and the arguments of a call, which is nested in
its arguments at most `n` deep.  Of any other expression nothing is asked, whatever names are in
it. -/
inductive Expr.CallsNamed (P : String → Prop) : Nat → Expr → Prop where
  | name {n : Nat} {id : String} (hid : P id) : CallsNamed P n (.name id)
  | call {n : Nat} {callee : Expr} {args : List Expr} {keywords : List (Option String × Expr)}
    (hcallee : callee.CallsNamed P (n + 1)) (hargs : ∀ a ∈ args, a.CallsNamed P n) :
    CallsNamed P (n + 1) (.call callee args keywords)
  | other {n : Nat} {e : Expr} (hname : e.name? = none) (hcallee : e.callee? = none) :
    CallsNamed P n e

theorem Expr.CallsNamed.mono {P : String → Prop} {n m : Nat} {e : Expr} (h : e.CallsNamed P n)
    (hle : n ≤ m) : e.CallsNamed P m := by
  induction h generalizing m with
  | name hid => exact .name hid
  | @call n _ _ _ _ _ ihcallee ihargs =>
    obtain ⟨m, rfl⟩ : ∃ k, m = k + 1 := ⟨m - 1, by omega⟩
    exact .call (ihcallee hle) fun a ha => ihargs a ha (by omega)
  | other hname hcallee => exact .other hname hcallee

namespace Reader

variable {P : String → Prop} {α β : Type}

/-! ### Steps of the reader -/

/-- What is read has the one property, and the names among the tokens behind it have the other;
there the brackets `o` are open. -/
def Yields (P : String → Prop) (o : List String) (post : α → Prop)
    (x : Option (α × List Token)) : Prop :=
  ∀ a rest, x = some (a, rest) → post a ∧ Spelled P o rest

/-- Nothing is asked of what is read. -/
def Anything (_ : α) : Prop := True

variable {o o' : List String} {post : α → Prop} {post' : β → Prop}

theorem Yields.none : Yields P o post none := by
  rintro a rest ⟨⟩

theorem Yields.some {a : α} {rest : List Token} (ha : post a) (hrest : Spelled P o rest) :
    Yields P o post (some (a, rest)) := by
  rintro _ _ ⟨⟩
  exact ⟨ha, hrest⟩

theorem Yields.any {a : α} {rest : List Token} (hrest : Spelled P o rest) :
    Yields P o Anything (Option.some (a, rest)) :=
  .some trivial hrest

theorem Yields.bind {x : Option (α × List Token)} {f : α × List Token → Option (β × List Token)}
    (hx : Yields P o post x)
    (hf : ∀ a rest, post a → Spelled P o rest → Yields P o' post' (f (a, rest))) :
    Yields P o' post' (x >>= f) := by
  intro b rest' h
  cases x with
  | none => cases h
  | some r =>
    obtain ⟨ha, hrest⟩ := hx r.1 r.2 rfl
    exact hf r.1 r.2 ha hrest b rest' h

theorem spelled_of_expect {m : String} {ts rest : List Token} (hts : Spelled P o ts)
    (hm : Token.track o (.mark m) = Option.some o') (h : expect m ts = Option.some rest) :
    Spelled P o' rest := by
  unfold Reader.expect at h
  split at h
  · split_ifs at h with heq
    obtain rfl := Option.some.inj h
    exact hts.tail (beq_iff_eq.mp heq ▸ hm)
  · cases h

/-- A mark that has to follow is left out. -/
theorem Yields.expect {o'' : List String} {m : String} {ts : List Token}
    {f : List Token → Option (β × List Token)} (hts : Spelled P o ts)
    (hf : ∀ rest, Spelled P o' rest → Yields P o'' post' (f rest))
    (hm : Token.track o (.mark m) = Option.some o' := by rfl) :
    Yields P o'' post' (expect m ts >>= f) := by
  intro b rest' h
  cases hrest : Reader.expect m ts with
  | none => rw [hrest] at h; cases h
  | some rest =>
    rw [hrest] at h
    exact hf rest (spelled_of_expect hts hm hrest) b rest' h

theorem track_of_operatorAt {level : Nat} {m : String} {op : BinaryOp}
    (h : operatorAt level m = Option.some op) : Token.track o (.mark m) = Option.some o := by
  unfold operatorAt at h
  split at h
  all_goals first | rfl | cases h

theorem Yields.anything {x : Option (α × List Token)} (hx : Yields P o post x) :
    Yields P o Anything x :=
  fun a rest h => ⟨trivial, (hx a rest h).2⟩

theorem yields_comparison? {ts : List Token} (h : Spelled P o ts) :
    Yields P o Anything (comparison? ts) := by
  unfold comparison?
  split
  case h_7 => exact .any h.tail.tail
  case h_9 => exact .any h.tail.tail
  case h_11 => exact .none
  all_goals exact .any h.tail

theorem yields_sign? {ts : List Token} (h : Spelled P o ts) :
    Yields P o Anything (sign? ts) := by
  unfold sign?
  split
  case h_4 => exact .none
  all_goals exact .any h.tail

theorem spelled_quotedRun {ts : List Token} (h : Spelled P o ts) :
    Spelled P o (quotedRun ts).2 := by
  induction ts with
  | nil => exact h
  | cons t ts ih =>
    unfold quotedRun
    split
    · rename_i heq
      obtain ⟨rfl, rfl⟩ := List.cons.inj heq
      exact ih h.tail
    · exact h

/-- Quoted texts are no call, even with values in them. -/
theorem callsNamed_of_quotedTexts {fuel : Nat} {run : List (TextMarks × List Char)} {e : Expr}
    {n : Nat} (h : quotedTexts fuel run = some e) : e.CallsNamed P n := by
  cases fuel with
  | zero => cases h
  | succ fuel =>
    unfold quotedTexts at h
    split_ifs at h
    all_goals
      obtain ⟨parts, -, h⟩ := Option.bind_eq_some_iff.mp h
      obtain rfl := Option.some.inj h
      exact .other rfl rfl

/-! ### The functions of the reader

Each function is given tokens whose names have the property and whose brackets match.  Those that
hand on an expression as it was read yield one that calls names with the property, nested as deep as
there is room for brackets; the others put what they read into an expression of another kind, so
for them only the tokens behind matter. -/

mutual

theorem yields_expression : ∀ (fuel : Nat) {o : List String} {ts : List Token}, Spelled P o ts →
    Yields P o (Expr.CallsNamed P (room o)) (expression fuel ts)
  | 0, _, _, _ => .none
  | fuel + 1, o, ts, h => by
    unfold expression
    split
    · refine .bind (yields_parameters fuel {} [] h.tail) fun _ _ _ hrest => ?_
      refine .bind (yields_expression fuel hrest) fun _ _ _ hrest => ?_
      exact .some (.other rfl rfl) hrest
    · refine .bind (yields_disjunction fuel h) fun body rest hbody hrest => ?_
      dsimp only
      split
      · refine .bind (yields_disjunction fuel hrest.tail) fun _ _ _ hrest => ?_
        dsimp only
        split
        · refine .bind (yields_expression fuel hrest.tail) fun _ _ _ hrest => ?_
          exact .some (.other rfl rfl) hrest
        · exact .none
      · exact .some hbody hrest

theorem yields_named : ∀ (fuel : Nat) {o : List String} {ts : List Token}, Spelled P o ts →
    Yields P o (Expr.CallsNamed P (room o)) (named fuel ts)
  | 0, _, _, _ => .none
  | fuel + 1, o, ts, h => by
    unfold named
    split
    · refine .bind (yields_expression fuel h.tail.tail) fun _ _ _ hrest => ?_
      exact .some (.other rfl rfl) hrest
    · refine .bind (yields_expression fuel h) fun e rest he hrest => ?_
      dsimp only
      split
      · exact .none
      · exact .some he hrest

theorem yields_item : ∀ (fuel : Nat) {o : List String} {ts : List Token}, Spelled P o ts →
    Yields P o (Expr.CallsNamed P (room o)) (item fuel ts)
  | 0, _, _, _ => .none
  | fuel + 1, o, ts, h => by
    unfold item
    split
    · refine .bind (yields_operation fuel 0 h.tail) fun _ _ _ hrest => ?_
      exact .some (.other rfl rfl) hrest
    · exact yields_named fuel h

theorem yields_disjunction : ∀ (fuel : Nat) {o : List String} {ts : List Token}, Spelled P o ts →
    Yields P o (Expr.CallsNamed P (room o)) (disjunction fuel ts)
  | 0, _, _, _ => .none
  | fuel + 1, o, ts, h => by
    unfold disjunction
    refine .bind (yields_conjunction fuel h) fun first _ hfirst hrest => ?_
    refine .bind (yields_orOperands fuel hrest) fun more _ _ hrest => .some ?_ hrest
    split_ifs
    · exact hfirst
    · exact .other rfl rfl

theorem yields_orOperands : ∀ (fuel : Nat) {o : List String} {ts : List Token}, Spelled P o ts →
    Yields P o Anything (orOperands fuel ts)
  | 0, _, _, _ => .none
  | fuel + 1, o, ts, h => by
    unfold orOperands
    split
    · refine .bind (yields_conjunction fuel h.tail) fun _ _ _ hrest => ?_
      exact .bind (yields_orOperands fuel hrest) fun _ _ _ hrest => .any hrest
    · exact .any h

theorem yields_conjunction : ∀ (fuel : Nat) {o : List String} {ts : List Token}, Spelled P o ts →
    Yields P o (Expr.CallsNamed P (room o)) (conjunction fuel ts)
  | 0, _, _, _ => .none
  | fuel + 1, o, ts, h => by
    unfold conjunction
    refine .bind (yields_inversion fuel h) fun first _ hfirst hrest => ?_
    refine .bind (yields_andOperands fuel hrest) fun more _ _ hrest => .some ?_ hrest
    split_ifs
    · exact hfirst
    · exact .other rfl rfl

theorem yields_andOperands : ∀ (fuel : Nat) {o : List String} {ts : List Token}, Spelled P o ts →
    Yields P o Anything (andOperands fuel ts)
  | 0, _, _, _ => .none
  | fuel + 1, o, ts, h => by
    unfold andOperands
    split
    · refine .bind (yields_inversion fuel h.tail) fun _ _ _ hrest => ?_
      exact .bind (yields_andOperands fuel hrest) fun _ _ _ hrest => .any hrest
    · exact .any h

theorem yields_inversion : ∀ (fuel : Nat) {o : List String} {ts : List Token}, Spelled P o ts →
    Yields P o (Expr.CallsNamed P (room o)) (inversion fuel ts)
  | 0, _, _, _ => .none
  | fuel + 1, o, ts, h => by
    unfold inversion
    split
    · refine .bind (yields_inversion fuel h.tail) fun _ _ _ hrest => ?_
      exact .some (.other rfl rfl) hrest
    · refine .bind (yields_operation fuel 0 h) fun first _ hfirst hrest => ?_
      refine .bind (yields_comparisons fuel hrest) fun more _ _ hrest => .some ?_ hrest
      split_ifs
      · exact hfirst
      · exact .other rfl rfl

theorem yields_comparisons : ∀ (fuel : Nat) {o : List String} {ts : List Token}, Spelled P o ts →
    Yields P o Anything (comparisons fuel ts)
  | 0, _, _, _ => .none
  | fuel + 1, o, ts, h => by
    unfold comparisons
    split
    · exact .any h
    · rename_i heq
      have hrest := (yields_comparison? h _ _ heq).2
      refine .bind (yields_operation fuel 0 hrest) fun _ _ _ hrest => ?_
      exact .bind (yields_comparisons fuel hrest) fun _ _ _ hrest => .any hrest

theorem yields_operation : ∀ (fuel level : Nat) {o : List String} {ts : List Token},
    Spelled P o ts → Yields P o (Expr.CallsNamed P (room o)) (operation fuel level ts)
  | 0, _, _, _, _ => .none
  | fuel + 1, level, o, ts, h => by
    unfold operation
    split_ifs
    · exact yields_factor fuel h
    · refine .bind (yields_operation fuel (level + 1) h) fun left _ hleft hrest => ?_
      exact yields_operationRest fuel level hleft hrest

theorem yields_operationRest : ∀ (fuel level : Nat) {o : List String} {left : Expr}
    {ts : List Token}, left.CallsNamed P (room o) → Spelled P o ts →
      Yields P o (Expr.CallsNamed P (room o)) (operationRest fuel level left ts)
  | 0, _, _, _, _, _, _ => .none
  | fuel + 1, level, o, left, ts, hleft, h => by
    unfold operationRest
    split
    · split
      · rename_i hop
        have htail := h.tail (track_of_operatorAt hop)
        refine .bind (yields_operation fuel (level + 1) htail) fun _ _ _ hrest => ?_
        exact yields_operationRest fuel level (.other rfl rfl) hrest
      · exact .some hleft h
    · exact .some hleft h

theorem yields_factor : ∀ (fuel : Nat) {o : List String} {ts : List Token}, Spelled P o ts →
    Yields P o (Expr.CallsNamed P (room o)) (factor fuel ts)
  | 0, _, _, _ => .none
  | fuel + 1, o, ts, h => by
    unfold factor
    split
    · rename_i heq
      have hrest := (yields_sign? h _ _ heq).2
      refine .bind (yields_factor fuel hrest) fun _ _ _ hrest => ?_
      exact .some (.other rfl rfl) hrest
    · refine .bind (yields_awaited fuel h) fun base _ hbase hrest => ?_
      dsimp only
      split
      · refine .bind (yields_factor fuel hrest.tail) fun _ _ _ hrest => ?_
        exact .some (.other rfl rfl) hrest
      · exact .some hbase hrest

theorem yields_awaited : ∀ (fuel : Nat) {o : List String} {ts : List Token}, Spelled P o ts →
    Yields P o (Expr.CallsNamed P (room o)) (awaited fuel ts)
  | 0, _, _, _ => .none
  | fuel + 1, o, ts, h => by
    unfold awaited
    split
    · refine .bind (yields_primary fuel h.tail) fun _ _ _ hrest => ?_
      exact .some (.other rfl rfl) hrest
    · exact yields_primary fuel h

theorem yields_primary : ∀ (fuel : Nat) {o : List String} {ts : List Token}, Spelled P o ts →
    Yields P o (Expr.CallsNamed P (room o)) (primary fuel ts)
  | 0, _, _, _ => .none
  | fuel + 1, o, ts, h => by
    unfold primary
    exact .bind (yields_atom fuel h) fun _ _ he hrest => yields_trailers fuel he hrest

theorem yields_trailers : ∀ (fuel : Nat) {o : List String} {e : Expr} {ts : List Token},
    e.CallsNamed P (room o) → Spelled P o ts →
      Yields P o (Expr.CallsNamed P (room o)) (trailers fuel e ts)
  | 0, _, _, _, _, _ => .none
  | fuel + 1, o, e, ts, he, h => by
    unfold trailers
    split
    · exact yields_trailers fuel (.other rfl rfl) h.tail.tail
    · exact .none
    · obtain ⟨hopened, hroom⟩ := h.opened
      refine .bind (yields_arguments fuel .positional [] (by simp) hopened)
        fun r _ hargs hrest => ?_
      refine yields_trailers fuel ?_ hrest
      rw [hroom] at he ⊢
      exact .call he hargs
    · refine .bind (yields_subscript fuel h.opened.1) fun _ _ _ hrest => ?_
      exact yields_trailers fuel (.other rfl rfl) hrest
    · exact .some he h

theorem yields_arguments : ∀ (fuel : Nat) (stage : ArgStage) {args : List Expr}
    (keywords : List (Option String × Expr)) {o : List String} {ts : List Token},
    (∀ a ∈ args, a.CallsNamed P (room (")" :: o))) → Spelled P (")" :: o) ts →
      Yields P o (fun r => ∀ a ∈ r.1, a.CallsNamed P (room (")" :: o)))
        (arguments fuel stage args keywords ts)
  | 0, _, _, _, _, _, _, _ => .none
  | fuel + 1, stage, args, keywords, o, ts, hargs, h => by
    unfold arguments
    split
    · exact .some (by simpa using hargs) h.tail
    · refine .bind (yields_expression fuel h.tail) fun _ _ _ hrest => ?_
      exact yields_argumentsNext fuel .mapping _ hargs hrest
    · refine .bind (yields_expression fuel h.tail.tail) fun _ _ _ hrest => ?_
      exact yields_argumentsNext fuel _ _ hargs hrest
    · split_ifs
      · exact .none
      · refine .bind (yields_expression fuel h.tail) fun _ _ _ hrest => ?_
        refine yields_argumentsNext fuel stage _ ?_ hrest
        exact List.forall_mem_cons.mpr ⟨.other rfl rfl, hargs⟩
    · split_ifs
      · exact .none
      · refine .bind (yields_named fuel h) fun e _ he hrest => ?_
        dsimp only
        split_ifs
        · refine .bind (yields_clauses fuel hrest) fun _ _ _ hrest => ?_
          refine .expect hrest fun _ hrest => .some ?_ hrest
          exact List.forall_mem_singleton.mpr (.other rfl rfl)
        · exact yields_argumentsNext fuel stage _ (List.forall_mem_cons.mpr ⟨he, hargs⟩) hrest

theorem yields_argumentsNext : ∀ (fuel : Nat) (stage : ArgStage) {args : List Expr}
    (keywords : List (Option String × Expr)) {o : List String} {ts : List Token},
    (∀ a ∈ args, a.CallsNamed P (room (")" :: o))) → Spelled P (")" :: o) ts →
      Yields P o (fun r => ∀ a ∈ r.1, a.CallsNamed P (room (")" :: o)))
        (argumentsNext fuel stage args keywords ts)
  | 0, _, _, _, _, _, _, _ => .none
  | fuel + 1, stage, args, keywords, o, ts, hargs, h => by
    unfold argumentsNext
    split
    · exact .some (by simpa using hargs) h.tail
    · exact yields_arguments fuel stage keywords hargs h.tail
    · exact .none

theorem yields_subscript : ∀ (fuel : Nat) {o : List String} {ts : List Token},
    Spelled P ("]" :: o) ts → Yields P o Anything (subscript fuel ts)
  | 0, _, _, _ => .none
  | fuel + 1, o, ts, h => by
    unfold subscript
    refine .bind (yields_sliceItem fuel h) fun first _ _ hrest => ?_
    dsimp only
    split
    · split
      · exact .any hrest.tail
      · exact .any hrest.tail
    · exact .bind (yields_sliceItems fuel hrest.tail) fun _ _ _ hrest => .any hrest
    · exact .none

theorem yields_sliceItems : ∀ (fuel : Nat) {o : List String} {ts : List Token},
    Spelled P ("]" :: o) ts → Yields P o Anything (sliceItems fuel ts)
  | 0, _, _, _ => .none
  | fuel + 1, o, ts, h => by
    unfold sliceItems
    split
    · exact .any h.tail
    · refine .bind (yields_sliceItem fuel h) fun _ _ _ hrest => ?_
      dsimp only
      split
      · exact .any hrest.tail
      · exact .bind (yields_sliceItems fuel hrest.tail) fun _ _ _ hrest => .any hrest
      · exact .none

theorem yields_sliceItem : ∀ (fuel : Nat) {o : List String} {ts : List Token}, Spelled P o ts →
    Yields P o Anything (sliceItem fuel ts)
  | 0, _, _, _ => .none
  | fuel + 1, o, ts, h => by
    unfold sliceItem
    split
    · exact .bind (yields_expression fuel h.tail) fun _ _ _ hrest => .any hrest
    · split_ifs
      · exact (yields_named fuel h).anything
      · refine .bind (yields_optional fuel h) fun lower _ _ hrest => ?_
        dsimp only
        split
        · refine .bind (yields_optional fuel hrest.tail) fun _ _ _ hrest => ?_
          dsimp only
          split
          · exact .bind (yields_optional fuel hrest.tail) fun _ _ _ hrest => .any hrest
          · exact .any hrest
        · split
          · exact .any hrest
          · exact .none

theorem yields_optional : ∀ (fuel : Nat) {o : List String} {ts : List Token}, Spelled P o ts →
    Yields P o Anything (optional fuel ts)
  | 0, _, _, _ => .none
  | fuel + 1, o, ts, h => by
    unfold optional
    split
    · exact .any h
    · exact .any h
    · exact .any h
    · rw [Option.map_eq_bind]
      exact .bind (yields_expression fuel h) fun _ _ _ hrest => .any hrest

theorem yields_atom : ∀ (fuel : Nat) {o : List String} {ts : List Token}, Spelled P o ts →
    Yields P o (Expr.CallsNamed P (room o)) (atom fuel ts)
  | 0, _, _, _ => .none
  | fuel + 1, o, ts, h => by
    unfold atom
    split
    case h_1 => exact .some (.name h.head) h.tail
    case h_9 =>
      intro e rest heq
      obtain ⟨e, he, hsome⟩ := Option.map_eq_some_iff.mp heq
      obtain ⟨rfl, rfl⟩ := Prod.mk.inj hsome
      exact ⟨callsNamed_of_quotedTexts he, spelled_quotedRun h.tail⟩
    case h_10 => exact yields_parenthesized fuel h.opened.1
    case h_11 => exact yields_bracketed fuel h.opened.1
    case h_12 => exact yields_braced fuel h.opened.1
    case h_13 => exact .none
    all_goals exact .some (.other rfl rfl) h.tail

theorem yields_parenthesized : ∀ (fuel : Nat) {o : List String} {ts : List Token},
    Spelled P (")" :: o) ts → Yields P o (Expr.CallsNamed P (room o)) (parenthesized fuel ts)
  | 0, _, _, _ => .none
  | fuel + 1, o, ts, h => by
    unfold parenthesized
    split
    · exact .some (.other rfl rfl) h.tail
    · refine .bind (yields_yielded fuel h.tail) fun e _ he hrest => ?_
      exact .expect hrest fun _ hrest => .some (he.mono (room_cons_le _)) hrest
    · refine .bind (yields_item fuel h) fun first _ hfirst hrest => ?_
      dsimp only
      split
      · refine .bind (yields_items fuel (fun _ => rfl) hrest.tail) fun _ _ _ hrest => ?_
        exact .some (.other rfl rfl) hrest
      · split_ifs
        · exact .none
        · refine .bind (yields_clauses fuel hrest) fun _ _ _ hrest => ?_
          exact .expect hrest fun _ hrest => .some (.other rfl rfl) hrest
        · exact .expect hrest fun _ hrest => .some (hfirst.mono (room_cons_le _)) hrest

theorem yields_yielded : ∀ (fuel : Nat) {o : List String} {ts : List Token}, Spelled P o ts →
    Yields P o (Expr.CallsNamed P (room o)) (yielded fuel ts)
  | 0, _, _, _ => .none
  | fuel + 1, o, ts, h => by
    unfold yielded
    split
    · refine .bind (yields_expression fuel h.tail) fun _ _ _ hrest => ?_
      exact .some (.other rfl rfl) hrest
    · exact .some (.other rfl rfl) h
    · refine .bind (yields_yieldedItem fuel h) fun _ _ _ hrest => ?_
      dsimp only
      split
      · refine .bind (yields_yieldedItems fuel hrest.tail) fun _ _ _ hrest => ?_
        exact .some (.other rfl rfl) hrest
      · exact .some (.other rfl rfl) hrest

theorem yields_yieldedItem : ∀ (fuel : Nat) {o : List String} {ts : List Token}, Spelled P o ts →
    Yields P o Anything (yieldedItem fuel ts)
  | 0, _, _, _ => .none
  | fuel + 1, o, ts, h => by
    unfold yieldedItem
    split
    · exact .bind (yields_operation fuel 0 h.tail) fun _ _ _ hrest => .any hrest
    · exact (yields_expression fuel h).anything

theorem yields_yieldedItems : ∀ (fuel : Nat) {o : List String} {ts : List Token}, Spelled P o ts →
    Yields P o Anything (yieldedItems fuel ts)
  | 0, _, _, _ => .none
  | fuel + 1, o, ts, h => by
    unfold yieldedItems
    split
    · exact .any h
    · refine .bind (yields_yieldedItem fuel h) fun _ _ _ hrest => ?_
      dsimp only
      split
      · exact .bind (yields_yieldedItems fuel hrest.tail) fun _ _ _ hrest => .any hrest
      · exact .any hrest

theorem yields_items : ∀ (fuel : Nat) {close : String},
    (∀ o, Token.track (close :: o) (.mark close) = some o) → ∀ {o : List String}
    {ts : List Token}, Spelled P (close :: o) ts → Yields P o Anything (items fuel close ts)
  | 0, _, _, _, _, _ => .none
  | fuel + 1, close, hclose, o, ts, h => by
    unfold items
    split
    · rename_i heq
      exact .any (spelled_of_expect h (hclose o) heq)
    · refine .bind (yields_item fuel h) fun _ _ _ hrest => ?_
      dsimp only
      split
      · exact .bind (yields_items fuel hclose hrest.tail) fun _ _ _ hrest => .any hrest
      · exact .expect hrest (fun _ hrest => .any hrest) (hclose o)

theorem yields_bracketed : ∀ (fuel : Nat) {o : List String} {ts : List Token},
    Spelled P ("]" :: o) ts → Yields P o (Expr.CallsNamed P (room o)) (bracketed fuel ts)
  | 0, _, _, _ => .none
  | fuel + 1, o, ts, h => by
    unfold bracketed
    split
    · exact .some (.other rfl rfl) h.tail
    · refine .bind (yields_item fuel h) fun _ _ _ hrest => ?_
      dsimp only
      split
      · refine .bind (yields_items fuel (fun _ => rfl) hrest.tail) fun _ _ _ hrest => ?_
        exact .some (.other rfl rfl) hrest
      · split_ifs
        · split
          · exact .none
          · refine .bind (yields_clauses fuel hrest) fun _ _ _ hrest => ?_
            exact .expect hrest fun _ hrest => .some (.other rfl rfl) hrest
        · exact .expect hrest fun _ hrest => .some (.other rfl rfl) hrest

theorem yields_braced : ∀ (fuel : Nat) {o : List String} {ts : List Token},
    Spelled P ("\x7d" :: o) ts → Yields P o (Expr.CallsNamed P (room o)) (braced fuel ts)
  | 0, _, _, _ => .none
  | fuel + 1, o, ts, h => by
    unfold braced
    split
    · exact .some (.other rfl rfl) h.tail
    · exact .bind (yields_entries fuel h) fun _ _ _ hrest => .some (.other rfl rfl) hrest
    · refine .bind (yields_item fuel h) fun _ _ _ hrest => ?_
      dsimp only
      split
      · split_ifs
        · exact .none
        · refine .bind (yields_expression fuel hrest.tail) fun _ _ _ hrest => ?_
          dsimp only
          split_ifs
          · refine .bind (yields_clauses fuel hrest) fun _ _ _ hrest => ?_
            exact .expect hrest fun _ hrest => .some (.other rfl rfl) hrest
          · split
            · refine .bind (yields_entries fuel hrest.tail) fun _ _ _ hrest => ?_
              exact .some (.other rfl rfl) hrest
            · exact .expect hrest fun _ hrest => .some (.other rfl rfl) hrest
      · refine .bind (yields_items fuel (fun _ => rfl) hrest.tail) fun _ _ _ hrest => ?_
        exact .some (.other rfl rfl) hrest
      · split_ifs
        · split
          · exact .none
          · refine .bind (yields_clauses fuel hrest) fun _ _ _ hrest => ?_
            exact .expect hrest fun _ hrest => .some (.other rfl rfl) hrest
        · exact .expect hrest fun _ hrest => .some (.other rfl rfl) hrest

theorem yields_entries : ∀ (fuel : Nat) {o : List String} {ts : List Token},
    Spelled P ("\x7d" :: o) ts → Yields P o Anything (entries fuel ts)
  | 0, _, _, _ => .none
  | fuel + 1, o, ts, h => by
    unfold entries
    split
    · exact .any h.tail
    · refine .bind (yields_operation fuel 0 h.tail) fun _ _ _ hrest => ?_
      exact yields_entriesNext fuel _ hrest
    · refine .bind (yields_expression fuel h) fun _ _ _ hrest => .expect hrest fun _ hrest => ?_
      refine .bind (yields_expression fuel hrest) fun _ _ _ hrest => ?_
      exact yields_entriesNext fuel _ hrest

theorem yields_entriesNext : ∀ (fuel : Nat) (entry : Option Expr × Expr) {o : List String}
    {ts : List Token}, Spelled P ("\x7d" :: o) ts →
      Yields P o Anything (entriesNext fuel entry ts)
  | 0, _, _, _, _ => .none
  | fuel + 1, entry, o, ts, h => by
    unfold entriesNext
    split
    · exact .any h.tail
    · exact .bind (yields_entries fuel h.tail) fun _ _ _ hrest => .any hrest
    · exact .none

theorem yields_clauses : ∀ (fuel : Nat) {o : List String} {ts : List Token}, Spelled P o ts →
    Yields P o Anything (clauses fuel ts)
  | 0, _, _, _ => .none
  | fuel + 1, o, ts, h => by
    unfold clauses
    extract_lets readClause
    -- what follows the words of the clause is the same with and without `async`
    have hclause : ∀ isAsync rest, Spelled P o rest →
        Yields P o Anything (readClause (isAsync, rest)) := by
      intro isAsync rest hrest
      refine .bind (yields_targets fuel hrest) fun _ _ _ hrest => ?_
      dsimp only
      split
      · refine .bind (yields_disjunction fuel hrest.tail) fun _ _ _ hrest => ?_
        refine .bind (yields_conditions fuel hrest) fun _ _ _ hrest => ?_
        dsimp only
        split_ifs
        · exact .bind (yields_clauses fuel hrest) fun _ _ _ hrest => .any hrest
        · exact .any hrest
      · exact .none
    split
    · exact hclause true _ h.tail.tail
    · exact hclause false _ h.tail
    · exact .none

theorem yields_conditions : ∀ (fuel : Nat) {o : List String} {ts : List Token}, Spelled P o ts →
    Yields P o Anything (conditions fuel ts)
  | 0, _, _, _ => .none
  | fuel + 1, o, ts, h => by
    unfold conditions
    split
    · refine .bind (yields_disjunction fuel h.tail) fun _ _ _ hrest => ?_
      exact .bind (yields_conditions fuel hrest) fun _ _ _ hrest => .any hrest
    · exact .any h

theorem yields_targets : ∀ (fuel : Nat) {o : List String} {ts : List Token}, Spelled P o ts →
    Yields P o Anything (targets fuel ts)
  | 0, _, _, _ => .none
  | fuel + 1, o, ts, h => by
    unfold targets
    refine .bind (yields_target fuel h) fun _ _ _ hrest => ?_
    dsimp only
    split
    · exact .bind (yields_moreTargets fuel hrest.tail) fun _ _ _ hrest => .any hrest
    · exact .any hrest

theorem yields_moreTargets : ∀ (fuel : Nat) {o : List String} {ts : List Token}, Spelled P o ts →
    Yields P o Anything (moreTargets fuel ts)
  | 0, _, _, _ => .none
  | fuel + 1, o, ts, h => by
    unfold moreTargets
    split
    · exact .any h
    · refine .bind (yields_target fuel h) fun _ _ _ hrest => ?_
      dsimp only
      split
      · exact .bind (yields_moreTargets fuel hrest.tail) fun _ _ _ hrest => .any hrest
      · exact .any hrest

theorem yields_target : ∀ (fuel : Nat) {o : List String} {ts : List Token}, Spelled P o ts →
    Yields P o Anything (target fuel ts)
  | 0, _, _, _ => .none
  | fuel + 1, o, ts, h => by
    unfold target
    split
    · refine .bind (yields_primary fuel h.tail) fun _ _ _ hrest => ?_
      dsimp only
      split_ifs
      · exact .any hrest
      · exact .none
    · refine .bind (yields_primary fuel h) fun _ _ _ hrest => ?_
      dsimp only
      split_ifs
      · exact .any hrest
      · exact .none

theorem yields_parameters : ∀ (fuel : Nat) (state : ParamState) (params : List Param)
    {o : List String} {ts : List Token}, Spelled P o ts →
      Yields P o Anything (parameters fuel state params ts)
  | 0, _, _, _, _, _ => .none
  | fuel + 1, state, params, o, ts, h => by
    unfold parameters
    split
    · split_ifs
      · exact .none
      · exact .any h.tail
    · split_ifs
      · exact .none
      · exact yields_parametersNext fuel _ _ h.tail
    · split_ifs
      · exact .none
      · refine .expect ?_ fun _ hrest => .any hrest
        split
        · exact h.tail.tail.tail
        · exact h.tail.tail
    · split_ifs
      · exact .none
      · exact yields_parameters fuel _ _ h.tail.tail
    · split_ifs
      · exact .none
      · exact yields_parametersNext fuel _ _ h.tail.tail
    · refine .bind (yields_expression fuel h.tail.tail) fun _ _ _ hrest => ?_
      exact yields_parametersNext fuel _ _ hrest
    · split_ifs
      · exact .none
      · exact yields_parametersNext fuel _ _ h.tail
      · exact yields_parametersNext fuel _ _ h.tail
    · exact .none

theorem yields_parametersNext : ∀ (fuel : Nat) (state : ParamState) (params : List Param)
    {o : List String} {ts : List Token}, Spelled P o ts →
      Yields P o Anything (parametersNext fuel state params ts)
  | 0, _, _, _, _, _ => .none
  | fuel + 1, state, params, o, ts, h => by
    unfold parametersNext
    split
    · exact .any h.tail
    · exact yields_parameters fuel state params h.tail
    · exact .none

end

theorem yields_moreExpressions {fuel steps : Nat} {ts : List Token} (h : Spelled P o ts) :
    Yields P o Anything (moreExpressions fuel steps ts) := by
  induction steps generalizing ts with
  | zero => exact .none
  | succ steps ih =>
    unfold moreExpressions
    split
    · exact .any h.tail
    · refine .bind (yields_expression fuel h.tail) fun _ _ _ hrest => ?_
      exact .bind (ih hrest) fun _ _ _ hrest => .any hrest
    · exact .any h

theorem yields_expressions {fuel : Nat} {ts : List Token} (h : Spelled P o ts) :
    Yields P o (Expr.CallsNamed P (room o)) (expressions fuel ts) := by
  unfold expressions
  refine .bind (yields_expression fuel h) fun first _ hfirst hrest => ?_
  dsimp only
  split
  · exact .bind (yields_moreExpressions hrest) fun _ _ _ hrest => .some (.other rfl rfl) hrest
  · exact .some hfirst hrest

end Reader

/-- **What a text spells** calls only names that are among its tokens, and its calls are nested no
deeper than brackets may be. -/
theorem callsNamed_of_read {P : String → Prop} {cs : List Char} {e : Expr}
    (hspelled : ∀ ts, Token.scan cs = some ts → Spelled P [] ts) (h : Expr.read cs = some e) :
    e.CallsNamed P Token.maxDepth := by
  unfold Expr.read at h
  split at h
  · cases h
  · rename_i ts hscan
    split at h
    · rename_i e' rest hread
      split_ifs at h
      obtain rfl := Option.some.inj h
      exact (Reader.yields_expressions (hspelled ts hscan) _ _ hread).1
    · cases h

end FragmentRoutes.Code
