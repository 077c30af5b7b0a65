import RuleLint.Pattern.Reading

namespace RuleLint.Pattern

namespace Reading

variable {α β : Type} {a : α} {r r' : Reader}

theorem bind_apply (x : Reading β) (f : β → Reading α) (r : Reader) :
    (x >>= f) r =
      match x r with
      | .ok (b, r') => f b r'
      | .error fault => .error fault := by
  show (x r).bind (fun (b, r') => f b r') = _
  cases x r <;> rfl

theorem get_apply (r : Reader) : (get : Reading Reader) r = .ok (r, r) := rfl

theorem set_apply (s r : Reader) : (set s : Reading PUnit) r = .ok (⟨⟩, s) := rfl

theorem modify_apply (f : Reader → Reader) (r : Reader) :
    (modify f : Reading Unit) r = .ok ((), f r) := rfl

theorem pure_apply (a : α) (r : Reader) : (pure a : Reading α) r = .ok (a, r) := rfl

/-- Whatever a reading gives has the property. -/
def Gives (x : Reading α) (P : α → Prop) : Prop := ∀ r a r', x r = .ok (a, r') → P a

namespace Gives

variable {P : α → Prop} {Q : β → Prop} {x y : Reading α}

theorem of_pure (h : P a) : Gives (pure a) P := by
  rintro r a' r' ⟨⟩
  exact h

theorem of_fail (kind : FaultKind) (span : Span) (earlier : Option Span) :
    Gives (fail kind span earlier) P := nofun

theorem of_bind {x : Reading β} {f : β → Reading α} (hx : Gives x Q)
    (hf : ∀ b, Q b → Gives (f b) P) :
    Gives (x >>= f) P := by
  intro r a r' h
  rw [bind_apply] at h
  cases hb : x r with
  | error fault =>
    rw [hb] at h
    contradiction
  | ok result =>
    obtain ⟨b, r''⟩ := result
    rw [hb] at h
    exact hf b (hx r b r'' hb) r'' a r' h

theorem of_any {x : Reading β} {f : β → Reading α} (hf : ∀ b, Gives (f b) P) : Gives (x >>= f) P :=
  of_bind (Q := fun _ => True) (fun _ _ _ _ => trivial) fun b _ => hf b

theorem of_ite {p : Prop} [Decidable p] (hx : p → Gives x P) (hy : ¬ p → Gives y P) :
    Gives (if p then x else y) P := by
  split
  · exact hx ‹_›
  · exact hy ‹_›

end Gives

end Reading

open Reading

/-- A part as it is, or repeated, perhaps more than once. -/
inductive Expr.Repeats (e : Expr) : Expr → Prop
  | once : Repeats e e
  | more {e' : Expr} (h : Repeats e e') (span : Span) (least : Nat) (most : Option Nat) :
      Repeats e (.repetition span least most e')

/-- Parts, the last first, that go back to `e` and `before`, where `e` may have been repeated. -/
def GoesBackTo (e : Expr) (before done : List Expr) : Prop :=
  ∃ more e', e.Repeats e' ∧ done = more ++ e' :: before

variable {e : Expr} {before done : List Expr}

theorem goesBackTo_self (e : Expr) (before : List Expr) : GoesBackTo e before (e :: before) :=
  ⟨[], e, .once, rfl⟩

theorem GoesBackTo.cons (h : GoesBackTo e before done) (next : Expr) :
    GoesBackTo e before (next :: done) := by
  obtain ⟨more, e', hrepeats, rfl⟩ := h
  exact ⟨next :: more, e', hrepeats, rfl⟩

theorem GoesBackTo.repetition {last : Expr} (h : GoesBackTo e before (last :: done)) (span : Span)
    (least : Nat) (most : Option Nat) :
    GoesBackTo e before (.repetition span least most last :: done) := by
  obtain ⟨more, e', hrepeats, hdone⟩ := h
  cases more with
  | nil =>
    obtain ⟨rfl, rfl⟩ := List.cons.inj hdone
    exact ⟨[], _, hrepeats.more span least most, rfl⟩
  | cons _ more =>
    obtain ⟨rfl, rfl⟩ := List.cons.inj hdone
    exact ⟨_ :: more, e', hrepeats, rfl⟩

theorem gives_repeatable : (repeatable done).Gives fun (last, rest) => done = last :: rest := by
  unfold repeatable
  split
  · exact .of_any fun _ => .of_fail _ _ _
  · exact .of_any fun _ => .of_fail _ _ _
  · exact .of_any fun _ => .of_fail _ _ _
  · exact .of_pure rfl

theorem gives_readRepetition (h : GoesBackTo e before done) (c : Char) :
    (readRepetition c done).Gives (GoesBackTo e before) := by
  unfold readRepetition
  refine .of_bind gives_repeatable ?_
  rintro ⟨last, rest⟩ rfl
  have hcounts (counts : Nat × Option Nat) :
      (do return .repetition (← since last.span.start) counts.1 counts.2 last ::
        rest : Reading (List Expr)).Gives
        (GoesBackTo e before) :=
    .of_any fun span => .of_pure (h.repetition span counts.1 counts.2)
  exact .of_ite (fun _ => .of_any hcounts) fun _ => .of_any fun _ => .of_any fun _ => hcounts _

/-- What has been read of an alternative stays at its front. -/
theorem gives_readConcat (start : Position) (h : GoesBackTo e before done) (fuel : Nat) :
    (readConcat start done fuel).Gives fun read =>
      ∃ span done', GoesBackTo e before done' ∧ read = concatOf span done' := by
  induction fuel generalizing done with
  | zero =>
    unfold readConcat
    exact .of_any fun _ => .of_fail _ _ _
  | succ fuel ih =>
    have hdone : (do return concatOf (← since start) done : Reading Expr).Gives fun read =>
        ∃ span done', GoesBackTo e before done' ∧ read = concatOf span done' :=
      .of_any fun span => .of_pure ⟨span, done, h, rfl⟩
    unfold readConcat
    refine .of_any fun _ => .of_any fun r => ?_
    split
    · exact hdone
    · refine .of_ite (fun _ => hdone) fun _ => .of_ite (fun _ => ?_) fun _ =>
        .of_ite (fun _ => ?_) fun _ =>
        .of_ite (fun _ => ?_) fun _ => ?_
      · exact .of_any fun _ => ih (h.cons _)
      · exact .of_any fun _ => ih (h.cons _)
      · exact .of_bind (gives_readRepetition h _) fun _ hnext => ih hnext
      · exact .of_any fun _ => ih (h.cons _)

theorem gives_readAlternatives (start : Position) (hdone : done ≠ []) (fuel : Nat) :
    (readAlternatives start done fuel).Gives fun read =>
      ∃ span others, read = .alternation span (done.reverse ++ others) := by
  induction fuel generalizing done with
  | zero =>
    unfold readAlternatives
    exact .of_any fun _ => .of_fail _ _ _
  | succ fuel ih =>
    unfold readAlternatives
    refine .of_any fun _ => .of_any fun branch => .of_any fun _ => .of_ite (fun _ => ?_) fun _ => ?_
    · refine .of_any fun _ => ?_
      intro r read r' h
      obtain ⟨span, others, rfl⟩ := ih (List.cons_ne_nil branch done) r read r' h
      exact ⟨span, branch :: others, by simp⟩
    · rw [if_neg hdone]
      exact .of_any fun span => .of_pure ⟨span, [branch], by simp⟩

/-- Characters that end an alternative, open a part of it or repeat one. -/
def structural : List Char := ['|', ')', '(', '[', '?', '*', '+', '\x7b']

/-- Characters of which one alone is a part, other than itself. -/
def symbolic : List Char := ['\\', '.', '^', '$']

/-- A character that stands for itself in a pattern. -/
def IsPlain (c : Char) : Prop := c ∉ structural ∧ c ∉ symbolic

instance (c : Char) : Decidable (IsPlain c) := inferInstanceAs (Decidable (_ ∧ _))

variable {c : Char} {cs word : List Char} {p : Primitive} {r r' : Reader}

theorem readPrimitive_plain (hrest : r.rest = c :: cs) (hc : c ∉ symbolic) :
    readPrimitive r = .ok (.literal ⟨r.charSpan, c, false⟩, r.bump) := by
  simp only [symbolic, List.mem_cons, List.not_mem_nil, or_false, not_or] at hc
  obtain ⟨hescape, hdot, hstart, hstop⟩ := hc
  simp [readPrimitive, bind_apply, get_apply, set_apply, pure_apply, hrest]

theorem readPrimitive_anchor (hrest : r.rest = '^' :: cs) :
    readPrimitive r = .ok (.assertion r.charSpan .startLine, r.bump) := by
  simp [readPrimitive, bind_apply, get_apply, set_apply, pure_apply, hrest]

theorem readConcat_primitive (hrest : r.rest = c :: cs) (hverbose : r.verbose = false)
    (hc : c ∉ structural) (hp : readPrimitive r = .ok (p, r')) (start : Position) (done : List Expr)
    (fuel : Nat) :
    readConcat start done (fuel + 1) r = readConcat start (p.expr :: done) fuel r' := by
  have hskip : r.skipSpace = r := by
    unfold Reader.skipSpace
    rw [hverbose]
    rfl
  simp only [structural, List.mem_cons, List.not_mem_nil, or_false, not_or] at hc
  obtain ⟨hbar, hclose, hopen, hclass, hoption, hstar, hplus, hbrace⟩ := hc
  rw [readConcat]
  simp [bind_apply, get_apply, modify_apply, hskip, hrest, hp, hbar, hclose, hopen, hclass, hoption,
    hstar, hplus, hbrace]

theorem Reader.bump_of_rest (hrest : r.rest = c :: cs) :
    r.bump.rest = cs ∧ r.bump.verbose = r.verbose := by
  unfold bump
  rw [hrest]
  exact ⟨rfl, rfl⟩

def Spells (ls : List Literal) (word : List Char) : Prop :=
  ls.map Literal.char = word ∧ ∀ l ∈ ls, l.isByte = false

theorem Spells.cons {ls : List Literal} (h : Spells ls word) (span : Span) (c : Char) :
    Spells (⟨span, c, false⟩ :: ls) (c :: word) :=
  ⟨congrArg (c :: ·) h.1, List.forall_mem_cons.mpr ⟨rfl, h.2⟩⟩

theorem readConcat_word (hplain : ∀ c ∈ word, IsPlain c) (hrest : r.rest = word ++ cs)
    (hverbose : r.verbose = false) (start : Position) (done : List Expr) (fuel : Nat) :
    ∃ ls r', Spells ls word ∧ r'.rest = cs ∧ r'.verbose = false ∧
      readConcat start done (fuel + word.length) r =
        readConcat start ((ls.map Expr.literal).reverse ++ done) fuel r' := by
  induction word generalizing r done with
  | nil => exact ⟨[], r, ⟨rfl, nofun⟩, hrest, hverbose, rfl⟩
  | cons c word ih =>
    obtain ⟨⟨hstructural, hsymbolic⟩, hword⟩ := List.forall_mem_cons.mp hplain
    obtain ⟨hbump, hquiet⟩ := Reader.bump_of_rest hrest
    obtain ⟨ls, r', hspells, hrest', hverbose', hread⟩ :=
      ih hword hbump (hquiet.trans hverbose) (.literal ⟨r.charSpan, c, false⟩ :: done)
    refine ⟨⟨r.charSpan, c, false⟩ :: ls, r', hspells.cons r.charSpan c, hrest', hverbose', ?_⟩
    rw [List.length_cons, ← Nat.add_assoc,
      readConcat_primitive hrest hverbose hstructural (readPrimitive_plain hrest hsymbolic)]
    exact hread.trans (by simp)

/-- An alternative that starts with an anchor, a word and then `last`, which is a character or
repeats one. -/
structure LeadsWith (word : List Char) (c : Char) (e last : Expr) : Prop where
  parts : ∃ span anchor ls more, Spells ls word ∧
    e = .concat span (.assertion anchor .startLine :: ls.map Expr.literal ++ last :: more)
  repeats : ∃ l, Spells [l] [c] ∧ (Expr.literal l).Repeats last

theorem concatOf_of_two_le (h : 2 ≤ done.length) (span : Span) :
    concatOf span done = .concat span done.reverse := by
  match done with
  | _ :: _ :: _ => rfl

/-- Behind an anchor, a word and a character there is only more to come, or a repetition of the
character. -/
theorem leadsWith_of_readConcat (hplain : ∀ c ∈ word, IsPlain c) (hc : IsPlain c)
    (hrest : r.rest = '^' :: word ++ c :: cs) (hverbose : r.verbose = false) (start : Position)
    (fuel : Nat) (h : readConcat start [] (fuel + 1 + word.length + 1) r = .ok (e, r')) :
    ∃ last, LeadsWith word c e last := by
  obtain ⟨hbump, hquiet⟩ := Reader.bump_of_rest hrest
  rw [readConcat_primitive hrest hverbose (by decide) (readPrimitive_anchor hrest)] at h
  obtain ⟨ls, r₁, hspells, hrest₁, hverbose₁, hword⟩ :=
    readConcat_word hplain hbump (hquiet.trans hverbose) start
      [.assertion r.charSpan .startLine] (fuel + 1)
  have hread := h.symm.trans (hword.trans
    (readConcat_primitive hrest₁ hverbose₁ hc.1 (readPrimitive_plain hrest₁ hc.2) start _ fuel))
  obtain ⟨span, _, ⟨more, last, hrepeats, rfl⟩, rfl⟩ :=
    gives_readConcat start (goesBackTo_self _ _) fuel _ _ _ hread.symm
  rw [concatOf_of_two_le (by simp only [List.length_append, List.length_cons]; omega)]
  exact ⟨last, ⟨span, r.charSpan, ls, more.reverse, hspells, by simp⟩, _, ⟨rfl, by simp⟩, hrepeats⟩

theorem exists_readConcat_of_readAlternatives {start : Position} {fuel : Nat}
    (h : readAlternatives start [] (fuel + 1) r = .ok (e, r')) :
    ∃ first r₁, readConcat r.pos [] fuel r = .ok (first, r₁) ∧
      (e = first ∨ ∃ span others, e = .alternation span (first :: others)) := by
  rw [readAlternatives, bind_apply, get_apply] at h
  dsimp only at h
  rw [bind_apply] at h
  cases hfirst : readConcat r.pos [] fuel r with
  | error fault =>
    rw [hfirst] at h
    contradiction
  | ok result =>
    obtain ⟨first, r₁⟩ := result
    refine ⟨first, r₁, rfl, ?_⟩
    rw [hfirst] at h
    dsimp only at h
    rw [bind_apply, get_apply] at h
    dsimp only at h
    split at h
    · obtain ⟨span, others, rfl⟩ :=
        gives_readAlternatives start (List.cons_ne_nil first []) fuel _ _ _ h
      exact .inr ⟨span, others, rfl⟩
    · obtain ⟨rfl, -⟩ := Prod.mk.inj (Except.ok.inj h)
      exact .inl rfl

theorem exists_readAlternatives_of_read {s : List Char} (h : read s = .ok e) :
    ∃ r', readAlternatives {} [] (3 * s.length + 3) { rest := s } = .ok (e, r') := by
  unfold read at h
  rw [StateT.run] at h
  cases hread : readAlternatives {} [] (3 * s.length + 3) { rest := s } with
  | error fault =>
    rw [hread] at h
    contradiction
  | ok result =>
    obtain ⟨e', r'⟩ := result
    rw [hread] at h
    dsimp only [bind, Except.bind] at h
    cases hend : r'.atEnd with
    | false =>
      rw [hend] at h
      contradiction
    | true =>
      rw [hend] at h
      cases hdeep : e'.tooDeep? nestLimit with
      | some span =>
        simp only [hdeep] at h
        contradiction
      | none =>
        simp only [hdeep] at h
        exact ⟨r', by rw [Except.ok.inj h]⟩

/-- The first alternative of a pattern leads with what the pattern starts with. -/
theorem leadsWith_of_read (hplain : ∀ c ∈ word, IsPlain c) (hc : IsPlain c)
    (h : read ('^' :: word ++ c :: cs) = .ok e) :
    ∃ first last, LeadsWith word c first last ∧
      (e = first ∨ ∃ span others, e = .alternation span (first :: others)) := by
  obtain ⟨r', hread⟩ := exists_readAlternatives_of_read h
  -- There is fuel for every character, and some left.
  obtain ⟨fuel, hfuel⟩ : ∃ fuel, 3 * ('^' :: word ++ c :: cs).length + 3 =
      fuel + 1 + word.length + 1 + 1 :=
    ⟨2 * word.length + 3 * cs.length + 6,
      by simp only [List.cons_append, List.length_cons, List.length_append]; omega⟩
  rw [hfuel] at hread
  obtain ⟨first, r₁, hfirst, he⟩ := exists_readConcat_of_readAlternatives hread
  obtain ⟨last, hleads⟩ := leadsWith_of_readConcat hplain hc rfl rfl _ fuel hfirst
  exact ⟨first, last, hleads, he⟩

end RuleLint.Pattern
