import RuleLint.Pattern.Basic
import RuleLint.Proofs.Pattern.Leading
import RuleLint.Proofs.Pattern.Matching

namespace RuleLint.Pattern

open Reading

def Matcher.otherAlternatives : Matcher → List Matcher
  | .choice (_ :: others) => others
  | _ => []

namespace Expr

def parts : Expr → List Expr
  | .concat _ es => es
  | e => [e]

def leadingParts : Expr → List Expr
  | .alternation _ (first :: _) => first.parts
  | e => e.parts

def isOptional : Expr → Bool
  | .repetition _ least _ e => least = 0 || e.isOptional
  | _ => false

end Expr

variable {e first last : Expr} {es : List Expr} {ls : List Literal} {l : Literal} {c : Char}
    {cs word : List Char}
variable {m : Matcher} {ms : List Matcher} {f f' : Flags}

theorem matcher_literal (h : Spells [l] [c]) :
    (Expr.literal l).matcher {} = .ok (.chars (.single c), {}) := by
  obtain ⟨span, c', isByte⟩ := l
  obtain ⟨hc, hbyte⟩ := h
  obtain rfl : c' = c := List.head_eq_of_cons_eq hc
  obtain rfl : isByte = false := hbyte _ List.mem_cons_self
  rfl

theorem exists_of_matchers_cons (h : matchers f (e :: es) = .ok (ms, f')) :
    ∃ m f₁ ms', e.matcher f = .ok (m, f₁) ∧ matchers f₁ es = .ok (ms', f') ∧ ms = m :: ms' := by
  rw [matchers] at h
  cases he : e.matcher f with
  | error fault =>
    rw [he] at h
    contradiction
  | ok first =>
    obtain ⟨m, f₁⟩ := first
    rw [he] at h
    dsimp only [bind, Except.bind] at h
    cases hes : matchers f₁ es with
    | error fault =>
      rw [hes] at h
      contradiction
    | ok rest =>
      obtain ⟨ms', f₂⟩ := rest
      rw [hes] at h
      obtain ⟨rfl, rfl⟩ := Prod.mk.inj (Except.ok.inj h)
      exact ⟨m, f₁, ms', rfl, hes, rfl⟩

theorem exists_of_matchers_word (hspells : Spells ls word)
    (h : matchers {} (ls.map Expr.literal ++ es) = .ok (ms, f)) :
    ∃ ms', matchers {} es = .ok (ms', f) ∧
    ms = word.map (fun c => Matcher.chars (.single c)) ++ ms' := by
  obtain ⟨rfl, hbytes⟩ := hspells
  induction ls generalizing ms with
  | nil => exact ⟨ms, h, rfl⟩
  | cons l ls ih =>
    obtain ⟨hbyte, hrest⟩ := List.forall_mem_cons.mp hbytes
    obtain ⟨m, f₁, ms', hm, hms, rfl⟩ := exists_of_matchers_cons h
    obtain ⟨rfl, rfl⟩ :=
      Prod.mk.inj (Except.ok.inj ((matcher_literal ⟨rfl, by simpa using hbyte⟩).symm.trans hm))
    obtain ⟨ms'', hes, rfl⟩ := ih hms hrest
    exact ⟨ms'', hes, rfl⟩

theorem matcher_of_repeats (hspells : Spells [l] [c]) (hrepeats : (Expr.literal l).Repeats last) :
    ∃ m, last.matcher {} = .ok (m, {}) ∧ (last.isOptional = false → m.Needs c) := by
  induction hrepeats with
  | once => exact ⟨_, matcher_literal hspells, fun _ => needs_chars c⟩
  | more h span least most ih =>
    obtain ⟨m, hm, hneeds⟩ := ih
    refine ⟨.repetition least most m, ?_, fun hoptional => ?_⟩
    · rw [Expr.matcher, hm]
      rfl
    · rw [Expr.isOptional, Bool.or_eq_false_iff, decide_eq_false_iff_not] at hoptional
      exact (hneeds hoptional.2).repetition hoptional.1 most

theorem LeadsWith.leadingParts (h : LeadsWith word c first last) :
    first.leadingParts = first.parts := by
  obtain ⟨span, anchor, ls, more, -, rfl⟩ := h.parts
  rfl

theorem LeadsWith.getElem?_parts (h : LeadsWith word c first last) :
    first.parts[word.length + 1]? = some last := by
  obtain ⟨span, anchor, ls, more, hspells, rfl⟩ := h.parts
  rw [← hspells.1]
  simp [Expr.parts]

/-- What an alternative that leads with a word means is an anchor, the characters of the word, and
what the last character has become. -/
theorem LeadsWith.exists_matcher (hleads : LeadsWith word c first last)
    (h : first.matcher {} = .ok (m, f)) :
    ∃ m' ms, m =
      .concat (.look .start :: word.map (fun c => Matcher.chars (.single c)) ++ m' :: ms) ∧
      (last.isOptional = false → m'.Needs c) := by
  obtain ⟨span, anchor, ls, more, hspells, rfl⟩ := hleads.parts
  obtain ⟨l, hl, hrepeats⟩ := hleads.repeats
  rw [Expr.matcher] at h
  cases hparts :
    matchers {} (.assertion anchor .startLine :: ls.map Expr.literal ++ last :: more) with
  | error fault =>
    rw [hparts] at h
    contradiction
  | ok result =>
    obtain ⟨ms, f'⟩ := result
    rw [hparts] at h
    obtain ⟨rfl, -⟩ := Prod.mk.inj (Except.ok.inj h)
    obtain ⟨m₀, f₀, ms₀, hanchor, hms₀, rfl⟩ := exists_of_matchers_cons hparts
    obtain ⟨rfl, rfl⟩ := Prod.mk.inj (Except.ok.inj hanchor)
    obtain ⟨ms₁, hms₁, rfl⟩ := exists_of_matchers_word hspells hms₀
    obtain ⟨m', f₁, ms', hlast, -, rfl⟩ := exists_of_matchers_cons hms₁
    obtain ⟨m'', hm'', hneeds⟩ := matcher_of_repeats hl hrepeats
    obtain ⟨rfl, rfl⟩ := Prod.mk.inj (Except.ok.inj (hm''.symm.trans hlast))
    exact ⟨m'', ms', rfl, hneeds⟩

theorem exists_of_compile {text : String} {p : Pattern} (h : compile text = .ok p) :
    ∃ e f, read text.toList = .ok e ∧ e.matcher {} = .ok (p.matcher, f) := by
  unfold compile meaning at h
  cases he : read text.toList with
  | error fault =>
    rw [he] at h
    contradiction
  | ok e =>
    cases hm : e.matcher {} with
    | error fault =>
      simp only [he, bind, Except.bind, hm] at h
      contradiction
    | ok result =>
      obtain ⟨m, f⟩ := result
      simp only [he, bind, Except.bind, hm, pure, Except.pure] at h
      split at h
      · contradiction
      · exact ⟨e, f, rfl, by rw [← Except.ok.inj h, hm]⟩

/-- A match of a first alternative that leads with a word begins with it. -/
theorem prefix_of_leadsWith {text : List Char} (hleads : LeadsWith word c first last)
    (hm : first.matcher {} = .ok (m, f)) (h : m.matchesIn text = true) :
    word ++ [c] <+: text ∨ last.isOptional = true ∧ word <+: text := by
  obtain ⟨m', ms, rfl, hneeds⟩ := hleads.exists_matcher hm
  obtain ⟨hword, hall⟩ := prefix_of_matchesIn h
  cases hoptional : last.isOptional with
  | false => exact .inl (hall (hneeds hoptional))
  | true => exact .inr ⟨rfl, hword⟩

theorem exists_of_matcher_alternation {span : Span} {others : List Expr}
    (h : (Expr.alternation span (first :: others)).matcher f = .ok (m, f')) :
    ∃ m₁ f₁ ms, first.matcher f = .ok (m₁, f₁) ∧ m = .choice (m₁ :: ms) := by
  rw [Expr.matcher] at h
  cases hms : matchers f (first :: others) with
  | error fault =>
    rw [hms] at h
    contradiction
  | ok result =>
    obtain ⟨ms, f''⟩ := result
    rw [hms] at h
    obtain ⟨rfl, -⟩ := Prod.mk.inj (Except.ok.inj h)
    obtain ⟨m₁, f₁, ms', hfirst, -, rfl⟩ := exists_of_matchers_cons hms
    exact ⟨m₁, f₁, ms', hfirst, rfl⟩

/-- The match of a pattern that starts with an anchor, a word and a character begins with the word
and the character, unless the character may be left out, or another alternative is matched. -/
theorem prefix_of_isMatch (hplain : ∀ c ∈ word, IsPlain c) (hc : IsPlain c) {text : String}
    {p : Pattern} (htext : text.toList = '^' :: word ++ c :: cs) (hp : compile text = .ok p) :
    ∃ e, read text.toList = .ok e ∧ ∀ u : String, p.isMatch u = true →
      word ++ [c] <+: u.toList ∨
      (∃ last, e.leadingParts[word.length + 1]? = some last ∧ last.isOptional = true ∧
        word <+: u.toList) ∨
      ∃ m ∈ p.matcher.otherAlternatives, m.matchesIn u.toList = true := by
  obtain ⟨e, f, hread, hmatcher⟩ := exists_of_compile hp
  refine ⟨e, hread, fun u hu => ?_⟩
  have hmatch : p.matcher.matchesIn u.toList = true := hu
  rw [htext] at hread
  obtain ⟨first, last, hleads, hfirst⟩ := leadsWith_of_read hplain hc hread
  have hlast : e.leadingParts[word.length + 1]? = some last := by
    rw [← hleads.getElem?_parts]
    rcases hfirst with rfl | ⟨span, others, rfl⟩
    · rw [hleads.leadingParts]
    · rfl
  have hstarts {m : Matcher} {f : Flags} (hm : first.matcher {} = .ok (m, f))
      (h : m.matchesIn u.toList = true) :
      word ++ [c] <+: u.toList ∨
      ∃ last, e.leadingParts[word.length + 1]? = some last ∧ last.isOptional = true ∧
      word <+: u.toList :=
    (prefix_of_leadsWith hleads hm h).imp_right fun hoptional => ⟨last, hlast, hoptional⟩
  -- The whole is its first alternative, or one of the alternatives is matched.
  rw [← or_assoc]
  rcases hfirst with rfl | ⟨span, others, rfl⟩
  · exact .inl (hstarts hmatcher hmatch)
  · obtain ⟨m₁, f₁, ms, hm₁, hchoice⟩ := exists_of_matcher_alternation hmatcher
    rw [hchoice] at hmatch ⊢
    obtain ⟨m, hm, hone⟩ := matchesIn_choice_iff.mp hmatch
    rcases List.mem_cons.mp hm with rfl | hm
    · exact .inl (hstarts hm₁ hone)
    · exact .inr ⟨m, hm, hone⟩

end RuleLint.Pattern
