import Mathlib.Data.List.Basic
import RuleLint.Pattern.Matcher

namespace RuleLint.Pattern

/-- A condition on a stretch of a text and on what stands before and behind it. -/
abbrev Stretch := (before piece after : List Char) → Prop

namespace Stretch

variable {R S T : Stretch} {before piece after : List Char} {n : Nat}

def nothing : Stretch := fun _ piece _ => piece = []

def followedBy (R S : Stretch) : Stretch := fun before piece after =>
  ∃ p q, piece = p ++ q ∧ R before p (q ++ after) ∧ S (before ++ p) q after

def either (R S : Stretch) : Stretch :=
  fun before piece after => R before piece after ∨ S before piece after

def times (R : Stretch) : Nat → Stretch
  | 0 => nothing
  | n + 1 => R.followedBy (R.times n)

def upTo (R : Stretch) (n : Nat) : Stretch :=
  fun before piece after => ∃ k ≤ n, R.times k before piece after

@[simp] theorem nothing_followedBy (R : Stretch) : nothing.followedBy R = R := by
  funext before piece after
  simp [followedBy, nothing]

@[simp] theorem followedBy_nothing (R : Stretch) : R.followedBy nothing = R := by
  funext before piece after
  simp [followedBy, nothing]

theorem followedBy_assoc (R S T : Stretch) :
    (R.followedBy S).followedBy T = R.followedBy (S.followedBy T) := by
  funext before piece after
  unfold followedBy
  apply propext
  constructor
  · rintro ⟨_, r, rfl, ⟨p, q, rfl, hR, hS⟩, hT⟩
    exact ⟨p, q ++ r, by simp, by simpa using hR, q, r, rfl, hS, by simpa using hT⟩
  · rintro ⟨p, _, rfl, hR, q, r, rfl, hS, hT⟩
    exact ⟨p ++ q, r, by simp, ⟨p, q, rfl, by simpa using hR, hS⟩, by simpa using hT⟩

theorem times_add (R : Stretch) (m n : Nat) :
    R.times (m + n) = (R.times m).followedBy (R.times n) := by
  induction m with
  | zero => simp [times]
  | succ m ih =>
    rw [Nat.succ_add, times, ih, times, followedBy_assoc]

/-- Empty stretches can be left out. -/
theorem exists_times_le_length (h : R.times n before piece after) :
    ∃ k ≤ piece.length, R.times k before piece after := by
  induction n generalizing before piece with
  | zero => exact ⟨0, Nat.zero_le _, h⟩
  | succ n ih =>
    obtain ⟨p, q, rfl, hR, hS⟩ := h
    obtain ⟨k, hk, htimes⟩ := ih hS
    cases p with
    | nil => exact ⟨k, hk, by simpa using htimes⟩
    | cons c p =>
      refine ⟨k + 1, ?_, c :: p, q, rfl, hR, htimes⟩
      simp only [List.length_append, List.length_cons]
      omega

theorem upTo_zero (R : Stretch) : R.upTo 0 = nothing := by
  funext before piece after
  simp [upTo, times]

theorem upTo_succ (R : Stretch) (n : Nat) :
    R.upTo (n + 1) = (nothing.either R).followedBy (R.upTo n) := by
  funext before piece after
  apply propext
  constructor
  · rintro ⟨k, hk, h⟩
    cases k with
    | zero => exact ⟨[], piece, rfl, .inl rfl, 0, Nat.zero_le _, by simpa using h⟩
    | succ k =>
      obtain ⟨p, q, rfl, hR, hS⟩ := h
      exact ⟨p, q, rfl, .inr hR, k, Nat.le_of_succ_le_succ hk, hS⟩
  · rintro ⟨p, q, rfl, rfl | hR, k, hk, h⟩
    · exact ⟨k, by omega, by simpa using h⟩
    · exact ⟨k + 1, by omega, p, q, rfl, hR, h⟩

theorem times_followedBy_upTo (R : Stretch) (least extra : Nat) :
    ((R.times least).followedBy (R.upTo extra)) before piece after ↔
      ∃ n, least ≤ n ∧ n ≤ least + extra ∧ R.times n before piece after := by
  constructor
  · rintro ⟨p, q, rfl, hleast, k, hk, hextra⟩
    refine ⟨least + k, by omega, by omega, ?_⟩
    rw [times_add]
    exact ⟨p, q, rfl, hleast, hextra⟩
  · rintro ⟨n, hleast, hmost, h⟩
    obtain ⟨k, rfl⟩ := Nat.exists_eq_add_of_le hleast
    rw [times_add] at h
    obtain ⟨p, q, rfl, hfirst, hrest⟩ := h
    exact ⟨p, q, rfl, hfirst, k, by omega, hrest⟩

end Stretch

open Stretch

mutual

/-- What a matcher matches. What is repeated is there at least so many times and at most so many; if
these contradict each other, the least number counts. -/
def Matcher.Matches : Matcher → Stretch
  | .empty => nothing
  | .chars set => fun _ piece _ => ∃ c, piece = [c] ∧ set.contains c = true
  | .look l => fun before piece after => piece = [] ∧ l.holds before.getLast? after.head? = true
  | .repetition least most m => fun before piece after =>
    ∃ n, least ≤ n ∧ (∀ b ∈ most, n ≤ max least b) ∧ times m.Matches n before piece after
  | .concat ms => MatchesInTurn ms
  | .choice ms => MatchesOneOf ms

def MatchesInTurn : List Matcher → Stretch
  | [] => nothing
  | m :: ms => m.Matches.followedBy (MatchesInTurn ms)

def MatchesOneOf : List Matcher → Stretch
  | [] => fun _ _ _ => False
  | m :: ms => m.Matches.either (MatchesOneOf ms)

end

namespace Places

variable {text : List Char} {places a b : Places} {step step' : Places → Places} {R S : Stretch}
    {i j n : Nat}

/-- One of the places is the one before the character number `i`. -/
def Has (places : Places) (i : Nat) : Prop := places[i]? = some true

theorem not_isEmpty_iff : (! isEmpty places) = true ↔ ∃ i, places.Has i := by
  unfold isEmpty Has
  rw [Bool.not_not, List.any_eq_true, ← List.mem_iff_getElem?]
  simp

theorem has_union_iff (h : a.length = b.length) : (union a b).Has i ↔ a.Has i ∨ b.Has i := by
  unfold Has union
  rw [List.getElem?_zipWith]
  by_cases hi : i < a.length
  · rw [List.getElem?_eq_getElem hi, List.getElem?_eq_getElem (h ▸ hi)]
    simp
  · rw [List.getElem?_eq_none (by omega), List.getElem?_eq_none (by omega)]
    simp

/-- From places in the text the step finds where the stretches end that start there. -/
structure Finds (text : List Char) (step : Places → Places) (R : Stretch) : Prop where
  length : ∀ places, places.length = text.length + 1 → (step places).length = text.length + 1
  has_iff : ∀ places, places.length = text.length + 1 → ∀ j, (step places).Has j ↔
    ∃ before piece after, text = before ++ piece ++ after ∧ places.Has before.length ∧
      before.length + piece.length = j ∧ R before piece after

theorem Finds.congr (h : Finds text step R)
    (heq : ∀ before piece after, text = before ++ piece ++ after →
      (R before piece after ↔ S before piece after)) :
    Finds text step S where
  length := h.length
  has_iff places hlength j := by
    rw [h.has_iff places hlength]
    refine exists_congr fun before => exists_congr fun piece => exists_congr fun after => ?_
    exact and_congr_right fun htext => by rw [heq before piece after htext]

theorem finds_nothing (text : List Char) : Finds text id nothing where
  length _ h := h
  has_iff places h j := by
    constructor
    · intro hj
      have hlt : j < places.length := (List.getElem?_eq_some_iff.mp hj).1
      have hlength : (text.take j).length = j := List.length_take_of_le (by omega)
      exact ⟨text.take j, [], text.drop j, by simp, by rwa [hlength], hlength, rfl⟩
    · rintro ⟨before, piece, after, -, hbefore, rfl, rfl⟩
      exact hbefore

theorem finds_none (text : List Char) :
    Finds text (fun places => places.map fun _ => false) (fun _ _ _ => False) where
  length places h := by rw [List.length_map, h]
  has_iff places h j := by
    simp only [Has, and_false, exists_false, iff_false]
    exact fun hj => Bool.false_ne_true (by simpa using List.mem_of_getElem? hj)

theorem Finds.followedBy (h : Finds text step R) (h' : Finds text step' S) :
    Finds text (fun places => step' (step places)) (R.followedBy S) where
  length places hlength := h'.length _ (h.length _ hlength)
  has_iff places hlength j := by
    rw [h'.has_iff _ (h.length _ hlength)]
    constructor
    · rintro ⟨before, q, after, htext, hmid, rfl, hS⟩
      obtain ⟨front, p, rest, htext', hfront, hend, hR⟩ := (h.has_iff places hlength _).mp hmid
      -- Both ways to cut the text cut it at the place between the stretches.
      have hcut : front ++ p ++ rest =
          before ++ (q ++ after) := by rw [← htext', htext, List.append_assoc]
      obtain ⟨rfl, rfl⟩ := List.append_inj hcut (by simpa using hend)
      refine ⟨front, p ++ q, after, by simpa using htext, hfront, ?_, p, q, rfl, hR, hS⟩
      simp only [List.length_append]
      omega
    · rintro ⟨before, _, after, htext, hbefore, rfl, p, q, rfl, hR, hS⟩
      have hmid :=
        (h.has_iff places hlength _).mpr
          ⟨before, p, q ++ after, by simpa using htext, hbefore, rfl, hR⟩
      refine ⟨before ++ p, q, after, by simpa using htext, by simpa using hmid, ?_, hS⟩
      simp only [List.length_append]
      omega

theorem Finds.either (h : Finds text step R) (h' : Finds text step' S) :
    Finds text (fun places => (step places).union (step' places)) (R.either S) where
  length places hlength := by
    unfold union
    rw [List.length_zipWith, h.length places hlength, h'.length places hlength, Nat.min_self]
  has_iff places hlength j := by
    rw [has_union_iff (by rw [h.length places hlength, h'.length places hlength]),
      h.has_iff places hlength, h'.has_iff places hlength]
    unfold Stretch.either
    constructor
    · rintro (⟨before, piece, after, htext, hbefore, hend, hR⟩ |
        ⟨before, piece, after, htext, hbefore, hend, hS⟩)
      · exact ⟨before, piece, after, htext, hbefore, hend, .inl hR⟩
      · exact ⟨before, piece, after, htext, hbefore, hend, .inr hS⟩
    · rintro ⟨before, piece, after, htext, hbefore, hend, hR | hS⟩
      · exact .inl ⟨before, piece, after, htext, hbefore, hend, hR⟩
      · exact .inr ⟨before, piece, after, htext, hbefore, hend, hS⟩

theorem iterate_of_fixed (h : step places = places) (n : Nat) : iterate step n places = places := by
  cases n <;> simp [iterate, h]

theorem iterate_succ (step : Places → Places) (n : Nat) (places : Places) :
    iterate step (n + 1) places = iterate step n (step places) := by
  rw [iterate]
  split_ifs with h
  · rw [h, iterate_of_fixed h]
  · rfl

theorem Finds.iterate (h : Finds text step R) (n : Nat) : Finds text (iterate step n)
    (R.times n) := by
  induction n with
  | zero => exact finds_nothing text
  | succ n ih =>
    rw [funext (iterate_succ step n)]
    exact h.followedBy ih

theorem closure_of_fixed (h : union places (step places) = places) (n : Nat) :
    closure step n places = places := by
  cases n <;> simp [closure, h]

theorem closure_succ (step : Places → Places) (n : Nat) (places : Places) :
    closure step (n + 1) places = closure step n (union places (step places)) := by
  rw [closure]
  split_ifs with h
  · rw [h, closure_of_fixed h]
  · rfl

theorem Finds.closure (h : Finds text step R) (n : Nat) : Finds text (closure step n)
    (R.upTo n) := by
  induction n with
  | zero =>
    rw [upTo_zero]
    exact finds_nothing text
  | succ n ih =>
    rw [funext (closure_succ step n), upTo_succ]
    exact ((finds_nothing text).either h).followedBy ih

theorem has_afterChar_iff {set : CharSet} :
    (places.afterChar set text).Has j ↔
      ∃ i c, i + 1 = j ∧ places.Has i ∧ text[i]? = some c ∧ set.contains c = true := by
  unfold afterChar Has
  cases j with
  | zero => simp
  | succ i => simp [List.getElem?_zipWith_eq_some]

theorem finds_afterChar (text : List Char) (set : CharSet) :
    Finds text (afterChar set text) (Matcher.chars set).Matches where
  length places h := by
    unfold afterChar
    simp [h]
  has_iff places h j := by
    rw [has_afterChar_iff, Matcher.Matches]
    constructor
    · rintro ⟨i, c, rfl, hi, hc, hset⟩
      obtain ⟨hlt, rfl⟩ := List.getElem?_eq_some_iff.mp hc
      have hlength : (text.take i).length = i := List.length_take_of_le (by omega)
      exact ⟨text.take i, [text[i]],
        text.drop (i + 1), by simp, by rwa [hlength], by simp [hlength], _, rfl, hset⟩
    · rintro ⟨before, _, after, rfl, hbefore, rfl, c, rfl, hset⟩
      exact ⟨before.length, c, rfl, hbefore, by simp, hset⟩

/-- A condition is looked at where one is: between what has been passed and what is left. -/
theorem has_filterLook_iff {l : Look} (passed : List Char) {rest : List Char}
    (h : places.length = rest.length + 1) :
    (places.filterLook l passed.getLast? rest).Has j ↔
      ∃ before after, rest = before ++ after ∧ before.length = j ∧ places.Has j ∧
        l.holds (passed ++ before).getLast? after.head? = true := by
  induction rest generalizing passed places j with
  | nil =>
    obtain ⟨here, rfl⟩ := List.length_eq_one_iff.mp h
    cases j <;> simp [Has, filterLook]
  | cons c rest ih =>
    obtain ⟨here, places, rfl⟩ := List.exists_cons_of_length_eq_add_one h
    rw [filterLook]
    cases j with
    | zero => simp [Has]
    | succ k =>
      have hrest := ih (passed ++ [c]) (j := k) (Nat.succ.inj h)
      rw [List.getLast?_concat] at hrest
      unfold Has at hrest ⊢
      simp only [List.getElem?_cons_succ, hrest]
      constructor
      · rintro ⟨before, after, rfl, rfl, hhere, hholds⟩
        exact ⟨c :: before, after, rfl, rfl, hhere, by simpa using hholds⟩
      · rintro ⟨before, after, hcut, hlength, hhere, hholds⟩
        obtain ⟨_, before, rfl⟩ := List.exists_cons_of_length_eq_add_one hlength
        obtain ⟨rfl, rfl⟩ := List.cons.inj hcut
        exact ⟨before, after, rfl, Nat.succ.inj hlength, hhere, by simpa using hholds⟩

theorem length_filterLook {l : Look} {passed : Option Char} {rest : List Char}
    (h : places.length = rest.length + 1) :
    (places.filterLook l passed rest).length = places.length := by
  induction rest generalizing passed places with
  | nil =>
    obtain ⟨here, rfl⟩ := List.length_eq_one_iff.mp h
    rfl
  | cons c rest ih =>
    obtain ⟨here, places, rfl⟩ := List.exists_cons_of_length_eq_add_one h
    rw [filterLook, List.length_cons, ih (Nat.succ.inj h), List.length_cons]

theorem finds_filterLook (text : List Char) (l : Look) :
    Finds text (filterLook l none text) (Matcher.look l).Matches where
  length places h := by rw [length_filterLook h, h]
  has_iff places h j := by
    rw [Matcher.Matches]
    refine (has_filterLook_iff [] h).trans ?_
    constructor
    · rintro ⟨before, after, rfl, rfl, hhere, hholds⟩
      exact ⟨before, [], after, by simp, hhere, rfl, rfl, hholds⟩
    · rintro ⟨before, _, after, rfl, hhere, rfl, rfl, hholds⟩
      exact ⟨before, after, by simp, rfl, hhere, hholds⟩

end Places

variable {text : List Char} {m : Matcher}

/-- No more is found by more steps than the text has characters. -/
theorem Places.Finds.repetition (h : Places.Finds text (fun places => m.ends text places) m.Matches)
    (least : Nat) (most : Option Nat) :
    Places.Finds text (fun places => (Matcher.repetition least most m).ends text places)
      (Matcher.repetition least most m).Matches := by
  refine ((h.iterate least).followedBy
    (h.closure ((most.map (· - least)).getD (text.length + 1)))).congr
      fun before piece after htext => ?_
  rw [times_followedBy_upTo, Matcher.Matches]
  cases most with
  | some b =>
    refine exists_congr fun n => and_congr_right fun _ => and_congr_left fun _ => ?_
    simp only [Option.map_some, Option.getD_some, Option.mem_some_iff, forall_eq']
    omega
  | none =>
    simp only [Option.map_none, Option.getD_none, Option.mem_def, reduceCtorEq, IsEmpty.forall_iff,
      implies_true, true_and]
    constructor
    · rintro ⟨n, hleast, -, htimes⟩
      exact ⟨n, hleast, htimes⟩
    · rintro ⟨n, hleast, htimes⟩
      obtain ⟨k, rfl⟩ := Nat.exists_eq_add_of_le hleast
      rw [times_add] at htimes
      obtain ⟨p, q, rfl, hfirst, hrest⟩ := htimes
      -- What is repeated beyond the least number has no more stretches that are not empty than
      -- characters.
      obtain ⟨k, hk, hshort⟩ := exists_times_le_length hrest
      refine ⟨least + k, by omega, ?_, ?_⟩
      · rw [htext]
        simp only [List.length_append]
        omega
      · rw [times_add]
        exact ⟨p, q, rfl, hfirst, hshort⟩

mutual

theorem finds_ends (text : List Char) (m : Matcher) :
    Places.Finds text (fun places => m.ends text places) m.Matches := by
  match m with
  | .empty => exact Places.finds_nothing text
  | .chars set => exact Places.finds_afterChar text set
  | .look l => exact Places.finds_filterLook text l
  | .repetition least most m => exact (finds_ends text m).repetition least most
  | .concat ms => exact finds_concatEnds text ms
  | .choice ms => exact finds_choiceEnds text ms

theorem finds_concatEnds (text : List Char) (ms : List Matcher) :
    Places.Finds text (fun places => concatEnds text places ms) (MatchesInTurn ms) := by
  match ms with
  | [] => exact Places.finds_nothing text
  | m :: ms => exact (finds_ends text m).followedBy (finds_concatEnds text ms)

theorem finds_choiceEnds (text : List Char) (ms : List Matcher) :
    Places.Finds text (fun places => choiceEnds text places ms) (MatchesOneOf ms) := by
  match ms with
  | [] => exact Places.finds_none text
  | m :: ms => exact (finds_ends text m).either (finds_choiceEnds text ms)

end

/-- A text holds a match if one of its stretches is matched. -/
theorem matchesIn_iff : m.matchesIn text = true ↔
    ∃ before piece after, text = before ++ piece ++ after ∧ m.Matches before piece after := by
  rw [Matcher.matchesIn, Places.not_isEmpty_iff]
  have hends :=
    (finds_ends text m).has_iff (List.replicate (text.length + 1) true) List.length_replicate
  simp only [hends]
  constructor
  · rintro ⟨_, before, piece, after, htext, -, -, hmatch⟩
    exact ⟨before, piece, after, htext, hmatch⟩
  · rintro ⟨before, piece, after, rfl, hmatch⟩
    -- A match may start at every place.
    refine ⟨_, before, piece, after, rfl, ?_, rfl, hmatch⟩
    rw [Places.Has, List.getElem?_replicate_of_lt]
    simp only [List.length_append]
    omega

end RuleLint.Pattern
