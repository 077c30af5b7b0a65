import RuleLint.Pattern.Meaning
import RuleLint.Proofs.Pattern.Stretches

namespace RuleLint.Pattern

open Stretch

variable {text word before piece after : List Char} {set : CharSet} {c : Char} {m : Matcher}
    {ms : List Matcher}

theorem CharSet.contains_single {a : Char} : (CharSet.single c).contains a = true ↔ a = c := by
  simp [contains, single, Unicode.inRanges, ← Char.toNat_inj, Nat.le_antisymm_iff, and_comm]

theorem CharSet.contains_all : CharSet.all.contains c = true := by
  have hvalid : c.toNat < 0xD800 ∨ 0xDFFF < c.toNat ∧ c.toNat < 0x110000 := c.valid
  simp [contains, all, Unicode.inRanges]
  omega

theorem matchesInTurn_append (ms ms' : List Matcher) :
    MatchesInTurn (ms ++ ms') = (MatchesInTurn ms).followedBy (MatchesInTurn ms') := by
  induction ms with
  | nil => simp [MatchesInTurn]
  | cons m ms ih => simp only [List.cons_append, MatchesInTurn, ih, followedBy_assoc]

theorem matchesInTurn_singleton (m : Matcher) :
    MatchesInTurn [m] = m.Matches := by simp [MatchesInTurn]

@[simp] theorem matchesInTurn_word :
    MatchesInTurn (word.map fun c => Matcher.chars (.single c)) before piece after ↔
      piece = word := by
  induction word generalizing before piece with
  | nil => rfl
  | cons c word ih =>
    simp [MatchesInTurn, Matcher.Matches, Stretch.followedBy, ih, CharSet.contains_single]

theorem matchesOneOf_iff :
    MatchesOneOf ms before piece after ↔ ∃ m ∈ ms, m.Matches before piece after := by
  induction ms with
  | nil => simp [MatchesOneOf]
  | cons m ms ih => simp [MatchesOneOf, Stretch.either, ih]

theorem matchesIn_choice_iff :
    (Matcher.choice ms).matchesIn text = true ↔ ∃ m ∈ ms, m.matchesIn text = true := by
  simp only [matchesIn_iff, Matcher.Matches, matchesOneOf_iff]
  constructor
  · rintro ⟨before, piece, after, htext, m, hm, hmatch⟩
    exact ⟨m, hm, before, piece, after, htext, hmatch⟩
  · rintro ⟨m, hm, before, piece, after, htext, hmatch⟩
    exact ⟨before, piece, after, htext, m, hm, hmatch⟩

theorem matches_chars :
    (Matcher.chars set).Matches before piece after ↔ ∃ c, piece = [c] ∧ set.contains c = true :=
  .rfl

theorem times_chars {n : Nat} :
    times (Matcher.chars set).Matches n before piece after ↔
      piece.length = n ∧ ∀ c ∈ piece, set.contains c = true := by
  induction n generalizing before piece with
  | zero => simp +contextual [times, nothing]
  | succ n ih =>
    unfold times Stretch.followedBy
    simp only [ih, matches_chars]
    constructor
    · rintro ⟨_, q, rfl, ⟨c, rfl, hc⟩, rfl, hq⟩
      exact ⟨by simp, by simpa using ⟨hc, hq⟩⟩
    · rintro ⟨hlength, hall⟩
      obtain ⟨c, q, rfl⟩ := List.exists_cons_of_length_eq_add_one hlength
      obtain ⟨hc, hq⟩ := List.forall_mem_cons.mp hall
      exact ⟨[c], q, rfl, ⟨c, rfl, hc⟩, Nat.succ.inj hlength, hq⟩

theorem matches_repetition_chars :
    (Matcher.repetition 1 none (.chars set)).Matches before piece after ↔
    piece ≠ [] ∧ ∀ c ∈ piece, set.contains c = true := by
  rw [Matcher.Matches]
  simp [times_chars, List.length_pos_iff, Nat.one_le_iff_ne_zero]

theorem matches_look_start :
    (Matcher.look .start).Matches before piece after ↔ before = [] ∧ piece = [] := by
  simp [Matcher.Matches, Look.holds, and_comm]

theorem matches_look_stop :
    (Matcher.look .stop).Matches before piece after ↔ after = [] ∧ piece = [] := by
  simp [Matcher.Matches, Look.holds, and_comm]

/-- Between the two anchors nothing less than the whole text is matched. -/
theorem matchesIn_between_anchors :
    (Matcher.concat (.look .start :: ms ++ [.look .stop])).matchesIn text = true ↔
      MatchesInTurn ms [] text [] := by
  rw [matchesIn_iff, Matcher.Matches, List.cons_append, MatchesInTurn, matchesInTurn_append,
    matchesInTurn_singleton]
  constructor
  · rintro ⟨before, _, after, rfl, _, _, rfl, hstart, piece, _, rfl, hmatch, hstop⟩
    obtain ⟨rfl, rfl⟩ := matches_look_start.mp hstart
    obtain ⟨rfl, rfl⟩ := matches_look_stop.mp hstop
    simpa using hmatch
  · intro hmatch
    exact ⟨[], text,
      [], by simp, [], text, rfl, matches_look_start.mpr ⟨rfl, rfl⟩, text,
      [], by simp, by simpa using hmatch, matches_look_stop.mpr ⟨rfl, rfl⟩⟩

/-- All that is matched begins with this character. -/
def Matcher.Needs (m : Matcher) (c : Char) : Prop :=
  ∀ before piece after, m.Matches before piece after → [c] <+: piece

theorem needs_chars (c : Char) : (Matcher.chars (.single c)).Needs c := by
  rintro before _ after ⟨a, rfl, ha⟩
  obtain rfl := CharSet.contains_single.mp ha
  exact List.prefix_rfl

theorem Matcher.Needs.repetition (h : m.Needs c) {least : Nat} (hleast : least ≠ 0)
    (most : Option Nat) :
    (Matcher.repetition least most m).Needs c := by
  rintro before piece after ⟨n, hn, -, htimes⟩
  obtain ⟨n, rfl⟩ := Nat.exists_eq_succ_of_ne_zero (n := n) (by omega)
  obtain ⟨p, q, rfl, hfirst, -⟩ := htimes
  exact (h _ _ _ hfirst).trans (List.prefix_append p q)

/-- A match of an anchored matcher begins with the word behind the anchor, and with what is needed
behind the word. -/
theorem prefix_of_matchesIn
    (h : (Matcher.concat (.look .start :: word.map (fun c => Matcher.chars (.single c)) ++
      m :: ms)).matchesIn text = true) :
    word <+: text ∧ (m.Needs c → word ++ [c] <+: text) := by
  obtain ⟨before, piece, after, rfl, hmatch⟩ := matchesIn_iff.mp h
  rw [Matcher.Matches, List.cons_append, MatchesInTurn, matchesInTurn_append] at hmatch
  obtain ⟨_, _, rfl, hstart, _, rest, rfl, hword, p, q, rfl, hm, -⟩ := hmatch
  obtain ⟨rfl, rfl⟩ := matches_look_start.mp hstart
  obtain rfl := matchesInTurn_word.mp hword
  refine ⟨by simp, fun hneeds => ?_⟩
  obtain ⟨more, rfl⟩ := hneeds _ _ _ hm
  exact ⟨more ++ q ++ after, by simp⟩

end RuleLint.Pattern
