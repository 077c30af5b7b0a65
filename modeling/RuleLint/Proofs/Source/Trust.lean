import RuleLint.Proofs.Pattern.Matching
import RuleLint.Proofs.Steps
import RuleLint.Proofs.Text.Fields
import RuleLint.Source.Trust

namespace RuleLint.Source

open Text Pattern

variable {part : ShapePart} {parts : List ShapePart}
    {stops s before piece after : List Char} {c : Char}

def ShapePart.Fits : ShapePart → List Char → Prop
  | .exact word, s => s = word.toList
  | .segment stops, s => s ≠ [] ∧ ∀ c ∈ s, c ∉ stops
  | .remainder, s => s ≠ [] ∧ '\n' ∉ s

theorem exists_pieces_of_hasShape (h : hasShape parts s = true) :
    ∃ pieces, List.Forall₂ ShapePart.Fits parts pieces ∧ s = pieces.flatten := by
  induction parts generalizing s with
  | nil => exact ⟨[], .nil, List.isEmpty_iff.mp h⟩
  | cons part parts ih =>
    cases part with
    | exact word =>
      unfold hasShape at h
      split at h
      · rename_i rest hrest
        obtain ⟨pieces, hpieces, rfl⟩ := ih h
        exact ⟨word.toList :: pieces, .cons rfl hpieces, rest?_eq_some_iff.mp hrest⟩
      · contradiction
    | segment stops =>
      rw [hasShape, Bool.and_eq_true, decide_eq_true_eq] at h
      obtain ⟨hne, hrest⟩ := h
      obtain ⟨pieces, hpieces, hs⟩ := ih hrest
      refine ⟨s.takeWhile (· ∉ stops) :: pieces, .cons ⟨hne, ?_⟩ hpieces, ?_⟩
      · intro c hc
        exact of_decide_eq_true (List.all_eq_true.mp List.all_takeWhile c hc)
      · rw [List.flatten_cons, ← hs, List.takeWhile_append_dropWhile]
    | remainder =>
      simp only [hasShape, Bool.and_eq_true, decide_eq_true_eq] at h
      obtain ⟨⟨hne, hline⟩, hrest⟩ := h
      obtain ⟨pieces, hpieces, hs⟩ := ih hrest
      refine ⟨s :: pieces, .cons ⟨hne, hline⟩ hpieces, ?_⟩
      rw [List.flatten_cons, ← hs, List.append_nil]

/-- Every segment is followed by a word that begins with one of the characters it stops at, and
nothing by what is left. -/
def IsDelimited : List ShapePart → Prop
  | [] => True
  | .exact _ :: parts => IsDelimited parts
  | .segment stops :: parts =>
    (∃ word rest, parts = .exact word :: rest ∧ ∃ c ∈ word.toList.head?, c ∈ stops) ∧
      IsDelimited parts
  | .remainder :: parts => parts = []

theorem takeWhile_append_of_stops (hs : ∀ c ∈ s, c ∉ stops) (hc : c ∈ stops) (after : List Char) :
    (s ++ c :: after).takeWhile (· ∉ stops) = s ∧ (s ++ c :: after).dropWhile (· ∉ stops) =
      c :: after := by
  have hpass : ∀ c ∈ s, decide (c ∉ stops) = true := fun c h => decide_eq_true (hs c h)
  rw [List.takeWhile_append_of_pos hpass, List.dropWhile_append_of_pos hpass]
  simp [hc]

/-- A delimited shape is had by all the texts that fall into such pieces. -/
theorem hasShape_iff (h : IsDelimited parts) :
    hasShape parts s = true ↔
      ∃ pieces, List.Forall₂ ShapePart.Fits parts pieces ∧ s = pieces.flatten := by
  refine ⟨exists_pieces_of_hasShape, ?_⟩
  rintro ⟨pieces, hpieces, rfl⟩
  induction hpieces with
  | nil => rfl
  | @cons part piece parts pieces hpiece hpieces ih =>
    cases part with
    | exact word =>
      obtain rfl := hpiece
      rw [hasShape, List.flatten_cons, rest?_eq_some_iff.mpr rfl]
      exact ih h
    | segment stops =>
      obtain ⟨⟨word, rest, rfl, c, hword, hc⟩, hrest⟩ := h
      -- What follows the segment begins with a character that the segment has not.
      obtain ⟨w, hw⟩ := List.head?_eq_some_iff.mp hword
      obtain ⟨after, hafter⟩ : ∃ after, pieces.flatten = c :: after := by
        obtain ⟨_, pieces, rfl, -, rfl⟩ := List.forall₂_cons_left_iff.mp hpieces
        exact ⟨w ++ pieces.flatten, by rw [List.flatten_cons, hw, List.cons_append]⟩
      obtain ⟨htake, hdrop⟩ := takeWhile_append_of_stops hpiece.2 hc after
      rw [hasShape, List.flatten_cons, hafter, htake, hdrop, ← hafter, ih hrest, Bool.and_true]
      exact decide_eq_true hpiece.1
    | remainder =>
      obtain rfl : parts = [] := h
      cases hpieces
      simpa [hasShape, ShapePart.Fits] using hpiece

/-- The characters that a segment stops at, as a class that names them is read. -/
def stopSet : List Char → CharSet
  | [c] => .single c
  | stops => stops.foldr (fun c s => .union (.single c) s) .empty

def ShapePart.matchers : ShapePart → List Matcher
  | .exact word => word.toList.map fun c => .chars (.single c)
  | .segment stops => [.repetition 1 none (.chars (.compl (stopSet stops)))]
  | .remainder => [.repetition 1 none (.chars (.minus .all (.single '\n')))]

def shapeMatcher (parts : List ShapePart) : Matcher :=
  .concat (.look .start :: parts.flatMap ShapePart.matchers ++ [.look .stop])

theorem contains_stopSet : (stopSet stops).contains c = true ↔ c ∈ stops := by
  have hclass : (stops.foldr (fun c s => .union (.single c) s) CharSet.empty).contains c = true ↔
      c ∈ stops := by
    induction stops with
    | nil => simp [CharSet.contains, CharSet.empty, Unicode.inRanges]
    | cons a stops ih => simp [CharSet.contains, CharSet.contains_single, ih]
  unfold stopSet
  split
  · simp [CharSet.contains_single]
  · exact hclass

theorem matches_matchers_iff :
    MatchesInTurn part.matchers before piece after ↔ part.Fits piece := by
  cases part with
  | exact word => exact matchesInTurn_word
  | segment stops =>
    rw [ShapePart.matchers, matchesInTurn_singleton, matches_repetition_chars]
    simp [ShapePart.Fits, CharSet.contains, ← contains_stopSet]
  | remainder =>
    rw [ShapePart.matchers, matchesInTurn_singleton, matches_repetition_chars]
    refine and_congr_right fun _ => ?_
    simp [CharSet.minus, CharSet.contains, CharSet.contains_all, Bool.eq_false_iff,
      CharSet.contains_single, List.forall_mem_ne']

theorem matches_flatMap_matchers_iff :
    MatchesInTurn (parts.flatMap ShapePart.matchers) before piece after ↔
    ∃ pieces, List.Forall₂ ShapePart.Fits parts pieces ∧ piece = pieces.flatten := by
  induction parts generalizing before piece with
  | nil => simp [MatchesInTurn, Stretch.nothing, List.forall₂_nil_left_iff]
  | cons part parts ih =>
    rw [List.flatMap_cons, matchesInTurn_append]
    unfold Stretch.followedBy
    simp only [matches_matchers_iff, ih]
    constructor
    · rintro ⟨p, _, rfl, hp, pieces, hpieces, rfl⟩
      exact ⟨p :: pieces, .cons hp hpieces, rfl⟩
    · rintro ⟨_, hall, rfl⟩
      obtain ⟨p, pieces, hp, hpieces, rfl⟩ := List.forall₂_cons_left_iff.mp hall
      exact ⟨p, pieces.flatten, rfl, hp, pieces, hpieces, rfl⟩

/-- The pattern of a shape matches the texts that have it. -/
theorem matchesIn_shapeMatcher (h : IsDelimited parts) :
    (shapeMatcher parts).matchesIn s = hasShape parts s := by
  rw [Bool.eq_iff_iff, hasShape_iff h, shapeMatcher, matchesIn_between_anchors,
    matches_flatMap_matchers_iff]

namespace Trust

variable {patterns : List String} {text : String} {p : Pattern} {e : Failure}

def compileOne (text : String) : Except Failure Pattern :=
  match Pattern.compile text with
  | .ok c => .ok c
  | .error e =>
    .error (.invalidSettings ("bad trusted source pattern '" ++ text ++ "': " ++ e.message text))

theorem ofPatterns_eq (patterns : List String) :
    ofPatterns patterns = do return ⟨← patterns.mapM compileOne⟩ := rfl

theorem compileOne_eq_ok_iff : compileOne text = .ok p ↔ Pattern.compile text = .ok p := by
  unfold compileOne
  cases Pattern.compile text <;> simp

theorem compileOne_eq_error_iff : compileOne text = .error e ↔
    ∃ cause, Pattern.compile text = .error cause ∧
      e = .invalidSettings
        ("bad trusted source pattern '" ++ text ++ "': " ++ cause.message text) := by
  unfold compileOne
  cases Pattern.compile text <;> simp [eq_comm]

theorem ofPatterns_eq_ok_iff {t : Trust} :
    ofPatterns patterns = .ok t ↔
      List.Forall₂ (fun text p => Pattern.compile text = .ok p) patterns t.patterns := by
  obtain ⟨compiled⟩ := t
  rw [ofPatterns_eq, bind_return_eq_ok_iff]
  simp only [mapM_eq_ok_iff, compileOne_eq_ok_iff, Trust.mk.injEq, exists_eq_right]

theorem ofPatterns_eq_error_iff :
    ofPatterns patterns = .error e ↔
      ∃ front p back cause, patterns = front ++ p :: back ∧
        (∀ q ∈ front, ∃ c, Pattern.compile q = .ok c) ∧ Pattern.compile p = .error cause ∧
        e = .invalidSettings ("bad trusted source pattern '" ++ p ++ "': " ++ cause.message p) := by
  rw [ofPatterns_eq, bind_return_eq_error_iff, mapM_eq_error_iff]
  simp only [compileOne_eq_ok_iff, compileOne_eq_error_iff, exists_and_left]

end Trust

end RuleLint.Source
