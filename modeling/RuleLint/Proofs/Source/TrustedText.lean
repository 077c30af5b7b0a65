import Mathlib.Data.Bool.AllAny
import RuleLint.Proofs.Source.Trust

namespace RuleLint.Source

def IsSegment (s : List Char) : Prop := s ≠ [] ∧ '/' ∉ s

variable {host : String} {front : List Char}

/-- What precedes the path of a file within its repository or gist, for each host. -/
inductive PathFront : String → List Char → Prop
  | raw {user repo branch : List Char} (hu : IsSegment user) (hr : IsSegment repo)
      (hb : IsSegment branch) :
      PathFront "raw.githubusercontent.com" ('/' :: user ++ '/' :: repo ++ '/' :: branch ++ ['/'])
  | github {user repo branch : List Char} (hu : IsSegment user) (hr : IsSegment repo)
      (hb : IsSegment branch) :
      PathFront "github.com" ('/' :: user ++ '/' :: repo ++ "/raw/".toList ++ branch ++ ['/'])
  | jsdelivr {user repo version : List Char} (hu : IsSegment user)
      (hr : IsSegment repo ∧ '@' ∉ repo)
      (hv : IsSegment version) :
      PathFront "cdn.jsdelivr.net" ("/gh/".toList ++ user ++ '/' :: repo ++ '@' :: version ++ ['/'])
  | gist {user id : List Char} (hu : IsSegment user) (hi : IsSegment id) :
      PathFront "gist.githubusercontent.com" ('/' :: user ++ '/' :: id ++ "/raw/".toList)

theorem PathFront.ends_with_slash (h : PathFront host front) : ∃ s, front = s ++ ['/'] := by
  cases h with
  | raw | github | jsdelivr => exact ⟨_, rfl⟩
  | gist => exact ⟨_, (List.append_assoc _ "/raw".toList ['/']).symm⟩

theorem PathFront.exists_eq_cons (h : PathFront host front) : ∃ rest, front = '/' :: rest := by
  cases h <;> exact ⟨_, rfl⟩

theorem PathFront.not_isDigit_host (h : PathFront host front) :
    ∀ c ∈ host.toList, c.isDigit = false ∧ c ∉ ['@', ':', '[', '/'] := by
  cases h <;> exact List.all_iff_forall_prop.mp (by decide)

theorem PathFront.four_le_count (h : PathFront host front) : 4 ≤ front.count '/' := by
  cases h <;> simp [List.count_append] <;> omega

/-- The text of an HTTPS URL of one of the hosts, with something in the place of the file. -/
def TrustedText (s : List Char) : Prop :=
  ∃ host front file, PathFront host front ∧ file ≠ [] ∧ '\n' ∉ file ∧
    s = "https://".toList ++ host.toList ++ front ++ file

theorem isDelimited_of_mem_trustedShapes : ∀ shape ∈ trustedShapes, IsDelimited shape := by
  simp [trustedShapes, IsDelimited]

theorem fits_segment_iff {s : List Char} : ShapePart.Fits (.segment ['/']) s ↔ IsSegment s := by
  simp [ShapePart.Fits, IsSegment, List.forall_mem_ne']

theorem fits_name_iff {s : List Char} :
    ShapePart.Fits (.segment ['/', '@']) s ↔ IsSegment s ∧ '@' ∉ s := by
  simp only [ShapePart.Fits, IsSegment, List.mem_cons, List.not_mem_nil, or_false,
    not_or, forall_and, List.forall_mem_ne', and_assoc]

theorem exists_hasShape_of_fits (i : Fin 4) {pieces : List (List Char)}
    (h : List.Forall₂ ShapePart.Fits (trustedShapes.get i) pieces) :
    ∃ shape ∈ trustedShapes, hasShape shape pieces.flatten = true :=
  have hmem := List.get_mem trustedShapes i
  ⟨_, hmem, (hasShape_iff (isDelimited_of_mem_trustedShapes _ hmem)).mpr ⟨pieces, h, rfl⟩⟩

theorem trustedText_of_hasShape {s : List Char}
    (h : ∃ shape ∈ trustedShapes, hasShape shape s = true) :
    TrustedText s := by
  obtain ⟨shape, hshape, hs⟩ := h
  obtain ⟨pieces, hpieces, rfl⟩ := exists_pieces_of_hasShape hs
  simp only [trustedShapes, List.mem_cons, List.not_mem_nil, or_false] at hshape
  rcases hshape with rfl | rfl | rfl | rfl
  · rcases hpieces
      with _ | ⟨rfl, _ | ⟨hu, _ | ⟨rfl, _ | ⟨hr, _ | ⟨rfl, _ | ⟨hb, _ | ⟨rfl, _ | ⟨hf, _ | _⟩⟩⟩⟩⟩⟩⟩⟩
    rw [fits_segment_iff] at hu hr hb
    exact ⟨_, _, _, .raw hu hr hb, hf.1, hf.2, by simp⟩
  · rcases hpieces
      with _ | ⟨rfl, _ | ⟨hu, _ | ⟨rfl, _ | ⟨hr, _ | ⟨rfl, _ | ⟨hb, _ | ⟨rfl, _ | ⟨hf, _ | _⟩⟩⟩⟩⟩⟩⟩⟩
    rw [fits_segment_iff] at hu hr hb
    exact ⟨_, _, _, .github hu hr hb, hf.1, hf.2, by simp⟩
  · rcases hpieces
      with _ | ⟨rfl, _ | ⟨hu, _ | ⟨rfl, _ | ⟨hr, _ | ⟨rfl, _ | ⟨hv, _ | ⟨rfl, _ | ⟨hf, _ | _⟩⟩⟩⟩⟩⟩⟩⟩
    rw [fits_segment_iff] at hu hv
    exact ⟨_, _, _, .jsdelivr hu (fits_name_iff.mp hr) hv, hf.1, hf.2, by simp⟩
  · rcases hpieces with _ | ⟨rfl, _ | ⟨hu, _ | ⟨rfl, _ | ⟨hi, _ | ⟨rfl, _ | ⟨hf, _ | _⟩⟩⟩⟩⟩⟩
    rw [fits_segment_iff] at hu hi
    exact ⟨_, _, _, .gist hu hi, hf.1, hf.2, by simp⟩

theorem TrustedText.exists_hasShape {s : List Char} (h : TrustedText s) :
    ∃ shape ∈ trustedShapes, hasShape shape s = true := by
  obtain ⟨host, front, file, hfront, hne, hline, rfl⟩ := h
  have hword (word : String) : ShapePart.Fits (.exact word) word.toList := rfl
  have hfile : ShapePart.Fits .remainder file := ⟨hne, hline⟩
  cases hfront with
  | raw hu hr hb =>
    rw [← fits_segment_iff] at hu hr hb
    simpa using exists_hasShape_of_fits 0
      (.cons (hword _)
        (.cons hu (.cons (hword _) (.cons hr (.cons (hword _) (.cons hb (.cons (hword _)
        (.cons hfile .nil))))))))
  | github hu hr hb =>
    rw [← fits_segment_iff] at hu hr hb
    simpa using exists_hasShape_of_fits 1
      (.cons (hword _)
        (.cons hu (.cons (hword _) (.cons hr (.cons (hword _) (.cons hb (.cons (hword _)
        (.cons hfile .nil))))))))
  | jsdelivr hu hr hv =>
    rw [← fits_segment_iff] at hu hv
    rw [← fits_name_iff] at hr
    simpa using exists_hasShape_of_fits 2
      (.cons (hword _)
        (.cons hu (.cons (hword _) (.cons hr (.cons (hword _) (.cons hv (.cons (hword _)
        (.cons hfile .nil))))))))
  | gist hu hi =>
    rw [← fits_segment_iff] at hu hi
    simpa using exists_hasShape_of_fits 3
      (.cons (hword _) (.cons hu (.cons (hword _) (.cons hi (.cons (hword _) (.cons hfile .nil))))))

theorem exists_hasShape_iff {s : List Char} :
    (∃ shape ∈ trustedShapes, hasShape shape s = true) ↔ TrustedText s :=
  ⟨trustedText_of_hasShape, TrustedText.exists_hasShape⟩

/-- The patterns that say what the trusted shapes say. -/
def trustedPatterns : List String := [
  "^https://raw\\.githubusercontent\\.com/[^/]+/[^/]+/[^/]+/.+$",
  "^https://github\\.com/[^/]+/[^/]+/raw/[^/]+/.+$",
  "^https://cdn\\.jsdelivr\\.net/gh/[^/]+/[^/@]+@[^/]+/.+$",
  "^https://gist\\.githubusercontent\\.com/[^/]+/[^/]+/raw/.+$"]

set_option maxRecDepth 10000 in
theorem ofPatterns_trustedPatterns :
    ∃ t, Trust.ofPatterns trustedPatterns = .ok t ∧
      t.patterns.map Pattern.matcher = trustedShapes.map shapeMatcher :=
  ⟨⟨List.zipWith (fun text shape => ⟨text, shapeMatcher shape⟩) trustedPatterns trustedShapes⟩,
    Trust.ofPatterns_eq_ok_iff.mpr (.cons rfl (.cons rfl (.cons rfl (.cons rfl .nil)))), rfl⟩

theorem any_isMatch_eq {patterns : List Pattern} {shapes : List (List ShapePart)}
    (hmatchers : patterns.map Pattern.matcher = shapes.map shapeMatcher)
    (hdelimited : ∀ shape ∈ shapes, IsDelimited shape) (s : String) :
    patterns.any (·.isMatch s) = shapes.any (hasShape · s.toList) := by
  calc patterns.any (·.isMatch s) = (patterns.map Pattern.matcher).any (·.matchesIn s.toList) := by
        rw [List.any_map]
        rfl
    _ = (shapes.map shapeMatcher).any (·.matchesIn s.toList) := by rw [hmatchers]
    _ = shapes.any (hasShape · s.toList) := by
        rw [List.any_map, Bool.eq_iff_iff, List.any_eq_true, List.any_eq_true]
        refine exists_congr fun shape => and_congr_right fun hshape => ?_
        rw [Function.comp_apply, matchesIn_shapeMatcher (hdelimited shape hshape)]

def trustedHosts : List String :=
  ["raw.githubusercontent.com", "github.com", "cdn.jsdelivr.net", "gist.githubusercontent.com"]

theorem PathFront.host_mem (h : PathFront host front) : host ∈ trustedHosts := by
  cases h <;> simp [trustedHosts]

/-- The hosts are those between the scheme and the next slash. -/
theorem TrustedText.host_mem {s rest : List Char} (h : TrustedText s)
    (hs : s = "https://".toList ++ rest) :
    String.ofList (rest.takeWhile (· ≠ '/')) ∈ trustedHosts := by
  obtain ⟨host, front, file, hfront, -, -, rfl⟩ := h
  obtain ⟨after, rfl⟩ := hfront.exists_eq_cons
  have hhost : ∀ c ∈ host.toList, decide (c ≠ '/') = true := by
    intro c hc
    apply decide_eq_true
    rintro rfl
    exact (hfront.not_isDigit_host '/' hc).2 (by decide)
  simp only [List.append_assoc, List.append_cancel_left_eq] at hs
  rw [← hs, List.takeWhile_append_of_pos hhost, List.cons_append,
    List.takeWhile_cons_of_neg (by simp), List.append_nil, String.ofList_toList]
  exact hfront.host_mem

/-- Without patterns of the user's, the texts are trusted that four patterns match: those of URLs of
the four hosts and no others. -/
theorem trusts_unasked :
    ∃ t t' : Trust, Trust.ofPatterns [] = .ok t ∧ Trust.ofPatterns trustedPatterns = .ok t' ∧
      ∀ s : String, (t.trusts s = true ↔ TrustedText s.toList) ∧
        t.trusts s = t'.patterns.any (·.isMatch s) ∧
        ∀ rest, s.toList = "https://".toList ++ rest →
          String.ofList (rest.takeWhile (· ≠ '/')) ∉ trustedHosts →
          t.trusts s = false := by
  obtain ⟨t', ht', hmatchers⟩ := ofPatterns_trustedPatterns
  refine ⟨{}, t', rfl, ht', fun s => ?_⟩
  have hshapes : ({} : Trust).trusts s = trustedShapes.any (hasShape · s.toList) := Bool.or_false _
  have htext : ({} : Trust).trusts s = true ↔ TrustedText s.toList := by
    rw [hshapes, List.any_eq_true, exists_hasShape_iff]
  refine ⟨htext, ?_, fun rest hs hhost => ?_⟩
  · rw [hshapes, any_isMatch_eq hmatchers isDelimited_of_mem_trustedShapes]
  · rw [← Bool.not_eq_true, htext]
    exact fun h => hhost (h.host_mem hs)

/-- A dot in the name of a host stands for nothing but a dot. -/
example : ({} : Trust).trusts "https://raw-githubusercontent.com/u/r/main/a.list" =
    false := by decide +kernel

end RuleLint.Source
