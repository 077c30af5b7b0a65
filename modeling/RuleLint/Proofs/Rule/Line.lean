import Mathlib.Data.List.Basic
import RuleLint.Proofs.Text.SingleLine
import RuleLint.Rule.Line

namespace RuleLint.Rule

/-- The line holds the rule: this is what stands before the first `#`, if there is one, without the
blanks around it. -/
def Holds (line rule : List Char) : Prop :=
  ∃ left right comment, line = left ++ rule ++ right ++ comment ∧ '#' ∉ left ++ rule ++ right ∧
    (comment = [] ∨ comment.head? = some '#') ∧ (∀ c ∈ left ++ right, Text.isBlank c = true) ∧
    Text.Trimmed rule

theorem holds_ofLine (line : List Char) : Holds line (ofLine line) := by
  obtain ⟨left, right, hcode, hblank⟩ := Text.exists_append_trim_append (line.takeWhile (· ≠ '#'))
  refine ⟨left, right, line.dropWhile (· ≠ '#'), ?_, ?_, ?_, hblank, Text.trimmed_trim _⟩
  · show line = left ++ Text.trim (line.takeWhile (· ≠ '#')) ++ right ++ line.dropWhile (· ≠ '#')
    rw [← hcode, List.takeWhile_append_dropWhile]
  · show '#' ∉ left ++ Text.trim (line.takeWhile (· ≠ '#')) ++ right
    rw [← hcode]
    intro hmark
    simpa using List.all_eq_true.mp List.all_takeWhile _ hmark
  · cases hcomment : line.dropWhile (· ≠ '#') with
    | nil => exact .inl rfl
    | cons c comment =>
      have hstop := List.head?_dropWhile_not (· ≠ '#') line
      rw [hcomment] at hstop
      exact .inr (by simpa using hstop)

theorem holds_iff {line rule : List Char} : Holds line rule ↔ rule = ofLine line := by
  constructor
  · rintro ⟨left, right, comment, rfl, hmark, hcomment, hblank, htrimmed⟩
    have hcode : (left ++ rule ++ right ++ comment).takeWhile (· ≠ '#') =
        left ++ rule ++ right := by
      have hall : ∀ c ∈ left ++ rule ++ right, decide (c ≠ '#') = true := by
        rintro c hc
        apply decide_eq_true
        rintro rfl
        exact hmark hc
      rw [List.takeWhile_append_of_pos hall]
      rcases hcomment with rfl | hhead
      · exact List.append_nil _
      · obtain ⟨rest, rfl⟩ := List.head?_eq_some_iff.mp hhead
        exact List.append_nil _
    unfold ofLine
    rw [hcode, Text.trim_append_append htrimmed hblank]
  · rintro rfl
    exact holds_ofLine line

/-- The rules of a text in order, a rule that stands on several lines once for each. -/
def rules (content : String) : List String :=
  ((Text.lines content.toList).map fun line => String.ofList (ofLine line)).filter (· ≠ "")

theorem map_rule_entries (content : String) : (entries content).map Entry.rule = rules content := by
  unfold rules entries
  rw [← Text.map_text_numberedLines, List.map_map, List.filter_map, ← List.filterMap_eq_filter,
    List.map_filterMap, List.map_filterMap]
  congr 1
  funext l
  by_cases h : ofLine l.text = [] <;> simp [h, Option.guard]

variable {content : String}

theorem ofLine_subset (line : List Char) : ofLine line ⊆ line :=
  List.Subset.trans (Text.trim_subset _) (List.takeWhile_prefix _).subset

theorem singleLine_ofLine {l : Text.Line} (h : l ∈ Text.numberedLines content) :
    Text.SingleLine (.ofList (ofLine l.text)) :=
  Text.singleLine_ofList.mpr fun hfeed => Text.feed_notMem_text h (ofLine_subset _ hfeed)

theorem singleLine_of_mem_rules {rule : String} (h : rule ∈ rules content) :
    Text.SingleLine rule := by
  obtain ⟨line, hline, rfl⟩ := List.mem_map.mp (List.mem_of_mem_filter h)
  exact Text.singleLine_ofList.mpr fun hfeed =>
    Text.feed_notMem_of_mem_lines hline (ofLine_subset _ hfeed)

end RuleLint.Rule
