import RuleLint.Proofs.LineIndex
import RuleLint.Proofs.Rule.DuplicateIndex
import RuleLint.Proofs.Text.Fields
import RuleLint.Rule.Line

namespace RuleLint.Rule

open LineIndex Text

variable {content text : String}

def places (content : String) : List (String × Nat) :=
  (entries content).map fun e => (e.rule, e.line)

/-- Line `n` of the text holds the rule. -/
def HeldOn (content rule : String) (n : Nat) : Prop :=
  ∃ l ∈ numberedLines content, l.number = n ∧ Holds l.text rule.toList

theorem map_fst_places (content : String) : (places content).map Prod.fst = rules content := by
  unfold places
  rw [← map_rule_entries, List.map_map]
  rfl

theorem mem_entries {e : Entry} :
    e ∈ entries content ↔ e.rule ≠ "" ∧ HeldOn content e.rule e.line := by
  unfold entries HeldOn
  rw [List.mem_filterMap]
  simp only [holds_iff]
  constructor
  · rintro ⟨l, hl, he⟩
    split_ifs at he with hempty
    obtain rfl := Option.some.inj he
    exact ⟨by simpa using hempty, l, hl, rfl, String.toList_ofList⟩
  · rintro ⟨hne, l, hl, hline, hrule⟩
    refine ⟨l, hl, ?_⟩
    rw [← hrule, if_neg (by simpa using hne), String.ofList_toList, hline]

theorem entries_pairwise (content : String) : (entries content).Pairwise (·.line < ·.line) := by
  unfold entries
  rw [List.pairwise_filterMap]
  apply (numberedLines_pairwise content).imp
  intro l l' hlt e he e' he'
  dsimp only at he he'
  split_ifs at he he'
  rw [← Option.some.inj he, ← Option.some.inj he']
  exact hlt

theorem mem_places {n : Nat} : (text, n) ∈ places content ↔ text ≠ "" ∧ HeldOn content text n := by
  unfold places
  rw [List.mem_map]
  constructor
  · rintro ⟨e, he, hpair⟩
    obtain ⟨rfl, rfl⟩ := Prod.mk.inj hpair
    exact mem_entries.mp he
  · exact fun h => ⟨⟨n, text⟩, mem_entries.mpr h, rfl⟩

theorem linesIn_places_pairwise (content text : String) :
    (linesIn (places content) text).Pairwise (· < ·) :=
  linesIn_pairwise (List.pairwise_map.mpr (entries_pairwise content)) text

theorem repeated_eq (content : String) :
    repeated content = (entries content).filterMap fun e =>
      if (linesIn (places content) e.rule).head? = some e.line ∧
        2 ≤ (linesIn (places content) e.rule).length then
        some ⟨e.rule, linesIn (places content) e.rule⟩
      else none := by
  unfold repeated
  simp only [linesOf_ofList]
  rfl

theorem mem_repeated {r : Repeated} :
    r ∈ repeated content ↔ r.lines = linesIn (places content) r.rule ∧ 2 ≤ r.lines.length := by
  rw [repeated_eq, List.mem_filterMap]
  constructor
  · rintro ⟨e, -, hr⟩
    split_ifs at hr with h
    obtain rfl := Option.some.inj hr
    exact ⟨rfl, h.2⟩
  · obtain ⟨text, lines⟩ := r
    rintro ⟨hlines, hlength⟩
    obtain ⟨line, others, rfl⟩ :=
      List.exists_cons_of_length_pos (l := lines) (Nat.lt_of_lt_of_le Nat.two_pos hlength)
    -- A rule that is there twice is reported where it is there first.
    have hfirst : (text, line) ∈ places content := by
      rw [← mem_linesIn, ← hlines]
      exact List.mem_cons_self
    refine ⟨⟨line, text⟩, mem_entries.mpr (mem_places.mp hfirst), ?_⟩
    dsimp only at hlines ⊢
    rw [← hlines]
    exact if_pos ⟨rfl, hlength⟩

theorem repeated_eq_nil_iff : repeated content = [] ↔ (rules content).Nodup := by
  rw [List.eq_nil_iff_forall_not_mem, ← map_fst_places, List.nodup_iff_count_le_one]
  simp only [← length_linesIn]
  constructor
  · intro h text
    by_contra hl
    exact h ⟨text, linesIn (places content) text⟩ (mem_repeated.mpr ⟨rfl, Nat.lt_of_not_le hl⟩)
  · intro h r hr
    obtain ⟨hlines, hl⟩ := mem_repeated.mp hr
    rw [hlines] at hl
    exact Nat.not_le_of_lt hl (h r.rule)

theorem repeatedDiagnostic?_eq_none_iff {file : String} :
    repeatedDiagnostic? file content = none ↔ (rules content).Nodup := by
  rw [← repeated_eq_nil_iff]
  unfold repeatedDiagnostic?
  cases repeated content <;> simp

theorem repeated_pairwise (content : String) :
    (repeated content).Pairwise fun r r' => ∃ n ∈ r.lines, ∀ n' ∈ r'.lines, n < n' := by
  rw [repeated_eq, List.pairwise_filterMap]
  apply (entries_pairwise content).imp
  intro e e' hlt r hr r' hr'
  split_ifs at hr hr' with h h'
  obtain rfl := Option.some.inj hr
  obtain rfl := Option.some.inj hr'
  refine ⟨e.line, List.mem_of_mem_head? h.1, fun n' hn' => Nat.lt_of_lt_of_le hlt ?_⟩
  -- The lines of a rule are sorted, so that none is before the one it is reported at.
  obtain ⟨others, hlines⟩ := List.head?_eq_some_iff.mp h'.1
  have hsorted := linesIn_places_pairwise content e'.rule
  dsimp only at hn'
  rw [hlines] at hsorted hn'
  rcases List.mem_cons.mp hn' with rfl | hn'
  · exact Nat.le_refl _
  · exact Nat.le_of_lt ((List.pairwise_cons.mp hsorted).1 n' hn')

theorem nodup_rule_repeated (content : String) : ((repeated content).map Repeated.rule).Nodup := by
  rw [List.Nodup, List.pairwise_map]
  apply (repeated_pairwise content).imp_of_mem
  rintro r r' hr hr' ⟨n, hn, hless⟩ heq
  have hlines : r.lines = r'.lines := by
    rw [(mem_repeated.mp hr).1, (mem_repeated.mp hr').1, heq]
  exact Nat.lt_irrefl n (hless n (hlines ▸ hn))

/-- The list holds the rules on two lines or more, each once and with all its lines, by their first
lines. -/
structure ListsRepeated (content : String) (found : List Repeated) : Prop where
  listed : ∀ rule, rule ∈ found.map Repeated.rule ↔
    rule ≠ "" ∧ ∃ m n, m ≠ n ∧ HeldOn content rule m ∧ HeldOn content rule n
  different : (found.map Repeated.rule).Nodup
  by_first_line : found.Pairwise fun r r' => ∃ n ∈ r.lines, ∀ n' ∈ r'.lines, n < n'
  lines : ∀ r ∈ found, ∀ n, n ∈ r.lines ↔ HeldOn content r.rule n
  lines_sorted : ∀ r ∈ found, r.lines.Pairwise (· < ·)

theorem mem_map_rule_repeated {rule : String} :
    rule ∈ (repeated content).map Repeated.rule ↔
      rule ≠ "" ∧ ∃ m n, m ≠ n ∧ HeldOn content rule m ∧ HeldOn content rule n := by
  have hlisted :
      rule ∈ (repeated content).map Repeated.rule ↔ 2 ≤ (linesIn (places content) rule).length := by
    rw [List.mem_map]
    constructor
    · rintro ⟨r, hr, rfl⟩
      obtain ⟨hlines, hl⟩ := mem_repeated.mp hr
      rwa [← hlines]
    · exact fun hl => ⟨⟨rule, linesIn (places content) rule⟩, mem_repeated.mpr ⟨rfl, hl⟩, rfl⟩
  rw [hlisted, two_le_length_iff ((linesIn_places_pairwise content rule).imp Nat.ne_of_lt)]
  simp only [mem_linesIn, mem_places]
  constructor
  · rintro ⟨m, ⟨hne, hm⟩, n, ⟨-, hn⟩, hmn⟩
    exact ⟨hne, m, n, hmn, hm, hn⟩
  · rintro ⟨hne, m, n, hmn, hm, hn⟩
    exact ⟨m, ⟨hne, hm⟩, n, ⟨hne, hn⟩, hmn⟩

theorem mem_lines_iff_heldOn {r : Repeated} (hr : r ∈ repeated content) {n : Nat} :
    n ∈ r.lines ↔ HeldOn content r.rule n := by
  have hrule := (mem_map_rule_repeated.mp (List.mem_map_of_mem hr)).1
  rw [(mem_repeated.mp hr).1, mem_linesIn, mem_places, and_iff_right hrule]

theorem listsRepeated (content : String) : ListsRepeated content (repeated content) where
  listed _ := mem_map_rule_repeated
  different := nodup_rule_repeated content
  by_first_line := repeated_pairwise content
  lines _ hr _ := mem_lines_iff_heldOn hr
  lines_sorted r hr := by
    rw [(mem_repeated.mp hr).1]
    exact linesIn_places_pairwise content r.rule

/-- A file's repeated rules are listed as they should be. Adding the file to an index gives an error
if there are any, and no diagnostic if there are none; the error begins with their number. -/
theorem repeated_listed (content : String) :
    ListsRepeated content (repeated content) ∧ ∀ (index : DuplicateIndex) (file : String),
      ((index.add file content).1 = none ↔ repeated content = []) ∧
      ∀ d, (index.add file content).1 = some d → d.severity = .error ∧
        ∃ listing, d.message = toString (repeated content).length ++
          " duplicate rule(s) within file: " ++ listing := by
  refine ⟨listsRepeated content, fun index file => ⟨?_, fun d hd => ?_⟩⟩
  · rw [repeated_eq_nil_iff]
    exact repeatedDiagnostic?_eq_none_iff
  · have hd : repeatedDiagnostic? file content = some d := hd
    unfold repeatedDiagnostic? at hd
    split at hd
    · contradiction
    · rename_i hfound
      obtain rfl := Option.some.inj hd
      exact ⟨rfl, _, rfl⟩

/-- A comment and blanks aside, the first rule is also the last. -/
example : repeated "A\nB # x\nC\nB\n A\n#A\nB" = [⟨"A", [1, 5]⟩, ⟨"B", [2, 4, 7]⟩] := by decide

end RuleLint.Rule
