import RuleLint.Proofs.Text.Lines
import RuleLint.Proofs.Text.SingleLine
import RuleLint.Rule.Check

namespace RuleLint

open Text

def Diagnostic.shift (n : Nat) (d : Diagnostic) : Diagnostic :=
  { d with location := d.location.map fun place => { place with line := place.line.map (· + n) } }

def Diagnostic.here (file : String) (n : Nat) (ds : List Diagnostic) : List Diagnostic :=
  ds.filter (·.location = some ⟨file, some n⟩)

def Diagnostic.elsewhere (file : String) (n : Nat) (ds : List Diagnostic) : List Diagnostic :=
  ds.filter (·.location ≠ some ⟨file, some n⟩)

namespace Rule

open Diagnostic

def Entry.shift (n : Nat) (e : Entry) : Entry := { e with line := e.line + n }

variable {file front : String}

theorem location_of_mem_checkLine {n : Nat} {line : List Char} {d : Diagnostic}
    (h : d ∈ checkLine file n line) :
    d.location = some ⟨file, some n⟩ := by
  obtain ⟨f, -, rfl⟩ := List.mem_map.mp h
  rfl

theorem checkLine_add (file : String) (m n : Nat) (line : List Char) :
    checkLine file (m + n) line = (checkLine file m line).map (Diagnostic.shift n) := by
  unfold checkLine
  rw [List.map_map]
  rfl

theorem checkFile_append (file : String) (h : Ended front.toList) (rest : String) :
    checkFile file (front ++ rest) = checkFile file front ++
      (checkFile file rest).map (Diagnostic.shift (feeds front)) := by
  unfold checkFile
  rw [numberedLines_append h, List.flatMap_append, List.flatMap_map, List.map_flatMap]
  congr 2
  funext l
  exact checkLine_add file l.number (feeds front) l.text

theorem entries_append (h : Ended front.toList) (rest : String) :
    entries (front ++ rest) = entries front ++ (entries rest).map (Entry.shift (feeds front)) := by
  unfold entries
  rw [numberedLines_append h, List.filterMap_append, List.filterMap_map, List.map_filterMap]
  congr 2
  funext l
  by_cases hrule : ofLine l.text = [] <;> simp [Line.shift, Entry.shift, hrule]

theorem here_checkFile {content : String} {l : Line} (hl : l ∈ numberedLines content) :
    Diagnostic.here file l.number (checkFile file content) = checkLine file l.number l.text := by
  refine filter_flatMap_of_mem (numberedLines_pairwise content)
    (fun n (d : Diagnostic) => d.location = some ⟨file, some n⟩) ?_ hl
  intro m d hd n
  rw [decide_eq_true_eq, location_of_mem_checkLine hd]
  simp

theorem elsewhere_checkFile_line {line : String} (h : (lines line.toList).length ≤ 1) (n : Nat) :
    elsewhere file (n + 1) ((checkFile file line).map (Diagnostic.shift n)) = [] := by
  unfold elsewhere
  rw [List.filter_eq_nil_iff]
  intro d hd
  obtain ⟨d, hd', rfl⟩ := List.mem_map.mp hd
  obtain ⟨l, hl, hline⟩ := List.mem_flatMap.mp hd'
  have hnumber : l.number = 1 := by
    have hbounds := number_bounds hl
    omega
  have hplace : (d.shift n).location = some ⟨file, some (n + 1)⟩ := by
    unfold Diagnostic.shift
    rw [location_of_mem_checkLine hline, hnumber, Nat.add_comm n]
    rfl
  simp [hplace]

/-- A line at the end of a text makes no difference to what is said about the lines before it. -/
theorem elsewhere_checkFile_append {line : String} (h : Ended front.toList)
    (hline : (lines line.toList).length ≤ 1) :
    elsewhere file (feeds front + 1) (checkFile file (front ++ line)) =
      elsewhere file (feeds front + 1) (checkFile file front) := by
  rw [checkFile_append file h]
  unfold elsewhere
  rw [List.filter_append]
  exact (congrArg _ (elsewhere_checkFile_line hline (feeds front))).trans (List.append_nil _)

theorem elsewhere_checkFile_append_feed_append {line : String} (h : Ended front.toList)
    (hline : SingleLine line) (rest : String) :
    elsewhere file (feeds front + 1) (checkFile file (front ++ line ++ ("\n" ++ rest))) =
      elsewhere file (feeds front + 1) (checkFile file front) ++
        elsewhere file (feeds front + 1)
          ((checkFile file rest).map (Diagnostic.shift (feeds front + 1))) := by
  have hone : (lines (line ++ "\n").toList).length ≤ 1 := by
    rw [length_lines (ended_line line)]
    exact Nat.le_of_eq (feeds_line hline)
  have hfront : Ended (front ++ (line ++ "\n")).toList := by
    rw [← String.append_assoc]
    exact ended_line _
  have htext : front ++ line ++ ("\n" ++ rest) = front ++ (line ++ "\n") ++ rest := by
    simp only [String.append_assoc]
  rw [htext, checkFile_append file hfront, feeds_append, feeds_line hline]
  unfold elsewhere
  rw [List.filter_append]
  exact congrArg (· ++ _) (elsewhere_checkFile_append h hone)

/-- What follows a line: nothing, or a line feed and more. -/
def AfterLine (rest : String) : Prop := rest = "" ∨ ∃ more, rest = "\n" ++ more

/-- Rule files are checked line by line: a text behind another is checked as if it were alone, but
for the numbers of its lines; another line in the place of one changes nothing that is said about
the others; and what is said about a line is what is said about it alone, whatever is wrong with the
lines before it. -/
theorem checkFile_lineByLine (file : String) (h : Ended front.toList) :
    (∀ rest, checkFile file (front ++ rest) =
        checkFile file front ++ (checkFile file rest).map (Diagnostic.shift (feeds front)) ∧
      entries (front ++ rest) = entries front ++ (entries rest).map (Entry.shift (feeds front))) ∧
    (∀ line line' rest : String, SingleLine line → SingleLine line' → AfterLine rest →
      elsewhere file (feeds front + 1) (checkFile file (front ++ line ++ rest)) =
        elsewhere file (feeds front + 1) (checkFile file (front ++ line' ++ rest))) ∧
    ∀ content, ∀ l ∈ numberedLines content,
      Diagnostic.here file l.number (checkFile file content) = checkLine file l.number l.text := by
  refine ⟨fun rest => ⟨checkFile_append file h rest, entries_append h rest⟩, ?_,
    fun content l => here_checkFile⟩
  rintro line line' rest hline hline' (rfl | ⟨more, rfl⟩)
  · rw [String.append_empty, String.append_empty,
      elsewhere_checkFile_append h (length_lines_le_one hline),
      elsewhere_checkFile_append h (length_lines_le_one hline')]
  · rw [elsewhere_checkFile_append_feed_append h hline,
      elsewhere_checkFile_append_feed_append h hline']

theorem checkFile_lineByLine_malformed :
    Ended "BAD\nDOMAIN,a\n".toList ∧ SingleLine "IP-CIDR,1" ∧ SingleLine "DOMAIN,b # fine" ∧
    AfterLine "\nWORSE" ∧
    entries ("BAD\nDOMAIN,a\n" ++ "\nDOMAIN,a\r\n") =
      [⟨1, "BAD"⟩, ⟨2, "DOMAIN,a"⟩, ⟨4, "DOMAIN,a"⟩] ∧
    elsewhere "f" 3 (checkFile "f" ("BAD\nDOMAIN,a\n" ++ "IP-CIDR,1" ++ "\nWORSE")) =
      elsewhere "f" 3 (checkFile "f" ("BAD\nDOMAIN,a\n" ++ "DOMAIN,b # fine" ++ "\nWORSE")) := by
  have hended : Ended "BAD\nDOMAIN,a\n".toList := by decide
  have hline : SingleLine "IP-CIDR,1" := by decide
  have hline' : SingleLine "DOMAIN,b # fine" := by decide
  have hrest : AfterLine "\nWORSE" := .inr ⟨"WORSE", rfl⟩
  obtain ⟨happend, hreplace, -⟩ := checkFile_lineByLine "f" hended
  refine ⟨hended, hline, hline', hrest, ?_, hreplace _ _ _ hline hline' hrest⟩
  rw [(happend _).2]
  decide

end Rule

end RuleLint
