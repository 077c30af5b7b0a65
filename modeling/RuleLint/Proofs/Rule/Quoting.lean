import RuleLint.Proofs.Rule.Comments
import RuleLint.Proofs.Rule.Repeated

namespace RuleLint.Rule

open Diagnostic Text

/-- The text stands between the first single quote of the message and the last. -/
def Quotes (message text : String) : Prop :=
  ∃ front back, message = front ++ "'" ++ text ++ "'" ++ back ∧ '\'' ∉ front.toList ∧
    '\'' ∉ back.toList

variable {file content : String} {d : Diagnostic} {e : Entry}

theorem quotes_of_ends {opening closing : String} (front back text : String)
    (hopening : opening = front ++ "'") (hclosing : closing = "'" ++ back)
    (h : '\'' ∉ front.toList ++ back.toList) :
    Quotes (opening ++ text ++ closing) text := by
  obtain ⟨hfront, hback⟩ := not_or.mp (mt List.mem_append.mpr h)
  refine ⟨front, back, ?_, hfront, hback⟩
  rw [hopening, hclosing, ← String.append_assoc]

/-- Only one text is quoted by a message. -/
theorem Quotes.unique {message text other : String} (h : Quotes message text)
    (h' : Quotes message other) :
    text = other := by
  obtain ⟨front, back, rfl, hfront, hback⟩ := h
  obtain ⟨front', back', hmessage, hfront', hback'⟩ := h'
  simp only [← String.toList_inj, String.toList_append, List.append_assoc] at hmessage
  have hrest (text : String) {back : List Char} (hback : '\'' ∉ back) :
      cut? '\'' (text.toList ++ '\'' :: back).reverse =
        some (back.reverse, text.toList.reverse) := by
    refine cut?_eq_some_iff.mpr ⟨?_, mt List.mem_reverse.mp hback⟩
    simp only [List.reverse_append, List.reverse_cons, List.append_assoc, List.singleton_append]
  -- Both texts begin behind the first quote, and both end before the last.
  have hfirst :=
    (cut?_eq_some_iff.mpr ⟨rfl, hfront⟩).symm.trans (cut?_eq_some_iff.mpr ⟨hmessage, hfront'⟩)
  have hlast := congrArg List.reverse (Prod.mk.inj (Option.some.inj hfirst)).2
  have hboth :=
    (hrest text hback).symm.trans ((congrArg (cut? '\'') hlast).trans (hrest other hback'))
  exact String.toList_inj.mp (List.reverse_injective (Prod.mk.inj (Option.some.inj hboth)).2)

theorem Finding.quotes_diagnostic {f : Finding} (h : f ≠ .trailingBlank) (rule : String) :
    Quotes (f.diagnostic rule).message rule := by
  cases f with
  | trailingBlank => contradiction
  | unknownType =>
    unfold Finding.diagnostic Diagnostic.error
    dsimp only
    rw [String.append_assoc, String.append_assoc]
    have hclosing : "' (expected " ++ (" | ".intercalate types ++ " followed by a comma)") =
        "'" ++ (" (expected " ++ (" | ".intercalate types ++ " followed by a comma)")) := by decide
    exact quotes_of_ends "invalid rule " _ rule (by decide) hclosing (by decide)
  | malformedBlock =>
    exact quotes_of_ends "malformed IP-CIDR value in " "" rule (by decide) (by decide) (by decide)
  | outOfRange =>
    exact quotes_of_ends "address out of range in " "" rule (by decide) (by decide) (by decide)
  | truncatedAddress =>
    exact quotes_of_ends "truncated address literal in " "" rule (by decide) (by decide) (by decide)

theorem mem_entries_of_line {l : Line} (hl : l ∈ numberedLines content) (h : ofLine l.text ≠ []) :
    ⟨l.number, .ofList (ofLine l.text)⟩ ∈ entries content :=
  mem_entries.mpr ⟨by simpa using h, l, hl, rfl, holds_iff.mpr String.toList_ofList⟩

theorem filter_line_entries (he : e ∈ entries content) :
    (entries content).filter (·.line = e.line) = [e] := by
  have hsorted := entries_pairwise content
  obtain ⟨before, after, hentries⟩ := List.append_of_mem he
  rw [hentries] at hsorted ⊢
  obtain ⟨-, hafter, hbefore⟩ := List.pairwise_append.mp hsorted
  have hfront : before.filter (·.line = e.line) = [] :=
    List.filter_eq_nil_iff.mpr fun e' he' => by
      simpa using Nat.ne_of_lt (hbefore e' he' e List.mem_cons_self)
  have hback : after.filter (·.line = e.line) = [] :=
    List.filter_eq_nil_iff.mpr fun e' he' => by
      simpa using Nat.ne_of_gt ((List.pairwise_cons.mp hafter).1 e' he')
  rw [List.filter_append, hfront, List.filter_cons_of_pos (by simp), hback, List.nil_append]

theorem errors_checkFile_of_entry (file : String) (he : e ∈ entries content) :
    (here file e.line (checkFile file content)).filter isError =
      (checkLine file e.line e.rule.toList).filter isError := by
  obtain ⟨-, l, hl, hnumber, hholds⟩ := mem_entries.mp he
  have hrule : e.rule.toList = ofLine l.text := holds_iff.mp hholds
  rw [← hnumber, here_checkFile hl, filter_isError_checkLine, filter_isError_checkLine, hrule,
    ofLine_ofLine]

/-- A line has one error, or it has none, whatever the file and the number of the line. -/
theorem errors_checkLine (line : List Char) :
    (∀ file n, (checkLine file n line).filter isError = []) ∨
      ∀ file n, ∃ d, (checkLine file n line).filter isError = [d] := by
  by_cases hrule : ofLine line = []
  · refine .inl fun file n => ?_
    rw [checkLine_of_no_rule hrule, List.filter_nil]
  · by_cases hfault : ∃ message, FirstFault (ofLine line) message
    · obtain ⟨message, hfault⟩ := hfault
      obtain ⟨f, herrors, -⟩ := errors_of_firstFault hfault
      refine .inr fun file n => ⟨Finding.report file n line f, ?_⟩
      rw [filter_checkLine Finding.isError_report rfl hrule, herrors, List.map_singleton]
    · refine .inl fun file n => ?_
      rw [filter_checkLine Finding.isError_report rfl hrule,
        errors_of_faultless (not_exists.mp hfault), List.map_nil]

/-- What is said about a line is said about the one entry on it, and it quotes the rule of the entry
unless it is about style. An entry has an error exactly if its rule has one when it is checked by
itself, under whatever name and number; it is the only one then. -/
theorem checkFile_entries (file content : String) :
    (∀ d ∈ checkFile file content, ∃ e, (entries content).filter (·.line = e.line) = [e] ∧
      d.location = some ⟨file, some e.line⟩ ∧
      (d.kind ≠ some .style → ∀ text, Quotes d.message text ↔ text = e.rule)) ∧
    ∀ e ∈ entries content, ∀ other n,
      ((∃ d ∈ checkLine other n e.rule.toList, d.isError) ↔
        ∃ d, (here file e.line (checkFile file content)).filter isError = [d]) := by
  constructor
  · intro d hd
    obtain ⟨l, hl, hd⟩ := List.mem_flatMap.mp hd
    have hrule : ofLine l.text ≠ [] := by
      intro hnone
      rw [checkLine_of_no_rule hnone] at hd
      contradiction
    obtain ⟨f, -, rfl⟩ := List.mem_map.mp hd
    refine ⟨_, filter_line_entries (mem_entries_of_line hl hrule), rfl, fun hkind text => ?_⟩
    have hblank : f ≠ .trailingBlank := by
      rintro rfl
      exact hkind rfl
    have hquotes := f.quotes_diagnostic hblank (.ofList (ofLine l.text))
    exact ⟨fun h => h.unique hquotes, fun h => h ▸ hquotes⟩
  · intro e he other n
    rw [errors_checkFile_of_entry file he]
    rcases errors_checkLine e.rule.toList with hnone | hone
    · refine iff_of_false ?_ ?_
      · rintro ⟨d, hd, herror⟩
        have hmem := List.mem_filter.mpr ⟨hd, herror⟩
        rw [hnone] at hmem
        contradiction
      · rw [hnone]
        exact nofun
    · obtain ⟨d, hd⟩ := hone other n
      have hmem : d ∈ (checkLine other n e.rule.toList).filter isError := by
        rw [hd]
        exact List.mem_singleton_self d
      exact iff_of_true ⟨d, List.mem_filter.mp hmem⟩ (hone file e.line)

end RuleLint.Rule
