import Mathlib.Data.List.Basic
import RuleLint.Proofs.Text.Fields

namespace RuleLint.Text

variable {s l : List Char} {ls : List (List Char)}

/-- A line that reading gives back: it holds no line feed, and no carriage return that one would
take along. -/
structure IsLine (l : List Char) : Prop where
  no_feed : '\n' ∉ l
  no_return : l.getLast? ≠ some '\r'

theorem lines_nil : lines [] = [] := rfl

theorem lines_cons {c : Char} {cs : List Char} (hc : c ≠ '\n')
    (hr : c = '\r' → cs.head? ≠ some '\n') :
    lines (c :: cs) =
      match lines cs with
      | [] => [[c]]
      | l :: ls => (c :: l) :: ls := by
  apply lines.eq_4 c cs hc
  rintro rest hreturn rfl
  exact hr hreturn rfl

/-- A line is read as far as its ending, whether that has a carriage return or not. -/
theorem lines_append_ending {ending : List Char} (h : '\n' ∉ l)
    (hreturn : l.getLast? = some '\r' → ending.head? ≠ some '\n')
    (hending : lines ending = [] :: ls) :
    lines (l ++ ending) = l :: ls := by
  induction l with
  | nil => exact hending
  | cons c l ih =>
    obtain ⟨hc, htail⟩ := not_or.mp (mt List.mem_cons.mpr h)
    -- A carriage return at the end of the line would be dropped with the line feed.
    have hhead : c = '\r' → (l ++ ending).head? ≠ some '\n' := by
      rintro rfl hhead
      cases l with
      | nil => exact hreturn rfl hhead
      | cons d l =>
        rw [Option.some.inj hhead] at htail
        exact htail List.mem_cons_self
    have hlast : l.getLast? = some '\r' → ending.head? ≠ some '\n' := by
      intro hlast
      apply hreturn
      rw [List.getLast?_cons, hlast]
      rfl
    rw [List.cons_append, lines_cons (Ne.symm hc) hhead, ih htail hlast]

theorem lines_append_feed (h : IsLine l) (rest : List Char) :
    lines (l ++ '\n' :: rest) = l :: lines rest :=
  lines_append_ending h.no_feed (fun hlast => absurd hlast h.no_return) rfl

/-- A line feed ends a line, and a carriage return before it is no part of the line. -/
theorem exists_lines_append_feed (h : '\n' ∉ l) :
    ∃ line, lines (l ++ ['\n']) = [line] ∧ (l = line ∨ l = line ++ ['\r']) := by
  by_cases hreturn : l.getLast? = some '\r'
  · obtain ⟨line, rfl⟩ := List.getLast?_eq_some_iff.mp hreturn
    have hline : '\n' ∉ line := fun hfeed => h (List.mem_append_left _ hfeed)
    refine ⟨line, ?_, .inr rfl⟩
    rw [List.append_assoc]
    exact lines_append_ending hline (fun _ => by decide) rfl
  · exact ⟨l, lines_append_feed ⟨h, hreturn⟩ [], .inl rfl⟩

theorem lines_of_no_feed (h : '\n' ∉ l) (hne : l ≠ []) : lines l = [l] := by
  induction l with
  | nil => contradiction
  | cons c l ih =>
    have hc : c ≠ '\n' := by
      rintro rfl
      exact h List.mem_cons_self
    have htail : '\n' ∉ l := fun hm => h (List.mem_cons_of_mem _ hm)
    rw [lines_cons hc fun _ hhead => htail (List.mem_of_mem_head? hhead)]
    cases l with
    | nil => rfl
    | cons d l => rw [ih htail (List.cons_ne_nil d l)]

theorem length_lines_le_one (h : '\n' ∉ l) : (lines l).length ≤ 1 := by
  by_cases hne : l = []
  · rw [hne]
    exact Nat.zero_le 1
  · rw [lines_of_no_feed h hne]
    exact Nat.le_refl 1

/-- Lines that are written one by one are read again, with whatever follows them. -/
theorem lines_flatMap_append (h : ∀ l ∈ ls, IsLine l) (rest : List Char) :
    lines (ls.flatMap (· ++ ['\n']) ++ rest) = ls ++ lines rest := by
  induction ls with
  | nil => rfl
  | cons l ls ih =>
    rw [List.flatMap_cons, List.append_assoc, List.append_assoc, List.singleton_append,
      lines_append_feed (h l List.mem_cons_self), ih fun l hl => h l (List.mem_cons_of_mem _ hl)]
    rfl

theorem lines_flatMap (h : ∀ l ∈ ls, IsLine l) : lines (ls.flatMap (· ++ ['\n'])) = ls := by
  have hall := lines_flatMap_append h []
  rwa [List.append_nil, lines_nil, List.append_nil] at hall

/-- The last line feed may be left out unless the last line is empty. -/
theorem lines_dropLast_flatMap (h : ∀ l ∈ ls, IsLine l) (hne : [] ∉ ls) :
    lines (ls.flatMap (· ++ ['\n'])).dropLast = ls := by
  rcases List.eq_nil_or_concat ls with rfl | ⟨front, last, rfl⟩
  · rfl
  · rw [List.concat_eq_append] at h hne ⊢
    have hlast : IsLine last := h last (by simp)
    have hlast' : last ≠ [] := by
      rintro rfl
      exact hne (by simp)
    rw [List.flatMap_append, List.flatMap_singleton, ← List.append_assoc, List.dropLast_concat,
      lines_flatMap_append fun l hl => h l (List.mem_append_left _ hl),
      lines_of_no_feed hlast.no_feed hlast']

/-- Nothing, or a text that a line feed ends: what follows starts a line. -/
def Ended (s : List Char) : Prop := s = [] ∨ s.getLast? = some '\n'

instance (s : List Char) : Decidable (Ended s) := inferInstanceAs (Decidable (_ ∨ _))

theorem ended_append_feed (s : List Char) : Ended (s ++ ['\n']) := .inr List.getLast?_concat

theorem Ended.of_cons {c : Char} (h : Ended (c :: s)) : Ended s := by
  rcases h with h | h
  · contradiction
  · cases s with
    | nil => exact .inl rfl
    | cons d s => exact .inr (by rwa [List.getLast?_cons_cons] at h)

theorem not_ended_singleton {c : Char} (h : c ≠ '\n') : ¬ Ended [c] := by
  rintro (hnil | hlast)
  · contradiction
  · exact h (Option.some.inj hlast)

theorem lines_eq_nil_iff : lines s = [] ↔ s = [] := by
  induction s using lines.induct with
  | case1 => exact iff_of_true rfl rfl
  | case2 | case3 => exact iff_of_false (List.cons_ne_nil _ _) (List.cons_ne_nil _ _)
  | case4 c cs hfeed hreturn hnone =>
    rw [lines.eq_4 c cs hfeed hreturn, hnone]
    exact iff_of_false (List.cons_ne_nil _ _) (List.cons_ne_nil _ _)
  | case5 c cs hfeed hreturn first others hsome =>
    rw [lines.eq_4 c cs hfeed hreturn, hsome]
    exact iff_of_false (List.cons_ne_nil _ _) (List.cons_ne_nil _ _)

/-- What follows a text that is ended adds its own lines. -/
theorem lines_append (h : Ended s) (t : List Char) : lines (s ++ t) = lines s ++ lines t := by
  induction s using lines.induct with
  | case1 => rfl
  | case2 cs ih =>
    show [] :: lines (cs ++ t) = [] :: (lines cs ++ lines t)
    rw [ih h.of_cons]
  | case3 cs ih =>
    show [] :: lines (cs ++ t) = [] :: (lines cs ++ lines t)
    rw [ih h.of_cons.of_cons]
  | case4 c cs hfeed _ hnone =>
    obtain rfl := lines_eq_nil_iff.mp hnone
    exact (not_ended_singleton hfeed h).elim
  | case5 c cs hfeed hreturn first others hsome ih =>
    -- No return at the end of `s` is taken along by a line feed in `t`, for `s` does not end in a
    -- return.
    have hreturn' (rest : List Char) (hc : c = '\r') (hrest : cs ++ t = '\n' :: rest) : False := by
      cases cs with
      | nil => contradiction
      | cons d cs => exact hreturn cs hc (by rw [(List.cons.inj hrest).1])
    rw [List.cons_append, lines.eq_4 c _ hfeed hreturn', ih h.of_cons,
      lines.eq_4 c cs hfeed hreturn, hsome]
    rfl

theorem length_lines (h : Ended s) : (lines s).length = s.count '\n' := by
  induction s using lines.induct with
  | case1 => rfl
  | case2 cs ih =>
    show (lines cs).length + 1 = _
    rw [ih h.of_cons, List.count_cons_self]
  | case3 cs ih =>
    show (lines cs).length + 1 = _
    rw [ih h.of_cons.of_cons, List.count_cons_of_ne (by decide), List.count_cons_self]
  | case4 c cs hfeed _ hnone =>
    obtain rfl := lines_eq_nil_iff.mp hnone
    exact (not_ended_singleton hfeed h).elim
  | case5 c cs hfeed hreturn first others hsome ih =>
    rw [lines.eq_4 c cs hfeed hreturn, List.count_cons_of_ne hfeed, ← ih h.of_cons, hsome]
    rfl

def feeds (content : String) : Nat := content.toList.count '\n'

theorem feeds_append (a b : String) : feeds (a ++ b) = feeds a + feeds b := by
  unfold feeds
  rw [String.toList_append, List.count_append]

theorem ended_line (text : String) : Ended (text ++ "\n").toList := by
  rw [String.toList_append]
  exact ended_append_feed _

theorem feeds_line {text : String} (h : '\n' ∉ text.toList) : feeds (text ++ "\n") = 1 := by
  rw [feeds_append]
  exact congrArg (· + 1) (List.count_eq_zero_of_not_mem h)

def Line.shift (n : Nat) (l : Line) : Line := { l with number := l.number + n }

theorem numberedLines_append {front : String} (h : Ended front.toList) (rest : String) :
    numberedLines (front ++ rest) = numberedLines front ++
      (numberedLines rest).map (Line.shift (feeds front)) := by
  unfold numberedLines
  rw [String.toList_append, lines_append h, List.zipIdx_append, List.map_append, List.map_map,
    length_lines h, Nat.add_comm 1, ← List.map_snd_add_zipIdx_eq_zipIdx, List.map_map]
  rfl

theorem number_le_feeds {front : String} {l : Line} (h : Ended front.toList)
    (hl : l ∈ numberedLines front) :
    l.number ≤ feeds front := by
  have hbounds := number_bounds hl
  rw [length_lines h] at hbounds
  exact hbounds.2

theorem mem_numberedLines_front {front : String} (h : Ended front.toList) (rest : String)
    {l : Line} :
    l ∈ numberedLines front ↔ l ∈ numberedLines (front ++ rest) ∧ l.number ≤ feeds front := by
  rw [numberedLines_append h]
  constructor
  · exact fun hl => ⟨List.mem_append_left _ hl, number_le_feeds h hl⟩
  · rintro ⟨hl, hle⟩
    refine (List.mem_append.mp hl).resolve_right fun hl => ?_
    obtain ⟨m, hm, rfl⟩ := List.mem_map.mp hl
    have hpos := (number_bounds hm).1
    change m.number + feeds front ≤ feeds front at hle
    omega

theorem exists_line_append_iff {front : String} (h : Ended front.toList) (rest : String)
    {p : Line → Prop} :
    (∃ l ∈ numberedLines (front ++ rest), p l) ↔
      (∃ l ∈ numberedLines front, p l) ∨ ∃ l ∈ numberedLines (front ++ rest),
      feeds front < l.number ∧ p l := by
  simp only [mem_numberedLines_front h rest]
  constructor
  · rintro ⟨l, hl, hp⟩
    rcases Nat.lt_or_ge (feeds front) l.number with hlt | hle
    · exact .inr ⟨l, hl, hlt, hp⟩
    · exact .inl ⟨l, ⟨hl, hle⟩, hp⟩
  · rintro (⟨l, ⟨hl, -⟩, hp⟩ | ⟨l, hl, -, hp⟩) <;> exact ⟨l, hl, hp⟩

def withReturns (s : List Char) : List Char :=
  s.flatMap fun c => if c = '\n' then ['\r', '\n'] else [c]

theorem withReturns_feed_cons (s : List Char) :
    withReturns ('\n' :: s) = '\r' :: '\n' :: withReturns s := rfl

theorem withReturns_cons {c : Char} (h : c ≠ '\n') (s : List Char) :
    withReturns (c :: s) = c :: withReturns s := by
  unfold withReturns
  rw [List.flatMap_cons, if_neg h]
  rfl

/-- Every line feed takes its carriage return along, and no other return is there to be taken. -/
theorem lines_withReturns (h : '\r' ∉ s) : lines (withReturns s) = lines s := by
  induction s with
  | nil => rfl
  | cons c s ih =>
    obtain ⟨hc, hs⟩ := not_or.mp (mt List.mem_cons.mpr h)
    by_cases hfeed : c = '\n'
    · rw [hfeed, withReturns_feed_cons]
      show [] :: lines (withReturns s) = [] :: lines s
      rw [ih hs]
    · have hreturn {rest : List Char} (hr : c = '\r') : rest.head? ≠ some '\n' := (hc hr.symm).elim
      rw [withReturns_cons hfeed, lines_cons hfeed hreturn, ih hs, lines_cons hfeed hreturn]

end RuleLint.Text
