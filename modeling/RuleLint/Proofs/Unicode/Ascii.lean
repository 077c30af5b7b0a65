import RuleLint.Proofs.Unicode.LookUp
import RuleLint.Unicode.Domain

namespace RuleLint.Unicode

variable {c d : Char} {s : List Char}

theorem forall_mem_words {p : List Char → Prop} {table : List String}
    (h : ∀ line ∈ table, ∀ word ∈ line.toList.splitOn ' ', p word) :
    ∀ word ∈ words table, p word := by
  intro word hword
  obtain ⟨line, hline, hmem⟩ := List.mem_flatMap.mp hword
  exact h line hline word hmem

theorem forall_mem_line {p : List Char → Prop} {line : String} {s : List Char}
    (hs : line = .ofList s) (h : ∀ word ∈ s.splitOn ' ', p word) :
    ∀ word ∈ line.toList.splitOn ' ', p word := by
  rw [hs, String.toList_ofList]
  exact h

/-- What is put behind a character, and what comes of it, is beyond ASCII. -/
theorem forall_mem_compositions :
    ∀ entry ∈ compositions, entry.length = 3 ∧ ∀ n ∈ entry.tail, 0x80 ≤ n := by
  suffices h : ∀ word ∈ words compositionTable,
      (readNumbers word).length = 3 ∧ ∀ n ∈ (readNumbers word).tail, 0x80 ≤ n by
    intro entry hentry
    obtain ⟨word, hword, rfl⟩ := List.mem_map.mp hentry
    exact h word hword
  apply forall_mem_words
  unfold compositionTable
  repeat refine List.forall_mem_cons.mpr ⟨forall_mem_line rfl (by decide +kernel), ?_⟩
  exact List.forall_mem_nil _

theorem forall_mem_combiningStretches :
    ∀ entry ∈ combiningStretches, ∀ n ∈ entry.head?, 0x80 ≤ n := by
  suffices h : ∀ word ∈ words combiningTable, ∀ n ∈ (readNumbers word).head?, 0x80 ≤ n by
    intro entry hentry
    obtain ⟨word, hword, rfl⟩ := List.mem_map.mp hentry
    exact h word hword
  apply forall_mem_words
  unfold combiningTable
  repeat refine List.forall_mem_cons.mpr ⟨forall_mem_line rfl (by decide +kernel), ?_⟩
  exact List.forall_mem_nil _

theorem combiningClass_of_ascii (h : c.toNat < 0x80) : combiningClass c = 0 := by
  unfold combiningClass
  split
  · rename_i first count value hfind
    have hfirst := forall_mem_combiningStretches _ (List.mem_of_find?_eq_some hfind) first rfl
    have hcovers := List.find?_some hfind
    simp only [Bool.and_eq_true, decide_eq_true_eq] at hcovers
    omega
  · rfl

theorem compose?_of_ascii (h : d.toNat < 0x80) (c : Char) : compose? c d = none := by
  have hnone : compositions.find? (fun entry => entry.take 2 = [c.toNat, d.toNat]) = none := by
    rw [List.find?_eq_none]
    intro entry hentry htake
    obtain ⟨hlength, hbeyond⟩ := forall_mem_compositions entry hentry
    obtain ⟨x, y, z, rfl⟩ := List.length_eq_three.mp hlength
    have hy := hbeyond y List.mem_cons_self
    simp only [List.take_succ_cons, List.take_zero, List.cons.injEq, and_true, Bool.decide_and,
      Bool.and_eq_true, decide_eq_true_eq] at htake
    omega
  unfold compose?
  dsimp only
  rw [if_neg (by simp; omega), if_neg (by simp; omega), hnone]

theorem decompose?_of_ascii (h : c.toNat < 0x80) : decompose? c = none := by
  have hnone : compositions.find? (fun entry => entry.getLast? = some c.toNat) = none := by
    rw [List.find?_eq_none]
    intro entry hentry hlast
    obtain ⟨hlength, hbeyond⟩ := forall_mem_compositions entry hentry
    obtain ⟨x, y, z, rfl⟩ := List.length_eq_three.mp hlength
    have hz := hbeyond z (by simp)
    simp only [List.getLast?_cons_cons, List.getLast?_singleton, Option.some.injEq,
      decide_eq_true_eq] at hlast
    omega
  unfold decompose?
  rw [hnone]

theorem insertMark_of_ascii (h : c.toNat < 0x80) (s : List Char) : insertMark c s = c :: s := by
  cases s with
  | nil => rfl
  | cons d s =>
    rw [insertMark, combiningClass_of_ascii h]
    rfl

theorem decompose_of_ascii (h : c.toNat < 0x80) (depth : Nat) : decompose depth c = [c] := by
  cases depth with
  | zero => rfl
  | succ depth =>
    -- Making the equations of `decompose` would run into the table, so its body is laid open by
    -- hand.
    delta decompose decompose._f
    dsimp only
    rw [decompose?_of_ascii h]

theorem foldl_insertMark_of_ascii (h : ∀ c ∈ s, c.toNat < 0x80) (reversed : List Char) :
    s.foldl (fun reversed c => insertMark c reversed) reversed = s.reverse ++ reversed := by
  induction s generalizing reversed with
  | nil => rfl
  | cons c s ih =>
    obtain ⟨hc, hs⟩ := List.forall_mem_cons.mp h
    rw [List.foldl_cons, insertMark_of_ascii hc, ih hs, List.reverse_cons, List.append_assoc,
      List.singleton_append]

theorem canonicalOrder_of_ascii (h : ∀ c ∈ s, c.toNat < 0x80) : canonicalOrder s = s := by
  have hdecompose : s.flatMap (decompose 4) = s := by
    rw [List.flatMap_congr fun c hc => decompose_of_ascii (h c hc) 4]
    exact List.flatMap_singleton' s
  unfold canonicalOrder
  rw [hdecompose, foldl_insertMark_of_ascii h, List.append_nil, List.reverse_reverse]

theorem composeFrom_of_ascii (h : ∀ c ∈ s, c.toNat < 0x80) (c : Char) :
    composeFrom c [] s = c :: s := by
  induction s generalizing c with
  | nil => rfl
  | cons d s ih =>
    obtain ⟨hd, hs⟩ := List.forall_mem_cons.mp h
    unfold composeFrom
    dsimp only
    rw [if_neg Bool.false_ne_true, compose?_of_ascii hd, combiningClass_of_ascii hd, ih hs]
    rfl

/-- ASCII is composed as it is. -/
theorem composed_of_ascii (h : ∀ c ∈ s, c.toNat < 0x80) : composed s = s := by
  unfold composed
  rw [canonicalOrder_of_ascii h]
  cases s with
  | nil => rfl
  | cons c s =>
    obtain ⟨hc, hs⟩ := List.forall_mem_cons.mp h
    simp only [List.takeWhile_cons, List.dropWhile_cons, combiningClass_of_ascii hc, ne_eq,
      not_true, decide_false, Bool.false_eq_true, if_false, List.nil_append]
    exact composeFrom_of_ascii hs c

theorem exists_of_isLower (h : c.isLower = true) : ∃ n < 26, c.toNat = 97 + n := by
  obtain ⟨hfirst, hlast⟩ := (Bool.and_eq_true _ _).mp h
  have hfirst : 97 ≤ c.toNat := UInt32.le_iff_toNat_le.mp (of_decide_eq_true hfirst)
  have hlast : c.toNat ≤ 122 := UInt32.le_iff_toNat_le.mp (of_decide_eq_true hlast)
  exact ⟨c.toNat - 97, by omega, by omega⟩

theorem domainStatus_of_isLower (h : c.isLower = true) : domainStatus c = "V" := by
  have hlook : ∀ n < 26, lookUp domainStatuses (97 + n) = some "V" := by
    intro n hn
    unfold domainStatuses domainStatusRuns
    refine lookUp_readRuns rfl rfl _ ?_ (by omega)
    revert n
    decide +kernel
  obtain ⟨n, hn, hc⟩ := exists_of_isLower h
  unfold domainStatus
  rw [hc, hlook n hn]
  rfl

theorem domainStatus_dot : domainStatus '.' = "V" := by
  have hlook : lookUp domainStatuses 46 = some "V" := by
    unfold domainStatuses domainStatusRuns
    refine lookUp_readRuns rfl rfl _ ?_ (by decide)
    decide +kernel
  exact congrArg (·.getD "X") hlook

theorem direction_of_isLower (h : c.isLower = true) : direction c = "L__" := by
  have hlook : ∀ n < 26, lookUp directions (97 + n) = some "L__" := by
    intro n hn
    unfold directions directionRuns
    refine lookUp_readRuns rfl rfl _ ?_ (by omega)
    revert n
    decide +kernel
  obtain ⟨n, hn, hc⟩ := exists_of_isLower h
  unfold direction
  rw [hc, hlook n hn]
  rfl

end RuleLint.Unicode
