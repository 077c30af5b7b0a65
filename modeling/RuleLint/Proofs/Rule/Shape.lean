import Mathlib.Data.List.Basic
import RuleLint.Proofs.Text.Digits
import RuleLint.Rule.Check

namespace RuleLint.Rule

open Text

namespace AddressBlock

/-- An address block in digits: four octets and a length. -/
structure WellSpelled (b : AddressBlock) : Prop where
  count : b.octets.length = 4
  octets : ∀ octet ∈ b.octets, IsDigits octet ∧ octet.length ≤ 3
  length : IsDigits b.length ∧ b.length.length ≤ 2

instance (b : AddressBlock) : Decidable b.WellSpelled :=
  decidable_of_iff (b.octets.length = 4 ∧ (∀ octet ∈ b.octets, IsDigits octet ∧ octet.length ≤ 3) ∧
    IsDigits b.length ∧ b.length.length ≤ 2)
    ⟨fun h => ⟨h.1, h.2.1, h.2.2⟩, fun h => ⟨h.count, h.octets, h.length⟩⟩

def text (b : AddressBlock) : List Char := ['.'].intercalate b.octets ++ '/' :: b.length

/-- What may follow an address block: nothing, or a comma and parameters on the same line. -/
def Follows (rest : List Char) : Prop :=
  rest = [] ∨ ∃ parameters, rest = ',' :: parameters ∧ '\n' ∉ parameters

theorem intercalate_cons (sep first : List Char) (others : List (List Char)) :
    sep.intercalate (first :: others) = first ++ others.flatMap (sep ++ ·) := by
  induction others generalizing first with
  | nil => simp
  | cons other others ih =>
    rw [List.intercalate_cons_cons, ih, List.flatMap_cons]
    simp only [List.append_assoc]

theorem delimited_octets (octets : List (List Char)) {rest : List Char} (h : Delimited rest) :
    Delimited (octets.flatMap (['.'] ++ ·) ++ rest) := by
  cases octets with
  | nil => exact h
  | cons octet octets => exact delimited_cons isDigit_dot _

theorem octets?_eq_some_iff {n : Nat} {s rest : List Char} {octets : List (List Char)}
    (hs : Delimited s) :
    octets? n s = some (octets, rest) ↔
      octets.length = n ∧ (∀ octet ∈ octets, IsDigits octet ∧ octet.length ≤ 3) ∧
        s = octets.flatMap (['.'] ++ ·) ++ rest ∧ Delimited rest := by
  -- What follows an octet is delimited, for it is a dot and another octet or else `rest`.
  induction n generalizing s octets with
  | zero =>
    rw [octets?, List.length_eq_zero_iff]
    constructor
    · rintro ⟨⟩
      exact ⟨rfl, by simp, rfl, hs⟩
    · rintro ⟨rfl, -, rfl, -⟩
      rfl
  | succ n ih =>
    constructor
    · intro h
      simp only [octets?, bind, Option.bind_eq_some_iff, pure, Option.some.injEq,
        Prod.mk.injEq] at h
      obtain ⟨s', hdot, ⟨octet, s''⟩, hoctet, ⟨others, rest'⟩, hothers, rfl, rfl⟩ := h
      obtain ⟨rfl, hd, hlen, hs''⟩ := digits?_eq_some_iff.mp hoctet
      obtain ⟨rfl, hall, rfl, hrest⟩ := (ih hs'').mp hothers
      refine ⟨rfl, ?_, ?_, hrest⟩
      · rintro o (_ | ⟨_, ho⟩)
        · exact ⟨hd, hlen⟩
        · exact hall o ho
      · rw [rest?_eq_some_iff.mp hdot, List.flatMap_cons]
        simp only [List.append_assoc]
    · rintro ⟨hn, hall, rfl, hrest⟩
      cases octets with
      | nil => contradiction
      | cons octet others =>
        obtain ⟨hd, hlen⟩ := hall octet List.mem_cons_self
        have hafter := delimited_octets others hrest
        have hoctet := digits?_eq_some_iff.mpr ⟨rfl, hd, hlen, hafter⟩
        have hothers := (ih hafter).mpr
          ⟨Nat.succ.inj hn, fun o ho => hall o (List.mem_cons_of_mem _ ho), rfl, hrest⟩
        simp only [octets?, bind, Option.bind_eq_some_iff, pure, Option.some.injEq, Prod.mk.injEq]
        refine ⟨_, rest?_eq_some_iff.mpr ?_, _, hoctet, _, hothers, rfl, rfl⟩
        rw [List.flatMap_cons]
        simp only [List.append_assoc]

theorem wellSpelled_of_read? {s : List Char} {b : AddressBlock} (h : read? s = some b) :
    b.WellSpelled ∧ ∃ rest, s = b.text ++ rest ∧ Follows rest := by
  simp only [read?, bind, Option.bind_eq_some_iff, pure] at h
  obtain ⟨⟨first, s₁⟩, hfirst, ⟨others, s₂⟩, hothers, s₃, hslash, ⟨length, rest⟩, hlength, h⟩ := h
  obtain ⟨rfl, hd, hlen, hs₁⟩ := digits?_eq_some_iff.mp hfirst
  obtain ⟨hcount, hall, rfl, hs₂⟩ := (octets?_eq_some_iff hs₁).mp hothers
  obtain ⟨rfl, hdl, hlenl, hrest⟩ := digits?_eq_some_iff.mp hlength
  have hspell : WellSpelled ⟨first :: others, length⟩ := by
    refine ⟨by simp [hcount], ?_, hdl, hlenl⟩
    rintro o (_ | ⟨_, ho⟩)
    · exact ⟨hd, hlen⟩
    · exact hall o ho
  have htext :
      first ++ (others.flatMap (['.'] ++ ·) ++ s₂) = text ⟨first :: others, length⟩ ++ rest := by
    have hs₃ : s₂ = ['/'] ++ (length ++ rest) := rest?_eq_some_iff.mp hslash
    rw [hs₃, text, intercalate_cons]
    simp only [List.append_assoc, List.cons_append, List.nil_append]
  rw [htext]
  dsimp only at h
  split at h
  · obtain rfl := Option.some.inj h
    exact ⟨hspell, [], rfl, .inl rfl⟩
  · rename_i parameters
    split_ifs at h with hn
    obtain rfl := Option.some.inj h
    exact ⟨hspell, _, rfl, .inr ⟨parameters, rfl, hn⟩⟩
  · contradiction

theorem read?_of_wellSpelled {b : AddressBlock} {rest : List Char} (h : b.WellSpelled)
    (hrest : Follows rest) :
    read? (b.text ++ rest) = some b := by
  obtain ⟨hcount, hall, hdl, hlenl⟩ := h
  obtain ⟨octets, length⟩ := b
  cases octets with
  | nil => contradiction
  | cons first others =>
    obtain ⟨hd, hlen⟩ := hall first List.mem_cons_self
    have hend : Delimited rest := by
      rcases hrest with rfl | ⟨parameters, rfl, -⟩
      · exact delimited_nil
      · exact delimited_cons isDigit_comma parameters
    have hslash := delimited_cons isDigit_slash (length ++ rest)
    have hdots := delimited_octets others hslash
    have hfirst := digits?_eq_some_iff.mpr ⟨rfl, hd, hlen, hdots⟩
    have hothers := (octets?_eq_some_iff hdots).mpr
      ⟨Nat.succ.inj hcount, fun o ho => hall o (List.mem_cons_of_mem _ ho), rfl, hslash⟩
    have hlength := digits?_eq_some_iff.mpr ⟨rfl, hdl, hlenl, hend⟩
    simp only [read?, bind, Option.bind_eq_some_iff, pure]
    rw [text, intercalate_cons]
    simp only [List.append_assoc, List.cons_append]
    refine ⟨_, hfirst, _, hothers, _, rest?_eq_some_iff.mpr rfl, _, hlength, ?_⟩
    rcases hrest with rfl | ⟨parameters, rfl, hn⟩
    · rfl
    · exact if_neg hn

/-- A block is read exactly from a text that spells it. -/
theorem read?_eq_some_iff {s : List Char} {b : AddressBlock} :
    read? s = some b ↔ b.WellSpelled ∧ ∃ rest, s = b.text ++ rest ∧ Follows rest := by
  constructor
  · exact wellSpelled_of_read?
  · rintro ⟨hb, rest, rfl, hrest⟩
    exact read?_of_wellSpelled hb hrest

end AddressBlock

theorem dropGroup?_eq_some_iff {s rest : List Char} :
    dropGroup? s = some rest ↔ ∃ run, s = '.' :: (run ++ rest) ∧ IsDigits run ∧ Delimited rest := by
  unfold dropGroup?
  constructor
  · intro h
    split at h
    · rename_i t
      obtain ⟨⟨run, rest'⟩, hread, rfl⟩ := Option.map_eq_some_iff.mp h
      obtain ⟨rfl, hrun, -, hrest⟩ := digits?_eq_some_iff.mp hread
      exact ⟨run, rfl, hrun, hrest⟩
    · contradiction
  · rintro ⟨run, rfl, hrun, hrest⟩
    have hlen : run.length ≤ (run ++ rest).length := by
      rw [List.length_append]
      exact Nat.le_add_right ..
    have hread := digits?_eq_some_iff.mpr ⟨rfl, hrun, hlen, hrest⟩
    exact Option.map_eq_some_iff.mpr ⟨_, hread, rfl⟩

/-- The rule ends like an address that was cut off: in three groups of digits, a dot after each. -/
def EndsTruncated (rule : List Char) : Prop :=
  ∃ front a b c, IsDigits a ∧ IsDigits b ∧ IsDigits c ∧
    rule = front ++ a ++ ['.'] ++ b ++ ['.'] ++ c ++ ['.']

theorem isTruncated_iff {rule : List Char} : isTruncated rule = true ↔ EndsTruncated rule := by
  unfold isTruncated
  rw [Option.isSome_iff_exists]
  simp only [bind, Option.bind_eq_some_iff, dropGroup?_eq_some_iff]
  constructor
  · rintro ⟨front, s₁, ⟨c, hs, hc, -⟩, s₂, ⟨b, rfl, hb, -⟩, a, rfl, ha, -⟩
    refine ⟨front.reverse, a.reverse, b.reverse, c.reverse, ha.reverse, hb.reverse, hc.reverse, ?_⟩
    rw [← List.reverse_reverse rule, hs]
    simp
  · rintro ⟨front, a, b, c, ha, hb, hc, rfl⟩
    -- Nothing delimits the group that is read last, so digits of `front` may be read along with it.
    obtain ⟨run, rest, he, hrun, hrest⟩ := ha.reverse.extend front.reverse
    refine ⟨rest, '.' :: (b.reverse ++ '.' :: (run ++ rest)), ⟨c.reverse, ?_, hc.reverse, ?_⟩,
      '.' :: (run ++ rest), ⟨b.reverse, rfl, hb.reverse, ?_⟩, run, rfl, hrun, hrest⟩
    · rw [← he]
      simp
    · exact delimited_cons isDigit_dot _
    · exact delimited_cons isDigit_dot _

/-- A rule as it should be. -/
structure WellFormed (rule : List Char) : Prop where
  typed : ∃ type ∈ ["DOMAIN", "DOMAIN-SUFFIX", "DOMAIN-KEYWORD", "IP-CIDR"], ∃ value,
    rule = (type ++ ",").toList ++ value
  address : ∀ value, rule = "IP-CIDR,".toList ++ value →
    ∃ (b : AddressBlock) (rest : List Char), b.WellSpelled ∧ value = b.text ++ rest ∧
    AddressBlock.Follows rest
  whole : ¬ EndsTruncated rule

theorem hasType_iff {rule : List Char} :
    hasType rule = true ↔ ∃ type ∈ types, ∃ value, rule = (type ++ ",").toList ++ value := by
  unfold hasType
  simp only [List.any_eq_true, Option.isSome_iff_exists, rest?_eq_some_iff]

theorem shapeFinding?_isError_iff {rule : List Char} :
    (shapeFinding? rule).any Finding.isError = false ↔
      hasType rule = true ∧
        ∀ value, rest? "IP-CIDR,".toList rule = some value → (AddressBlock.read? value).isSome := by
  unfold shapeFinding?
  by_cases ht : hasType rule = true
  · rw [if_pos ht]
    cases hv : rest? "IP-CIDR,".toList rule with
    | none => simp [ht]
    | some value =>
      cases hb : AddressBlock.read? value with
      | none => simp [hb, Finding.isError]
      | some block => cases hr : block.inRange <;> simp [ht, hb, hr, Finding.isError]
  · rw [if_neg ht]
    simp [ht, Finding.isError]

/-- Nothing serious is found in a rule exactly if it is well formed. -/
theorem findings_isError_iff {rule : List Char} :
    (findings rule).any Finding.isError = false ↔ WellFormed rule := by
  have haddress :
      (∀ value, rest? "IP-CIDR,".toList rule = some value → (AddressBlock.read? value).isSome) ↔
      ∀ value, rule = "IP-CIDR,".toList ++ value →
        ∃ (b : AddressBlock) (rest : List Char),
          b.WellSpelled ∧ value = b.text ++ rest ∧ AddressBlock.Follows rest := by
    simp only [rest?_eq_some_iff, Option.isSome_iff_exists, AddressBlock.read?_eq_some_iff,
      exists_and_left]
  have hfindings : (findings rule).any Finding.isError = false ↔
      (shapeFinding? rule).any Finding.isError = false ∧ isTruncated rule = false := by
    unfold findings
    cases hs : shapeFinding? rule with
    | none => cases isTruncated rule <;> simp [Finding.isError]
    | some f =>
      dsimp only
      cases hf : f.isError with
      | true => simp [hf]
      | false =>
        cases isTruncated rule <;> simp [hf, show Finding.truncatedAddress.isError = true from rfl]
  rw [hfindings, shapeFinding?_isError_iff, hasType_iff, haddress, ← Bool.not_eq_true,
    isTruncated_iff]
  constructor
  · rintro ⟨⟨ht, ha⟩, hw⟩
    exact ⟨ht, ha, hw⟩
  · rintro ⟨ht, ha, hw⟩
    exact ⟨⟨ht, ha⟩, hw⟩

end RuleLint.Rule
