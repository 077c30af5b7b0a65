import RuleLint.Proofs.Rule.Line
import RuleLint.Proofs.Rule.Shape

namespace RuleLint.Rule

open Text

def Typed (rule : List Char) : Prop :=
  ∃ type ∈ ["DOMAIN", "DOMAIN-SUFFIX", "DOMAIN-KEYWORD", "IP-CIDR"],
    ∃ value, rule = (type ++ ",").toList ++ value

def SpellsBlock (value : List Char) : Prop :=
  ∃ (b : AddressBlock) (rest : List Char), b.WellSpelled ∧ value = b.text ++ rest ∧
    AddressBlock.Follows rest

/-- The rule should have an address block as its value and has not. -/
def LacksBlock (rule : List Char) : Prop :=
  ∃ value, rule = "IP-CIDR,".toList ++ value ∧ ¬ SpellsBlock value

/-- The message on the first fault that a rule has, of three. -/
inductive FirstFault (rule : List Char) : String → Prop
  | untyped (h : ¬ Typed rule) :
    FirstFault rule ("invalid rule '" ++ .ofList rule ++
      "' (expected DOMAIN | DOMAIN-SUFFIX | DOMAIN-KEYWORD | IP-CIDR followed by a comma)")
  | blockless (ht : Typed rule) (h : LacksBlock rule) :
    FirstFault rule ("malformed IP-CIDR value in '" ++ .ofList rule ++ "'")
  | truncated (ht : Typed rule) (hb : ¬ LacksBlock rule) (h : EndsTruncated rule) :
    FirstFault rule ("truncated address literal in '" ++ .ofList rule ++ "'")

def EndsBlank (line : List Char) : Prop := ∃ front c, line = front ++ [c] ∧ isBlank c = true

/-- The diagnostics of a line that holds a rule. -/
structure Judged (file : String) (number : Nat) (line rule : List Char)
    (ds : List Diagnostic) : Prop where
  no_rule : rule = [] → ds = []
  fault : rule ≠ [] → ∀ message, FirstFault rule message →
    ds.filter Diagnostic.isError = [⟨.error, some .malformed, message, some ⟨file, some number⟩⟩]
  no_fault : rule ≠ [] → (∀ message, ¬ FirstFault rule message) → ds.filter Diagnostic.isError = []
  /-- A warning on the end of the line comes last. -/
  blank : rule ≠ [] → EndsBlank line → ∃ others, (∀ d ∈ others, d.kind ≠ some .style) ∧
    ds = others ++ [⟨.warn, some .style, "trailing whitespace", some ⟨file, some number⟩⟩]
  no_blank : ¬ EndsBlank line → ∀ d ∈ ds, d.kind ≠ some .style

variable {rule value line : List Char} {message : String}

theorem forall_not_firstFault_iff : (∀ message, ¬ FirstFault rule message) ↔ WellFormed rule := by
  constructor
  · intro h
    have ht : Typed rule := not_not.mp fun ht => h _ (.untyped ht)
    have hb : ¬ LacksBlock rule := fun hb => h _ (.blockless ht hb)
    exact ⟨ht, fun value hvalue => not_not.mp fun hspells => hb ⟨value, hvalue, hspells⟩,
      fun htruncated => h _ (.truncated ht hb htruncated)⟩
  · rintro ⟨ht, haddress, hwhole⟩ message (h | ⟨-, value, hvalue, hspells⟩ | ⟨-, -, h⟩)
    · exact h ht
    · exact hspells (haddress value hvalue)
    · exact hwhole h

theorem hasType_iff_typed : hasType rule = true ↔ Typed rule := hasType_iff

theorem spellsBlock_iff : SpellsBlock value ↔ ∃ b, AddressBlock.read? value = some b := by
  unfold SpellsBlock
  simp only [AddressBlock.read?_eq_some_iff, exists_and_left]

theorem findings_of_not_typed (h : ¬ Typed rule) : findings rule = [.unknownType] := by
  have hshape : shapeFinding? rule = some .unknownType := if_neg (mt hasType_iff_typed.mp h)
  unfold findings
  rw [hshape]
  rfl

theorem findings_of_lacksBlock (ht : Typed rule) (h : LacksBlock rule) :
    findings rule = [.malformedBlock] := by
  obtain ⟨value, rfl, hvalue⟩ := h
  have hread : AddressBlock.read? value = none := by
    rw [Option.eq_none_iff_forall_ne_some]
    exact fun b hb => hvalue (spellsBlock_iff.mpr ⟨b, hb⟩)
  have hshape : shapeFinding? ("IP-CIDR,".toList ++ value) = some .malformedBlock := by
    unfold shapeFinding?
    rw [if_pos (hasType_iff_typed.mpr ht), rest?_eq_some_iff.mpr rfl]
    dsimp only
    rw [hread]
  unfold findings
  rw [hshape]
  rfl

theorem shapeFinding?_of_sound (ht : Typed rule) (hb : ¬ LacksBlock rule) :
    shapeFinding? rule = none ∨ shapeFinding? rule = some .outOfRange := by
  unfold shapeFinding?
  rw [if_pos (hasType_iff_typed.mpr ht)]
  cases hvalue : rest? "IP-CIDR,".toList rule with
  | none => exact .inl rfl
  | some value =>
    have hspells : SpellsBlock value :=
      not_not.mp fun h => hb ⟨value, rest?_eq_some_iff.mp hvalue, h⟩
    obtain ⟨b, hread⟩ := spellsBlock_iff.mp hspells
    dsimp only
    rw [hread]
    by_cases hr : b.inRange = true
    · exact .inl (if_pos hr)
    · exact .inr (if_neg hr)

theorem findings_of_sound (ht : Typed rule) (hb : ¬ LacksBlock rule) :
    findings rule = (shapeFinding? rule).toList ++ if isTruncated rule then [.truncatedAddress]
      else [] := by
  unfold findings
  rcases shapeFinding?_of_sound ht hb with h | h <;> rw [h] <;> rfl

theorem errors_of_sound (ht : Typed rule) (hb : ¬ LacksBlock rule) :
    (findings rule).filter Finding.isError = if isTruncated rule then [.truncatedAddress]
      else [] := by
  have hshape : (shapeFinding? rule).toList.filter Finding.isError = [] := by
    rcases shapeFinding?_of_sound ht hb with h | h <;> rw [h] <;> rfl
  rw [findings_of_sound ht hb, List.filter_append, hshape, List.nil_append]
  split_ifs <;> rfl

theorem errors_of_firstFault (h : FirstFault rule message) :
    ∃ f, (findings rule).filter Finding.isError = [f] ∧
    f.diagnostic (.ofList rule) = .error .malformed message := by
  cases h with
  | untyped h =>
    refine ⟨.unknownType, by rw [findings_of_not_typed h]; rfl, ?_⟩
    have htypes : " | ".intercalate types =
        "DOMAIN | DOMAIN-SUFFIX | DOMAIN-KEYWORD | IP-CIDR" := by decide
    unfold Finding.diagnostic
    dsimp only
    rw [htypes, String.append_assoc, String.append_assoc]
    rfl
  | blockless ht h => exact ⟨.malformedBlock, by rw [findings_of_lacksBlock ht h]; rfl, rfl⟩
  | truncated ht hb h =>
    exact ⟨.truncatedAddress, by rw [errors_of_sound ht hb, if_pos (isTruncated_iff.mpr h)], rfl⟩

theorem errors_of_faultless (h : ∀ message, ¬ FirstFault rule message) :
    (findings rule).filter Finding.isError = [] := by
  have hnone := findings_isError_iff.mpr (forall_not_firstFault_iff.mp h)
  rwa [List.any_eq_false, ← List.filter_eq_nil_iff] at hnone

theorem trailingBlank_notMem_findings (rule : List Char) : .trailingBlank ∉ findings rule := by
  by_cases ht : Typed rule
  · by_cases hb : LacksBlock rule
    · rw [findings_of_lacksBlock ht hb]
      decide
    · rw [findings_of_sound ht hb]
      rcases shapeFinding?_of_sound ht hb with h | h <;> rw [h] <;> split_ifs <;> decide
  · rw [findings_of_not_typed ht]
    decide

variable {file : String} {number : Nat}

theorem endsBlank_iff : endsBlank line = true ↔ EndsBlank line := by
  unfold endsBlank EndsBlank
  rw [Option.any_eq_true]
  simp only [List.getLast?_eq_some_iff]
  constructor
  · rintro ⟨c, ⟨front, hline⟩, hc⟩
    exact ⟨front, c, hline, hc⟩
  · rintro ⟨front, c, hline, hc⟩
    exact ⟨c, ⟨front, hline⟩, hc⟩

def Finding.report (file : String) (number : Nat) (line : List Char) (f : Finding) : Diagnostic :=
  (f.diagnostic (.ofList (ofLine line))).onLine file number

theorem Finding.isError_report (f : Finding) : (f.report file number line).isError = f.isError := by
  cases f <;> rfl

theorem Finding.kind_report_of_ne {f : Finding} (h : f ≠ .trailingBlank) :
    (f.report file number line).kind ≠ some .style := by
  cases f with
  | trailingBlank => contradiction
  | unknownType | malformedBlock | outOfRange | truncatedAddress => exact nofun

/-- Of a line with a rule, the findings on the rule are reported, and then the one on the end of the
line. -/
theorem checkLine_of_rule (h : ofLine line ≠ []) :
    checkLine file number line =
      (findings (ofLine line)).map (Finding.report file number line) ++
        if endsBlank line then [Finding.report file number line .trailingBlank] else [] := by
  unfold checkLine lineFindings
  dsimp only
  rw [if_neg h, List.map_append]
  split_ifs <;> rfl

theorem checkLine_of_no_rule (h : ofLine line = []) : checkLine file number line = [] := by
  unfold checkLine lineFindings
  dsimp only
  rw [if_pos h]
  rfl

theorem filter_checkLine {p : Diagnostic → Bool} {q : Finding → Bool}
    (hp : ∀ f, p (Finding.report file number line f) = q f) (hq : q .trailingBlank = false)
    (h : ofLine line ≠ []) :
    (checkLine file number line).filter p =
      ((findings (ofLine line)).filter q).map (Finding.report file number line) := by
  have hreport : p ∘ Finding.report file number line = q := funext hp
  have hlast : (if endsBlank line then [Finding.report file number line .trailingBlank]
      else []).filter p = [] := by
    split_ifs
    · rw [List.filter_cons_of_neg (by rw [hp, hq]; exact Bool.false_ne_true), List.filter_nil]
    · rfl
  rw [checkLine_of_rule h, List.filter_append, List.filter_map, hreport, hlast, List.append_nil]

theorem kind_report_of_mem_findings {d : Diagnostic}
    (h : d ∈ (findings rule).map (Finding.report file number line)) : d.kind ≠ some .style := by
  obtain ⟨f, hf, rfl⟩ := List.mem_map.mp h
  apply Finding.kind_report_of_ne
  rintro rfl
  exact trailingBlank_notMem_findings rule hf

/-- A line holds one rule, and what is said about it is what its first fault and its end deserve. -/
theorem checkLine_judged (file : String) (number : Nat) (line : List Char) :
    (∀ rule, Holds line rule ↔ rule = ofLine line) ∧
      Judged file number line (ofLine line) (checkLine file number line) := by
  refine ⟨fun rule => holds_iff, checkLine_of_no_rule, ?_, ?_, ?_, ?_⟩
  · intro hrule message hfault
    obtain ⟨f, herrors, hmessage⟩ := errors_of_firstFault hfault
    rw [filter_checkLine Finding.isError_report rfl hrule, herrors, List.map_singleton,
      Finding.report, hmessage]
    rfl
  · intro hrule hfaultless
    rw [filter_checkLine Finding.isError_report rfl hrule, errors_of_faultless hfaultless]
    rfl
  · intro hrule hblank
    refine ⟨(findings (ofLine line)).map (Finding.report file number line),
      fun d => kind_report_of_mem_findings, ?_⟩
    rw [checkLine_of_rule hrule, if_pos (endsBlank_iff.mpr hblank)]
    rfl
  · intro hblank d hd
    by_cases hrule : ofLine line = []
    · rw [checkLine_of_no_rule hrule] at hd
      contradiction
    · rw [checkLine_of_rule hrule, if_neg (mt endsBlank_iff.mp hblank), List.append_nil] at hd
      exact kind_report_of_mem_findings hd

/-- A rule can be warned about for its range and have a fault, and its line can end in a blank. -/
example : lineFindings "IP-CIDR,300.0.0.1/24,1.2.3. ".toList =
    [.outOfRange, .truncatedAddress, .trailingBlank] := by
  decide

namespace AddressBlock

variable {b : AddressBlock}

/-- Not all digits are of ASCII, or the decimal value of an octet is above 255 or that of the length
above 32. -/
def OutOfRange (b : AddressBlock) : Prop :=
  (∃ run ∈ b.length :: b.octets, ∃ c ∈ run, c.isDigit = false) ∨
    (∃ octet ∈ b.octets, 255 < Nat.ofDigitChars 10 octet 0) ∨ 32 < Nat.ofDigitChars 10 b.length 0

theorem inRange_iff : b.inRange = true ↔ ¬ b.OutOfRange := by
  unfold inRange OutOfRange
  rw [Bool.and_eq_true, List.all_eq_true, any_number?_iff]
  simp only [any_number?_iff, List.mem_cons, exists_eq_or_imp, not_or, not_exists, not_and,
    Bool.not_eq_false, Nat.not_lt]
  constructor
  · rintro ⟨hoctets, hdigits, hlength⟩
    exact ⟨⟨hdigits, fun octet ho => (hoctets octet ho).1⟩,
      fun octet ho => (hoctets octet ho).2, hlength⟩
  · rintro ⟨⟨hdigits, hoctets⟩, hvalues, hlength⟩
    exact ⟨fun octet ho => ⟨hoctets octet ho, hvalues octet ho⟩, hdigits, hlength⟩

instance (b : AddressBlock) : Decidable b.OutOfRange :=
  decidable_of_iff (b.inRange ≠ true) ((not_congr inRange_iff).trans not_not)

end AddressBlock

section Block

variable {b : AddressBlock} {rest : List Char}

theorem typed_of_block (b : AddressBlock) (rest : List Char) :
    Typed ("IP-CIDR,".toList ++ (b.text ++ rest)) :=
  ⟨"IP-CIDR", by decide, _, rfl⟩

theorem shapeFinding?_of_block (hb : b.WellSpelled) (hrest : AddressBlock.Follows rest) :
    shapeFinding? ("IP-CIDR,".toList ++ (b.text ++ rest)) = if b.OutOfRange then some .outOfRange
      else none := by
  unfold shapeFinding?
  rw [if_pos (hasType_iff_typed.mpr (typed_of_block b rest)), rest?_eq_some_iff.mpr rfl]
  dsimp only
  rw [AddressBlock.read?_of_wellSpelled hb hrest]
  dsimp only
  by_cases hr : b.OutOfRange
  · rw [if_neg (mt AddressBlock.inRange_iff.mp (not_not.mpr hr)), if_pos hr]
  · rw [if_pos (AddressBlock.inRange_iff.mpr hr), if_neg hr]

theorem filter_outOfRange_findings (hb : b.WellSpelled) (hrest : AddressBlock.Follows rest) :
    (findings ("IP-CIDR,".toList ++ (b.text ++ rest))).filter (· = .outOfRange) =
      if b.OutOfRange then [.outOfRange] else [] := by
  have hblock : ¬ LacksBlock ("IP-CIDR,".toList ++ (b.text ++ rest)) := by
    rintro ⟨value, hvalue, hlacks⟩
    obtain rfl := List.append_cancel_left hvalue
    exact hlacks ⟨b, rest, hb, rfl, hrest⟩
  rw [findings_of_sound (typed_of_block b rest) hblock, shapeFinding?_of_block hb hrest,
    List.filter_append]
  split_ifs <;> rfl

/-- A line with an address block is warned about exactly if the block is out of range, whatever
follows it. -/
theorem rangeWarning_checkLine (hline : ofLine line = "IP-CIDR,".toList ++ (b.text ++ rest))
    (hb : b.WellSpelled) (hrest : AddressBlock.Follows rest) :
    (checkLine file number line).filter (fun d => d.severity = .warn ∧ d.kind = some .malformed) =
      if b.OutOfRange then
        [⟨.warn, some .malformed, "address out of range in '" ++ .ofList (ofLine line) ++ "'",
          some ⟨file, some number⟩⟩]
      else [] := by
  have hrule : ofLine line ≠ [] := by
    rw [hline]
    exact List.cons_ne_nil _ _
  have hreport (f : Finding) : decide ((f.report file number line).severity = .warn ∧
      (f.report file number line).kind = some .malformed) = decide (f = .outOfRange) := by
    cases f <;> rfl
  rw [filter_checkLine hreport rfl hrule, hline, filter_outOfRange_findings hb hrest, ← hline]
  split_ifs <;> rfl

def highBlock : AddressBlock := ⟨["010", "0", "1", "256"].map String.toList, "08".toList⟩

theorem rangeWarning_highBlock :
    ofLine " IP-CIDR,010.0.1.256/08,x # far".toList = "IP-CIDR,".toList ++
      (highBlock.text ++ ",x".toList) ∧
    highBlock.WellSpelled ∧ AddressBlock.Follows ",x".toList ∧
    (checkLine "a.list" 3 " IP-CIDR,010.0.1.256/08,x # far".toList).filter
        (fun d => d.severity = .warn ∧ d.kind = some .malformed) =
      [⟨.warn, some .malformed, "address out of range in 'IP-CIDR,010.0.1.256/08,x'",
        some ⟨"a.list", some 3⟩⟩] := by
  have hline : ofLine " IP-CIDR,010.0.1.256/08,x # far".toList =
      "IP-CIDR,".toList ++ (highBlock.text ++ ",x".toList) := by decide
  have hspelled : highBlock.WellSpelled := by decide
  have hrest : AddressBlock.Follows ",x".toList := .inr ⟨['x'], rfl, by decide⟩
  have hrange : highBlock.OutOfRange := by decide
  refine ⟨hline, hspelled, hrest, ?_⟩
  rw [rangeWarning_checkLine hline hspelled hrest, if_pos hrange]
  rfl

end Block

end RuleLint.Rule
