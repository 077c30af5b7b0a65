import Mathlib.Data.List.Sort
import RuleLint.Proofs.Profile.Concatenation
import RuleLint.Proofs.Profile.Errors

namespace RuleLint

def Diagnostic.onFirst (n : Nat) (ds : List Diagnostic) : List Diagnostic :=
  ds.filter fun d => (d.location.bind Location.line).any (· ≤ n)

namespace Profile

open Text Statement

structure Reference where
  line : Nat
  group : List Char
  /-- The place among the fields behind the name of the group. -/
  position : Nat
  name : List Char
deriving DecidableEq, Repr

namespace Reference

def Before (r r' : Reference) : Prop :=
  r.line < r'.line ∨ r.line = r'.line ∧ r.position < r'.position

theorem Before.asymm {r r' : Reference} (h : r.Before r') : ¬ r'.Before r := by
  unfold Before at *
  omega

instance : Std.Irrefl Before := ⟨fun _ h => h.asymm h⟩

instance : Std.Antisymm Before := ⟨fun _ _ h h' => (h.asymm h').elim⟩

/-- It stands in a group before the node section, and its name is not known. -/
def Unresolved (content : String) (r : Reference) : Prop :=
  ∃ l ∈ numberedLines content, l.number = r.line ∧ ¬ InNodeSection content l ∧
    (∃ fields, IsGroup l r.group fields ∧ fields[r.position]? = some ('[' :: ']' :: r.name)) ∧
    ¬ Known content r.name

def diagnostic (file : String) (r : Reference) : Diagnostic :=
  ⟨.error, some .reference, "proxy group '" ++ .ofList r.group ++ "' references unknown name '" ++
    .ofList r.name ++ "' (line " ++ toString r.line ++ ")", some ⟨file, some r.line⟩⟩

end Reference

variable {content file : String} {l : Line} {r : Reference} {name : List Char}

def referencesIn (line : Nat) (group : List Char) (fields : List (List Char)) : List Reference :=
  fields.zipIdx.filterMap fun (field, position) =>
    (rest? ['[', ']'] field).map fun name => ⟨line, group, position, name⟩

def referencesOf (l : Line) : List Reference :=
  match Statement.ofLine l.text with
  | .group name fields => referencesIn l.number name fields
  | _ => []

theorem mem_referencesIn {line : Nat} {group : List Char} {fields : List (List Char)} :
    r ∈ referencesIn line group fields ↔
      r.line = line ∧ r.group = group ∧ fields[r.position]? = some ('[' :: ']' :: r.name) := by
  unfold referencesIn
  rw [List.mem_filterMap]
  constructor
  · rintro ⟨⟨field, position⟩, hfield, hr⟩
    obtain ⟨name, hname, rfl⟩ := Option.map_eq_some_iff.mp hr
    refine ⟨rfl, rfl, ?_⟩
    rw [List.mem_zipIdx_iff_getElem?.mp hfield]
    exact congrArg some (rest?_eq_some_iff.mp hname)
  · rintro ⟨rfl, rfl, hfield⟩
    refine ⟨(_, r.position), List.mem_zipIdx_iff_getElem?.mpr hfield, ?_⟩
    rfl

theorem mem_referencesOf : r ∈ referencesOf l ↔ r.line = l.number ∧
    ∃ fields, IsGroup l r.group fields ∧ fields[r.position]? = some ('[' :: ']' :: r.name) := by
  unfold referencesOf
  have hsays := says_ofLine l
  constructor
  · intro hr
    generalize ofLine l.text = statement at hsays hr
    cases hsays with
    | group h =>
      obtain ⟨hline, hgroup, hfield⟩ := mem_referencesIn.mp hr
      exact ⟨hline, _, hgroup ▸ h, hfield⟩
    | ruleSet | unsourced | unnamedRuleSet | unnamedGroup | nodeMarker | other => contradiction
  · rintro ⟨hline, fields, h, hfield⟩
    rw [ofLine_of_isGroup h]
    exact mem_referencesIn.mpr ⟨hline, rfl, hfield⟩

theorem referencesIn_pairwise (line : Nat) (group : List Char) (fields : List (List Char)) :
    (referencesIn line group fields).Pairwise Reference.Before := by
  have hpositions : fields.zipIdx.Pairwise (·.2 < ·.2) := by
    rw [← List.pairwise_map, List.zipIdx_map_snd]
    exact List.pairwise_lt_range'
  unfold referencesIn
  rw [List.pairwise_filterMap]
  apply hpositions.imp
  intro f f' hlt r hr r' hr'
  obtain ⟨_, -, rfl⟩ := Option.map_eq_some_iff.mp hr
  obtain ⟨_, -, rfl⟩ := Option.map_eq_some_iff.mp hr'
  exact .inr ⟨rfl, hlt⟩

theorem referencesOf_pairwise (l : Line) : (referencesOf l).Pairwise Reference.Before := by
  unfold referencesOf
  split
  · exact referencesIn_pairwise _ _ _
  · exact .nil

/-- Empty fields, which are no options, refer to nothing. -/
theorem filterMap_reference?_options (line : Nat) (group : List Char) (fields : List (List Char)) :
    ((fields.filter (· ≠ [])).map optionOfField).filterMap GroupOption.reference? =
      (referencesIn line group fields).map fun r => .ofList r.name := by
  have hfields : (referencesIn line group fields).map (fun r => String.ofList r.name) =
      fields.filterMap fun field => (rest? ['[', ']'] field).map String.ofList := by
    conv_rhs => rw [← List.zipIdx_map_fst 0 fields]
    unfold referencesIn
    rw [List.map_filterMap, List.filterMap_map]
    simp only [Option.map_map]
    rfl
  rw [hfields, List.filterMap_map, List.filterMap_filter]
  congr 1
  funext field
  cases field with
  | nil => rfl
  | cons c field =>
    rw [if_pos (by simp)]
    unfold Function.comp optionOfField
    cases rest? ['[', ']'] (c :: field) <;> rfl

/-- The references of a text that resolve to nothing. -/
def unresolved (content : String) : List Reference :=
  (numberedLines content).flatMap fun l =>
    if kindAt (ofText content).nodeMarker l.number = .selector then
      (referencesOf l).filter fun r => ! (ofText content).knownNames.resolves (.ofList r.name)
    else []

theorem mem_unresolved : r ∈ unresolved content ↔ r.Unresolved content := by
  unfold unresolved Reference.Unresolved
  rw [List.mem_flatMap]
  refine exists_congr fun l => and_congr_right fun _ => ?_
  rw [← kindAt_eq_selector_iff, ← resolves_ofText_iff]
  by_cases hkind : kindAt (ofText content).nodeMarker l.number = .selector
  · rw [if_pos hkind, List.mem_filter, mem_referencesOf, Bool.not_eq_true', Bool.not_eq_true,
      and_iff_right hkind, and_assoc, eq_comm]
  · rw [if_neg hkind]
    exact iff_of_false List.not_mem_nil fun h => hkind h.2.1

theorem line_of_mem_referencesOf (h : r ∈ referencesOf l) : r.line = l.number :=
  (mem_referencesOf.mp h).1

theorem unresolved_pairwise (content : String) :
    (unresolved content).Pairwise Reference.Before := by
  unfold unresolved
  rw [List.pairwise_flatMap]
  constructor
  · intro l _
    split_ifs
    · exact (referencesOf_pairwise l).filter _
    · exact .nil
  · apply (numberedLines_pairwise content).imp
    intro l l' hlt r hr r' hr'
    split_ifs at hr hr'
    · left
      rw [line_of_mem_referencesOf (List.mem_of_mem_filter hr),
        line_of_mem_referencesOf (List.mem_of_mem_filter hr')]
      exact hlt
    all_goals contradiction

theorem checkReferences_eq_map (file content : String) :
    (ofText content).checkReferences file =
      (unresolved content).map (Reference.diagnostic file) := by
  unfold checkReferences selectors unresolved
  dsimp only
  rw [groups_ofText, List.filter_filterMap, List.filterMap_eq_flatMap_toList, List.flatMap_assoc,
    List.map_flatMap]
  congr 1
  funext l
  unfold groupOf? Item.group? referencesOf
  cases Statement.ofLine l.text with
  | group name fields =>
    by_cases hkind : kindAt (ofText content).nodeMarker l.number = .selector
    · rw [if_pos hkind]
      simp only [Option.filter_some, hkind, decide_true, if_true, Option.toList_some,
        List.flatMap_singleton]
      unfold ProxyGroup.references
      dsimp only
      rw [filterMap_reference?_options l.number name, List.filter_map, List.map_map]
      apply List.map_congr_left
      intro r hr
      obtain ⟨hline, hgroup, -⟩ := mem_referencesIn.mp (List.mem_of_mem_filter hr)
      unfold Reference.diagnostic
      rw [hline, hgroup]
      rfl
    · rw [if_neg hkind]
      simp [Option.filter_some, hkind]
  | nodeMarker | ruleSet | unsourced | unnamedRuleSet | unnamedGroup | other => simp

/-- Every unresolved reference is an error, by line and by place in the line, and there are no other
errors. -/
theorem checkReferences_ofText (file content : String) :
    ∃ rs : List Reference, rs.Pairwise Reference.Before ∧ (∀ r, r ∈ rs ↔ r.Unresolved content) ∧
      (ofText content).checkReferences file = rs.map (Reference.diagnostic file) :=
  ⟨unresolved content, unresolved_pairwise content, fun _ => mem_unresolved,
    checkReferences_eq_map file content⟩

/-- Behind its first `n` lines the profile has a rule-set of the name, or a group of the name in the
node section. -/
def DefinesBehind (p : Profile) (n : Nat) (name : String) : Prop :=
  (∃ r ∈ p.ruleSets, n < r.line ∧ r.name = name) ∨ ∃ g ∈ p.nodes, n < g.line ∧ g.name = name

instance (p : Profile) (n : Nat) (name : String) : Decidable (p.DefinesBehind n name) :=
  inferInstanceAs (Decidable (_ ∨ _))

variable {front : String}

/-- What is known in both texts is known in the first, or it is defined behind it. -/
theorem known_append_iff (h : Ended front.toList) (rest : String) :
    Known (front ++ rest) name ↔
      Known front name ∨ (ofText (front ++ rest)).DefinesBehind (feeds front) (.ofList name) := by
  have hruleSets := @exists_line_append_iff _ h rest fun l => ∃ source, IsRuleSet l name source
  have hnodes := @exists_line_append_iff _ h rest fun l =>
    InNodeSection (front ++ rest) l ∧ ∃ fields, IsGroup l name fields
  have hsection : (∃ l ∈ numberedLines front, InNodeSection (front ++ rest) l ∧
        ∃ fields, IsGroup l name fields) ↔
      ∃ l ∈ numberedLines front, InNodeSection front l ∧ ∃ fields, IsGroup l name fields :=
    exists_congr fun l => and_congr_right fun hl => and_congr_left' (inNodeSection_front h rest hl)
  rw [hsection] at hnodes
  unfold DefinesBehind
  rw [@exists_ruleSet_named_iff _ (feeds front < ·) name,
    @exists_node_named_iff _ (feeds front < ·) name]
  unfold Known
  rw [hruleSets, hnodes]
  exact (or_congr_right or_or_or_comm).trans or_assoc.symm

theorem unresolved_front_iff (h : Ended front.toList) (rest : String) :
    r.Unresolved (front ++ rest) ∧ r.line ≤ feeds front ↔
      r.Unresolved front ∧
      ¬ (ofText (front ++ rest)).DefinesBehind (feeds front) (.ofList r.name) := by
  unfold Reference.Unresolved
  rw [known_append_iff h rest, not_or]
  constructor
  · rintro ⟨⟨l, hl, hline, hsection, hgroup, hknown, hdefined⟩, hle⟩
    have hfront := (mem_numberedLines_front h rest).mpr ⟨hl, hline ▸ hle⟩
    exact ⟨⟨l, hfront, hline, mt (inNodeSection_front h rest hfront).mpr hsection, hgroup, hknown⟩,
      hdefined⟩
  · rintro ⟨⟨l, hl, hline, hsection, hgroup, hknown⟩, hdefined⟩
    obtain ⟨hwhole, hle⟩ := (mem_numberedLines_front h rest).mp hl
    exact ⟨⟨l, hwhole, hline, mt (inNodeSection_front h rest hl).mp hsection, hgroup, hknown,
      hdefined⟩, hline ▸ hle⟩

/-- The unresolved references of the first text are left, but for those that now have something to
resolve to. -/
theorem filter_unresolved_append (h : Ended front.toList) (rest : String) :
    (unresolved (front ++ rest)).filter (·.line ≤ feeds front) =
      (unresolved front).filter fun r =>
        ¬ (ofText (front ++ rest)).DefinesBehind (feeds front) (.ofList r.name) := by
  -- Both lists are in order, so that it is enough to compare their members.
  apply ((unresolved_pairwise _).filter _).eq_of_mem_iff ((unresolved_pairwise _).filter _)
  intro r
  rw [List.mem_filter, List.mem_filter, decide_eq_true_eq, decide_eq_true_eq, mem_unresolved,
    mem_unresolved]
  exact unresolved_front_iff h rest

theorem onFirst_checkReferences (file content : String) (n : Nat) :
    Diagnostic.onFirst n ((ofText content).checkReferences file) =
      ((unresolved content).filter (·.line ≤ n)).map (Reference.diagnostic file) := by
  unfold Diagnostic.onFirst
  rw [checkReferences_eq_map, List.filter_map]
  rfl

/-- With whatever stands behind a text, the errors on its references are among those that there are
without it. Such an error is missing exactly if its name is that of a rule-set or of a group in the
node section behind the text. -/
theorem checkReferences_append (file : String) (h : Ended front.toList) (rest : String) :
    (Diagnostic.onFirst (feeds front) ((ofText (front ++ rest)).checkReferences file)).Sublist
      ((ofText front).checkReferences file) ∧
    ∃ rs : List Reference, (∀ r, r ∈ rs ↔ r.Unresolved front) ∧
      (ofText front).checkReferences file = rs.map (Reference.diagnostic file) ∧
      Diagnostic.onFirst (feeds front) ((ofText (front ++ rest)).checkReferences file) =
        (rs.filter fun r =>
          ¬ (ofText (front ++ rest)).DefinesBehind (feeds front) (.ofList r.name)).map
            (Reference.diagnostic file) := by
  have hleft := onFirst_checkReferences file (front ++ rest) (feeds front)
  rw [filter_unresolved_append h rest] at hleft
  refine ⟨?_, unresolved front, fun _ => mem_unresolved, checkReferences_eq_map file front, hleft⟩
  rw [hleft, checkReferences_eq_map]
  exact List.filter_sublist.map _

/-- A group behind the marker resolves one of three references; a rule-set without a name resolves
none. -/
theorem checkReferences_append_node :
    let front := "custom_proxy_group=P`[]A`[]B``[]A\n"
    let rest := "; Node\ncustom_proxy_group=B`[]C\nruleset=,A"
    let onA : Diagnostic :=
      ⟨.error, some .reference, "proxy group 'P' references unknown name 'A' (line 1)",
        some ⟨"c.ini", some 1⟩⟩
    let onB : Diagnostic :=
      ⟨.error, some .reference, "proxy group 'P' references unknown name 'B' (line 1)",
        some ⟨"c.ini", some 1⟩⟩
    Ended front.toList ∧ (ofText front).checkReferences "c.ini" = [onA, onB, onA] ∧
      (Diagnostic.onFirst (feeds front) ((ofText (front ++ rest)).checkReferences "c.ini")).Sublist
        [onA, onB, onA] ∧
      Diagnostic.onFirst (feeds front) ((ofText (front ++ rest)).checkReferences "c.ini") =
        [onA, onA] := by
  intro front rest onA onB
  have hended : Ended front.toList := by decide
  have hfront : (ofText front).checkReferences "c.ini" = [onA, onB, onA] := by decide
  have hsub := (checkReferences_append "c.ini" hended rest).1
  rw [hfront] at hsub
  exact ⟨hended, hfront, hsub, by decide⟩

end Profile

end RuleLint
