import RuleLint.Profile.Reading
import RuleLint.Proofs.Text.Fields

namespace RuleLint.Profile

open Text

/-- The line is a comment that mentions `Node`. -/
def MarksNodes (l : Line) : Prop :=
  ((trim l.text).head? = some ';' ∨ (trim l.text).head? = some '#') ∧ "Node".toList <:+: trim l.text

def ruleSetKey : List Char := "ruleset=".toList

def groupKey : List Char := "custom_proxy_group=".toList

/-- A line before this one marks nodes. -/
def InNodeSection (content : String) (l : Line) : Prop :=
  ∃ m ∈ numberedLines content, MarksNodes m ∧ m.number < l.number

/-- The source in what follows the name of a rule-set. Commas end it, but not if it starts with a
bracket. -/
def sourceOf (value : List Char) : List Char :=
  if value.head? = some '[' then value else trim (value.takeWhile (· ≠ ','))

/-- The name and the source of a rule-set are what stands before the first comma and behind it. -/
def NamesSource (payload name source : List Char) : Prop :=
  ∃ before after, payload = before ++ ',' :: after ∧ ',' ∉ before ∧ name = trim before ∧
    source = sourceOf (trim after)

structure IsRuleSet (l : Line) (name source : List Char) : Prop where
  spelled : ∃ payload, trim l.text = ruleSetKey ++ payload ∧ NamesSource payload name source
  named : name ≠ []
  sourced : source ≠ []

/-- The line is a group with a name, followed by fields, some of which may be empty. -/
structure IsGroup (l : Line) (name : List Char) (fields : List (List Char)) : Prop where
  spelled : ∃ payload, trim l.text = groupKey ++ payload ∧ groupFields payload = name :: fields
  named : name ≠ []

/-- What a line says. A line that starts like a rule-set or a group but is none is one of which a
part is missing. -/
inductive Says (l : Line) : Statement → Prop
  | ruleSet {name source : List Char} {extra : List (List Char)} (h : IsRuleSet l name source) :
    Says l (.ruleSet name source extra)
  | group {name : List Char} {fields : List (List Char)} (h : IsGroup l name fields) :
      Says l (.group name fields)
  | unsourced {name : List Char} (key : ruleSetKey <+: trim l.text)
    (h : ∀ name source, ¬ IsRuleSet l name source) :
    Says l (.unsourced name)
  | unnamedRuleSet (key : ruleSetKey <+: trim l.text)
    (h : ∀ name source, ¬ IsRuleSet l name source) :
    Says l .unnamedRuleSet
  | unnamedGroup (key : groupKey <+: trim l.text) (h : ∀ name fields, ¬ IsGroup l name fields) :
      Says l .unnamedGroup
  | nodeMarker (h : MarksNodes l) : Says l .nodeMarker
  | other (hr : ¬ ruleSetKey <+: trim l.text) (hg : ¬ groupKey <+: trim l.text)
      (h : ¬ MarksNodes l) : Says l .other

variable {content : String} {l : Line} {payload name source : List Char} {fields : List (List Char)}

theorem IsRuleSet.key (h : IsRuleSet l name source) : ruleSetKey <+: trim l.text := by
  obtain ⟨payload, hl, -⟩ := h.spelled
  exact ⟨payload, hl.symm⟩

theorem IsGroup.key (h : IsGroup l name fields) : groupKey <+: trim l.text := by
  obtain ⟨payload, hl, -⟩ := h.spelled
  exact ⟨payload, hl.symm⟩

theorem head?_of_key {key : List Char} {c : Char} (hc : key.head? = some c)
    (h : key <+: trim l.text) :
    (trim l.text).head? = some c := by
  obtain ⟨payload, hl⟩ := h
  rw [← hl, List.head?_append_of_ne_nil _ (by rintro rfl; contradiction), hc]

theorem not_groupKey_of_ruleSetKey (h : ruleSetKey <+: trim l.text) :
    ¬ groupKey <+: trim l.text := by
  intro hg
  have hc := (head?_of_key (c := 'r') rfl h).symm.trans (head?_of_key (c := 'c') rfl hg)
  contradiction

theorem not_marksNodes_of_ruleSetKey (h : ruleSetKey <+: trim l.text) : ¬ MarksNodes l := by
  intro hm
  rw [MarksNodes, head?_of_key (c := 'r') rfl h] at hm
  rcases hm.1 with hc | hc <;> contradiction

theorem not_marksNodes_of_groupKey (h : groupKey <+: trim l.text) : ¬ MarksNodes l := by
  intro hm
  rw [MarksNodes, head?_of_key (c := 'c') rfl h] at hm
  rcases hm.1 with hc | hc <;> contradiction

namespace Statement

theorem namesSource_unique {name' source' : List Char} (h : NamesSource payload name source)
    (h' : NamesSource payload name' source') : name = name' ∧ source = source' := by
  obtain ⟨before, after, hp, hb, rfl, rfl⟩ := h
  obtain ⟨before', after', hp', hb', rfl, rfl⟩ := h'
  have hcut := (cut?_eq_some_iff.mpr ⟨hp, hb⟩).symm.trans (cut?_eq_some_iff.mpr ⟨hp', hb'⟩)
  obtain ⟨rfl, rfl⟩ := Prod.mk.inj (Option.some.inj hcut)
  exact ⟨rfl, rfl⟩

theorem ofRuleSet_of_not_mem (h : ',' ∉ payload) :
    ofRuleSet payload = .unsourced (trim payload) := by
  have hcut : cut? ',' payload = none := by
    cases hc : cut? ',' payload with
    | none => rfl
    | some p =>
      obtain ⟨rfl, -⟩ := cut?_eq_some_iff.mp hc
      exact (h (by simp)).elim
  unfold ofRuleSet
  rw [hcut]

theorem ofRuleSet_of_namesSource (h : NamesSource payload name source) :
    (name ≠ [] ∧ source ≠ [] ∧ ∃ extra, ofRuleSet payload = .ruleSet name source extra) ∨
      (name = [] ∧ ofRuleSet payload = .unnamedRuleSet) ∨
      (source = [] ∧ ofRuleSet payload = .unsourced name) := by
  obtain ⟨before, after, hp, hb, rfl, rfl⟩ := h
  unfold ofRuleSet sourceOf
  rw [cut?_eq_some_iff.mpr ⟨hp, hb⟩]
  dsimp only
  by_cases hname : trim before = []
  · rw [if_pos hname]
    exact .inr (.inl ⟨hname, rfl⟩)
  · rw [if_neg hname]
    by_cases hbracket : (trim after).head? = some '['
    · rw [if_pos hbracket, if_pos hbracket]
      refine .inl ⟨hname, fun hn => ?_, [], rfl⟩
      rw [hn] at hbracket
      contradiction
    · rw [if_neg hbracket, if_neg hbracket]
      obtain ⟨f, fs, hf⟩ := List.exists_cons_of_ne_nil (fields_ne_nil ',' (trim after))
      have hfirst := head?_fields ',' (trim after)
      rw [hf] at hfirst
      rw [hf, ← Option.some.inj hfirst, List.map_cons]
      cases hsource : trim f with
      | nil => exact .inr (.inr ⟨rfl, rfl⟩)
      | cons c s => exact .inl ⟨hname, List.cons_ne_nil _ _, fs.map trim, rfl⟩

theorem ofRuleSet_cases (payload : List Char) :
    (∃ name source extra, NamesSource payload name source ∧ name ≠ [] ∧ source ≠ [] ∧
        ofRuleSet payload = .ruleSet name source extra) ∨
      (∀ name source, NamesSource payload name source → name = [] ∨ source = []) ∧
        (ofRuleSet payload = .unnamedRuleSet ∨ ∃ name, ofRuleSet payload = .unsourced name) := by
  by_cases hcomma : ',' ∈ payload
  · obtain ⟨before, after, hp, hb⟩ := List.eq_append_cons_of_mem hcomma
    have hparts : NamesSource payload (trim before) (sourceOf (trim after)) :=
      ⟨before, after, hp, hb, rfl, rfl⟩
    rcases ofRuleSet_of_namesSource hparts with ⟨hn, hs, extra, he⟩ | ⟨hn, he⟩ | ⟨hs, he⟩
    · exact .inl ⟨_, _, extra, hparts, hn, hs, he⟩
    · exact .inr ⟨fun _ _ h => .inl ((namesSource_unique h hparts).1.trans hn), .inl he⟩
    · exact .inr ⟨fun _ _ h => .inr ((namesSource_unique h hparts).2.trans hs), .inr ⟨_, he⟩⟩
  · refine .inr ⟨?_, .inr ⟨_, ofRuleSet_of_not_mem hcomma⟩⟩
    rintro name source ⟨before, after, rfl, -⟩
    exact (hcomma (by simp)).elim

theorem groupFields_ne_nil (payload : List Char) : groupFields payload ≠ [] := by
  unfold groupFields
  rw [Ne, List.map_eq_nil_iff]
  exact fields_ne_nil _ _

theorem ofGroup_of_fields (h : groupFields payload = name :: fields) :
    ofGroup payload = if name = [] then .unnamedGroup else .group name fields := by
  unfold ofGroup
  rw [h]
  cases name <;> rfl

theorem isComment_iff {line : List Char} :
    isComment line = true ↔ line.head? = some ';' ∨ line.head? = some '#' := by
  unfold isComment
  rw [Bool.or_eq_true, decide_eq_true_eq, decide_eq_true_eq]

theorem ofLine_of_ruleSet (h : trim l.text = ruleSetKey ++ payload) :
    ofLine l.text = ofRuleSet payload := by
  have hc : isComment (trim l.text) = false := by
    rw [h]
    rfl
  have hr : rest? "ruleset=".toList (trim l.text) = some payload := rest?_eq_some_iff.mpr h
  unfold ofLine
  simp only [hc, hr]
  rfl

theorem ofLine_of_group (h : trim l.text = groupKey ++ payload) :
    ofLine l.text = ofGroup payload := by
  have hc : isComment (trim l.text) = false := by
    rw [h]
    rfl
  have hr : rest? "ruleset=".toList (trim l.text) = none := by
    rw [h]
    rfl
  have hg : rest? "custom_proxy_group=".toList (trim l.text) = some payload :=
    rest?_eq_some_iff.mpr h
  unfold ofLine
  simp only [hc, hr, hg]
  rfl

theorem ofLine_of_neither (hr : ¬ ruleSetKey <+: trim l.text) (hg : ¬ groupKey <+: trim l.text) :
    ofLine l.text =
      if isComment (trim l.text) ∧ mentions "Node".toList (trim l.text) then .nodeMarker
        else .other := by
  have hnone {word : List Char} (h : ¬ word <+: trim l.text) : rest? word (trim l.text) = none := by
    rwa [← isSome_rest?_iff, Option.not_isSome_iff_eq_none] at h
  have hr' : rest? "ruleset=".toList (trim l.text) = none := hnone hr
  have hg' : rest? "custom_proxy_group=".toList (trim l.text) = none := hnone hg
  unfold ofLine
  simp only [hr', hg']
  by_cases hc : isComment (trim l.text) = true <;> simp [hc]

/-- What is read from a line is what it says. -/
theorem says_ofLine (l : Line) : Says l (ofLine l.text) := by
  by_cases hr : ruleSetKey <+: trim l.text
  · obtain ⟨payload, hl⟩ := hr
    rw [ofLine_of_ruleSet hl.symm]
    rcases ofRuleSet_cases payload with ⟨name, source, extra, hparts, hn, hs, hp⟩ | ⟨hmissing, hp⟩
    · rw [hp]
      exact .ruleSet ⟨⟨payload, hl.symm, hparts⟩, hn, hs⟩
    · have hnone (name source : List Char) : ¬ IsRuleSet l name source := by
        rintro ⟨⟨payload', hl', hparts⟩, hn, hs⟩
        obtain rfl := List.append_cancel_left (hl.trans hl')
        exact (hmissing name source hparts).elim hn hs
      rcases hp with hp | ⟨_, hp⟩
      · rw [hp]
        exact .unnamedRuleSet ⟨payload, hl⟩ hnone
      · rw [hp]
        exact .unsourced ⟨payload, hl⟩ hnone
  · by_cases hg : groupKey <+: trim l.text
    · obtain ⟨payload, hl⟩ := hg
      obtain ⟨name, fields, hf⟩ := List.exists_cons_of_ne_nil (groupFields_ne_nil payload)
      rw [ofLine_of_group hl.symm, ofGroup_of_fields hf]
      split_ifs with hn
      · refine .unnamedGroup ⟨payload, hl⟩ ?_
        rintro name' fields' ⟨⟨payload', hl', hf'⟩, hn'⟩
        obtain rfl := List.append_cancel_left (hl.trans hl')
        obtain ⟨rfl, -⟩ := List.cons.inj (hf.symm.trans hf')
        exact hn' hn
      · exact .group ⟨⟨payload, hl.symm, hf⟩, hn⟩
    · have hmarks : isComment (trim l.text) ∧ mentions "Node".toList (trim l.text) ↔
          MarksNodes l := by
        rw [isComment_iff, mentions_iff]
        rfl
      rw [ofLine_of_neither hr hg]
      split_ifs with h
      · exact .nodeMarker (hmarks.mp h)
      · exact .other hr hg fun hm => h (hmarks.mpr hm)

theorem ofLine_of_isGroup (h : IsGroup l name fields) : ofLine l.text = .group name fields := by
  obtain ⟨⟨payload, hl, hf⟩, hn⟩ := h
  rw [ofLine_of_group hl, ofGroup_of_fields hf, if_neg hn]

theorem ofLine_of_isRuleSet (h : IsRuleSet l name source) :
    ∃ extra, ofLine l.text = .ruleSet name source extra := by
  obtain ⟨⟨payload, hl, hparts⟩, hn, hs⟩ := h
  rw [ofLine_of_ruleSet hl]
  rcases ofRuleSet_of_namesSource hparts with ⟨-, -, h⟩ | ⟨hn', -⟩ | ⟨hs', -⟩
  · exact h
  · contradiction
  · contradiction

theorem ofLine_eq_nodeMarker_iff : ofLine l.text = .nodeMarker ↔ MarksNodes l := by
  have hsays := says_ofLine l
  generalize ofLine l.text = statement at hsays
  cases hsays with
  | nodeMarker h => exact iff_of_true rfl h
  | other _ _ h => exact iff_of_false nofun h
  | ruleSet h => exact iff_of_false nofun (not_marksNodes_of_ruleSetKey h.key)
  | group h => exact iff_of_false nofun (not_marksNodes_of_groupKey h.key)
  | unsourced key | unnamedRuleSet key =>
    exact iff_of_false nofun (not_marksNodes_of_ruleSetKey key)
  | unnamedGroup key => exact iff_of_false nofun (not_marksNodes_of_groupKey key)

end Statement

open Statement

def ruleSetOf? (l : Line) : Option RuleSet := Item.ruleSet? ⟨l.number, .ofLine l.text⟩

def groupOf? (marker : Option Nat) (l : Line) : Option ProxyGroup :=
  Item.group? marker ⟨l.number, .ofLine l.text⟩

theorem ruleSets_ofText (content : String) :
    (ofText content).ruleSets = (numberedLines content).filterMap ruleSetOf? := by
  show (items content).filterMap Item.ruleSet? = _
  unfold items
  rw [List.filterMap_map]
  rfl

theorem groups_ofText (content : String) :
    (ofText content).groups =
      (numberedLines content).filterMap (groupOf? (ofText content).nodeMarker) := by
  show (items content).filterMap (Item.group? (markerLine (items content))) = _
  unfold items
  rw [List.filterMap_map]
  rfl

theorem isRuleSet_of_mem_ruleSets {r : RuleSet} (h : r ∈ (ofText content).ruleSets) :
    ∃ l ∈ numberedLines content, ∃ name source, IsRuleSet l name source ∧
      r.name = .ofList name ∧ r.source = .ofList source ∧ r.line = l.number := by
  rw [ruleSets_ofText] at h
  obtain ⟨l, hl, hr⟩ := List.mem_filterMap.mp h
  have hsays := says_ofLine l
  unfold ruleSetOf? at hr
  generalize ofLine l.text = statement at hsays hr
  cases hsays with
  | ruleSet hrule =>
    obtain rfl := Option.some.inj hr
    exact ⟨l, hl, _, _, hrule, rfl, rfl, rfl⟩
  | group | unsourced | unnamedRuleSet | unnamedGroup | nodeMarker | other => contradiction

theorem exists_ruleSet_of_isRuleSet (hl : l ∈ numberedLines content) (h : IsRuleSet l name source) :
    ∃ r ∈ (ofText content).ruleSets, r.name = .ofList name ∧ r.source = .ofList source ∧
    r.line = l.number := by
  obtain ⟨extra, he⟩ := ofLine_of_isRuleSet h
  have hr : ruleSetOf? l = some ⟨.ofList name, .ofList source, extra.map .ofList, l.number⟩ := by
    unfold ruleSetOf?
    rw [he]
    rfl
  rw [ruleSets_ofText]
  exact ⟨_, List.mem_filterMap.mpr ⟨l, hl, hr⟩, rfl, rfl, rfl⟩

theorem groupOf?_eq_some_iff {marker : Option Nat} {g : ProxyGroup} :
    groupOf? marker l = some g ↔ ∃ name fields, IsGroup l name fields ∧
      g = ⟨.ofList name, (fields.filter (· ≠ [])).map optionOfField, l.number,
        kindAt marker l.number⟩ := by
  unfold groupOf?
  constructor
  · intro hg
    have hsays := says_ofLine l
    generalize ofLine l.text = statement at hsays hg
    cases hsays with
    | group h => exact ⟨_, _, h, (Option.some.inj hg).symm⟩
    | ruleSet | unsourced | unnamedRuleSet | unnamedGroup | nodeMarker | other => contradiction
  · rintro ⟨name, fields, h, rfl⟩
    rw [ofLine_of_isGroup h]
    rfl

theorem mem_groups_ofText {g : ProxyGroup} :
    g ∈ (ofText content).groups ↔
      ∃ l ∈ numberedLines content, ∃ name fields, IsGroup l name fields ∧
        g = ⟨.ofList name, (fields.filter (· ≠ [])).map optionOfField, l.number,
          kindAt (ofText content).nodeMarker l.number⟩ := by
  rw [groups_ofText, List.mem_filterMap]
  exact exists_congr fun l => and_congr_right' groupOf?_eq_some_iff

theorem reference_mem_iff {ref : List Char} :
    .reference (.ofList ref) ∈ (fields.filter (· ≠ [])).map optionOfField ↔
      '[' :: ']' :: ref ∈ fields := by
  have hoption (field : List Char) :
      optionOfField field = .reference (.ofList ref) ↔ field = '[' :: ']' :: ref := by
    unfold optionOfField
    cases h : rest? ['[', ']'] field with
    | none =>
      apply iff_of_false nofun
      rintro rfl
      contradiction
    | some name =>
      rw [rest?_eq_some_iff.mp h]
      simp [String.ofList_inj]
  rw [List.mem_map]
  constructor
  · rintro ⟨field, hm, hf⟩
    rw [← (hoption field).mp hf]
    exact List.mem_of_mem_filter hm
  · intro hm
    exact ⟨_, List.mem_filter.mpr ⟨hm, rfl⟩, (hoption _).mpr rfl⟩

theorem nodeMarker_ofText (content : String) :
    (ofText content).nodeMarker =
      ((numberedLines content).find? fun l => ofLine l.text = .nodeMarker).map Line.number := by
  show markerLine (items content) = _
  unfold markerLine items
  rw [List.find?_map, Option.map_map]
  rfl

theorem nodeMarker_eq_some_iff {n : Nat} :
    (ofText content).nodeMarker = some n ↔
      ∃ l ∈ numberedLines content, MarksNodes l ∧ l.number = n ∧
        ∀ m ∈ numberedLines content, MarksNodes m → n ≤ m.number := by
  rw [nodeMarker_ofText, find?_number_eq_some_iff (numberedLines_pairwise content)]
  simp only [decide_eq_true_eq, ofLine_eq_nodeMarker_iff]

theorem nodeMarker_eq_none_iff :
    (ofText content).nodeMarker = none ↔ ∀ l ∈ numberedLines content, ¬ MarksNodes l := by
  rw [nodeMarker_ofText, Option.map_eq_none_iff, List.find?_eq_none]
  simp only [decide_eq_true_eq, ofLine_eq_nodeMarker_iff]

/-- The node section starts behind the first line that marks nodes. -/
theorem exists_nodeMarker_lt_iff :
    (∃ marker ∈ (ofText content).nodeMarker, marker < l.number) ↔ InNodeSection content l := by
  constructor
  · rintro ⟨marker, hmarker, hlt⟩
    obtain ⟨m, hm, hmarks, rfl, -⟩ := nodeMarker_eq_some_iff.mp hmarker
    exact ⟨m, hm, hmarks, hlt⟩
  · rintro ⟨m, hm, hmarks, hlt⟩
    cases hmarker : (ofText content).nodeMarker with
    | none => exact (nodeMarker_eq_none_iff.mp hmarker m hm hmarks).elim
    | some marker =>
      obtain ⟨-, -, -, -, hleast⟩ := nodeMarker_eq_some_iff.mp hmarker
      exact ⟨marker, rfl, Nat.lt_of_le_of_lt (hleast m hm hmarks) hlt⟩

theorem kindAt_eq_node_iff :
    kindAt (ofText content).nodeMarker l.number = .node ↔ InNodeSection content l := by
  rw [← exists_nodeMarker_lt_iff]
  unfold kindAt
  cases (ofText content).nodeMarker with
  | none => simp
  | some marker => simp

theorem kindAt_eq_selector_iff :
    kindAt (ofText content).nodeMarker l.number = .selector ↔ ¬ InNodeSection content l := by
  rw [← kindAt_eq_node_iff]
  cases kindAt (ofText content).nodeMarker l.number <;> simp

end RuleLint.Profile
