import Mathlib.Data.List.Sort
import RuleLint.Proofs.Profile.Entries
import RuleLint.Proofs.Text.Lines

namespace RuleLint

open Text

def RuleSet.renumber (f : Nat → Nat) (r : RuleSet) : RuleSet := { r with line := f r.line }

def ProxyGroup.renumber (f : Nat → Nat) (g : ProxyGroup) : ProxyGroup := { g with line := f g.line }

def ProxyGroup.asNode (g : ProxyGroup) : ProxyGroup := { g with kind := .node }

namespace Profile

def renumber (f : Nat → Nat) (p : Profile) : Profile where
  ruleSets := p.ruleSets.map (RuleSet.renumber f)
  groups := p.groups.map (ProxyGroup.renumber f)
  nodeMarker := p.nodeMarker.map f

/-- A profile and what stands behind it: once nodes are marked, all groups that follow are in the
node section. -/
def append (p q : Profile) : Profile where
  ruleSets := p.ruleSets ++ q.ruleSets
  groups := p.groups ++ if p.nodeMarker.isSome then q.groups.map ProxyGroup.asNode else q.groups
  nodeMarker := p.nodeMarker.or q.nodeMarker

/-- A line that says nothing. -/
def Silent (l : Line) : Prop :=
  ¬ MarksNodes l ∧ ¬ ruleSetKey <+: trim l.text ∧ ¬ groupKey <+: trim l.text

/-- The longer text has the lines of the other one in the same order, each at its new place, and
besides them only lines that say nothing. -/
structure Inserted (place : Nat → Nat) (content longer : String) : Prop where
  increasing : StrictMono place
  kept : ∀ l ∈ numberedLines content, ⟨place l.number, l.text⟩ ∈ numberedLines longer
  others : ∀ l ∈ numberedLines longer, (∃ m ∈ numberedLines content, place m.number = l.number) ∨
    Silent l

variable {f : Nat → Nat} {xs ys : List Item} {item : Item}

def Item.renumber (f : Nat → Nat) (item : Item) : Item := { item with line := f item.line }

theorem Item.ruleSet?_renumber (f : Nat → Nat) (item : Item) :
    (item.renumber f).ruleSet? = item.ruleSet?.map (RuleSet.renumber f) := by
  obtain ⟨line, statement⟩ := item
  cases statement <;> rfl

theorem kindAt_map (hf : StrictMono f) (marker : Option Nat) (line : Nat) :
    kindAt (marker.map f) (f line) = kindAt marker line := by
  unfold kindAt
  cases marker with
  | none => rfl
  | some first => simp [hf.lt_iff_lt]

theorem Item.group?_renumber (hf : StrictMono f) (marker : Option Nat) (item : Item) :
    (item.renumber f).group? (marker.map f) = (item.group? marker).map (ProxyGroup.renumber f) := by
  obtain ⟨line, statement⟩ := item
  cases statement with
  | group name fields =>
    show some (ProxyGroup.mk _ _ _ (kindAt (marker.map f) (f line))) = _
    rw [kindAt_map hf]
    rfl
  | nodeMarker | ruleSet | unsourced | unnamedRuleSet | unnamedGroup | other => rfl

theorem markerLine_map_renumber (f : Nat → Nat) (xs : List Item) :
    markerLine (xs.map (Item.renumber f)) = (markerLine xs).map f := by
  unfold markerLine
  rw [List.find?_map, Option.map_map, Option.map_map]
  rfl

/-- Numbers that keep the order of the lines keep every group in its section. -/
theorem ofItems_map_renumber (hf : StrictMono f) (xs : List Item) :
    ofItems (xs.map (Item.renumber f)) = (ofItems xs).renumber f := by
  unfold ofItems renumber
  dsimp only
  rw [markerLine_map_renumber, List.filterMap_map, List.filterMap_map, List.map_filterMap,
    List.map_filterMap]
  congr 2
  · exact funext (Item.ruleSet?_renumber f)
  · exact funext (Item.group?_renumber hf _)

theorem exists_line_eq_of_markerLine {n : Nat} (h : markerLine xs = some n) :
    ∃ x ∈ xs, x.line = n := by
  obtain ⟨x, hx, hline⟩ := Option.map_eq_some_iff.mp h
  exact ⟨x, List.mem_of_find?_eq_some hx, hline⟩

theorem markerLine_append (xs ys : List Item) :
    markerLine (xs ++ ys) = (markerLine xs).or (markerLine ys) := by
  unfold markerLine
  rw [List.find?_append, Option.map_or]

theorem kindAt_of_lt {n line : Nat} (h : n < line) : kindAt (some n) line = .node := by
  simp [kindAt, h]

theorem kindAt_of_le {marker : Option Nat} {line : Nat} (h : ∀ n, marker = some n → line ≤ n) :
    kindAt marker line = .selector := by
  unfold kindAt
  cases marker with
  | none => rfl
  | some n => simp [h n rfl]

theorem filterMap_group?_front (h : ∀ x ∈ xs, ∀ y ∈ ys, x.line < y.line) :
    xs.filterMap (Item.group? ((markerLine xs).or (markerLine ys))) =
      xs.filterMap (Item.group? (markerLine xs)) := by
  cases hmarker : markerLine xs with
  | some n => rfl
  | none =>
    apply List.filterMap_congr
    intro x hx
    have hafter : ∀ n, markerLine ys = some n → x.line ≤ n := by
      intro n hn
      obtain ⟨y, hy, rfl⟩ := exists_line_eq_of_markerLine hn
      exact Nat.le_of_lt (h x hx y hy)
    rw [Option.none_or]
    unfold Item.group?
    rw [kindAt_of_le hafter]
    rfl

theorem filterMap_group?_back (h : ∀ x ∈ xs, ∀ y ∈ ys, x.line < y.line) :
    ys.filterMap (Item.group? ((markerLine xs).or (markerLine ys))) =
      if (markerLine xs).isSome then
        (ys.filterMap (Item.group? (markerLine ys))).map ProxyGroup.asNode
      else ys.filterMap (Item.group? (markerLine ys)) := by
  cases hmarker : markerLine xs with
  | none => rfl
  | some n =>
    rw [Option.some_or, Option.isSome_some, if_pos rfl, List.map_filterMap]
    apply List.filterMap_congr
    intro y hy
    obtain ⟨x, hx, rfl⟩ := exists_line_eq_of_markerLine hmarker
    unfold Item.group?
    rw [kindAt_of_lt (h x hx y hy)]
    cases y.statement <;> rfl

theorem ofItems_append (h : ∀ x ∈ xs, ∀ y ∈ ys, x.line < y.line) :
    ofItems (xs ++ ys) = (ofItems xs).append (ofItems ys) := by
  unfold ofItems append
  dsimp only
  rw [markerLine_append, List.filterMap_append, List.filterMap_append, filterMap_group?_front h,
    filterMap_group?_back h]

variable {front rest : String}

theorem items_append (h : Ended front.toList) (rest : String) :
    items (front ++ rest) = items front ++ (items rest).map (Item.renumber (· + feeds front)) := by
  unfold items
  rw [numberedLines_append h, List.map_append, List.map_map, List.map_map]
  rfl

theorem ofText_append (h : Ended front.toList) (rest : String) :
    ofText (front ++ rest) = (ofText front).append ((ofText rest).renumber (· + feeds front)) := by
  have hshift : StrictMono (· + feeds front) := fun m n hmn => Nat.add_lt_add_right hmn _
  unfold ofText
  rw [items_append h, ofItems_append, ofItems_map_renumber hshift]
  intro x hx y hy
  obtain ⟨l, hl, rfl⟩ := List.mem_map.mp hx
  obtain ⟨y', hy', rfl⟩ := List.mem_map.mp hy
  obtain ⟨m, hm, rfl⟩ := List.mem_map.mp hy'
  have hfront := number_le_feeds h hl
  have hback := (number_bounds hm).1
  show l.number < m.number + feeds front
  omega

/-- Whether a line is in the node section is decided by the lines before it. -/
theorem inNodeSection_front (h : Ended front.toList) (rest : String) {l : Line}
    (hl : l ∈ numberedLines front) :
    InNodeSection (front ++ rest) l ↔ InNodeSection front l := by
  unfold InNodeSection
  refine exists_congr fun m => ?_
  rw [mem_numberedLines_front h rest]
  constructor
  · rintro ⟨hm, hmarks, hlt⟩
    exact ⟨⟨hm, Nat.le_trans (Nat.le_of_lt hlt) (number_le_feeds h hl)⟩, hmarks, hlt⟩
  · rintro ⟨⟨hm, -⟩, hmarks, hlt⟩
    exact ⟨hm, hmarks, hlt⟩

theorem ofLine_eq_other_iff {l : Line} : Statement.ofLine l.text = .other ↔ Silent l := by
  have hsays := Statement.says_ofLine l
  generalize Statement.ofLine l.text = statement at hsays
  cases hsays with
  | other hr hg h => exact iff_of_true rfl ⟨h, hr, hg⟩
  | nodeMarker h => exact iff_of_false nofun fun hs => hs.1 h
  | ruleSet h => exact iff_of_false nofun fun hs => hs.2.1 h.key
  | unsourced key | unnamedRuleSet key => exact iff_of_false nofun fun hs => hs.2.1 key
  | group h => exact iff_of_false nofun fun hs => hs.2.2 h.key
  | unnamedGroup key => exact iff_of_false nofun fun hs => hs.2.2 key

instance (l : Line) : Decidable (Silent l) := decidable_of_iff _ ofLine_eq_other_iff

theorem ofItems_filter (xs : List Item) :
    ofItems (xs.filter (·.statement ≠ .other)) = ofItems xs := by
  have hmarker : markerLine (xs.filter (·.statement ≠ .other)) = markerLine xs := by
    unfold markerLine
    rw [List.find?_filter]
    congr 2
    funext item
    by_cases h : item.statement = .nodeMarker <;> simp [h]
  unfold ofItems
  dsimp only
  rw [hmarker, List.filterMap_filter, List.filterMap_filter]
  congr 2
  · funext ⟨line, statement⟩
    cases statement <;> rfl
  · funext ⟨line, statement⟩
    cases statement <;> rfl

variable {place : Nat → Nat} {content longer : String}

theorem Inserted.filter_items (h : Inserted place content longer) :
    (items longer).filter (·.statement ≠ .other) =
      ((items content).filter (·.statement ≠ .other)).map (Item.renumber place) := by
  have : Std.Irrefl fun x y : Item => x.line < y.line := ⟨fun _ => Nat.lt_irrefl _⟩
  have : Std.Antisymm fun x y : Item => x.line < y.line :=
    ⟨fun _ _ hxy hyx => (Nat.lt_asymm hxy hyx).elim⟩
  have hsorted (text : String) : (items text).Pairwise fun x y => x.line < y.line :=
    List.pairwise_map.mpr (numberedLines_pairwise text)
  -- Both are sorted by line, so that it is enough to compare their members.
  apply ((hsorted longer).filter _).eq_of_mem_iff
    (List.pairwise_map.mpr (((hsorted content).imp fun hlt => h.increasing hlt).filter _))
  intro item
  rw [List.mem_filter, List.mem_map, decide_eq_true_eq]
  constructor
  · rintro ⟨hitem, hsaid⟩
    obtain ⟨l, hl, rfl⟩ := List.mem_map.mp hitem
    have hloud : ¬ Silent l := mt ofLine_eq_other_iff.mpr hsaid
    obtain ⟨m, hm, hplace⟩ := (h.others l hl).resolve_right hloud
    obtain rfl : ⟨place m.number, m.text⟩ = l := eq_of_number_eq (h.kept m hm) hl hplace
    exact ⟨_, List.mem_filter.mpr ⟨List.mem_map_of_mem hm, decide_eq_true hsaid⟩, rfl⟩
  · rintro ⟨item', hitem', rfl⟩
    obtain ⟨hitem', hsaid⟩ := List.mem_filter.mp hitem'
    obtain ⟨m, hm, rfl⟩ := List.mem_map.mp hitem'
    exact ⟨List.mem_map_of_mem (h.kept m hm), of_decide_eq_true hsaid⟩

theorem Inserted.ofText_eq (h : Inserted place content longer) :
    ofText longer = (ofText content).renumber place := by
  unfold ofText
  rw [← ofItems_filter (items longer), h.filter_items, ofItems_map_renumber h.increasing,
    ofItems_filter]

/-- Where lines are when so many new ones stand behind the first `n`. -/
def movedFrom (n count line : Nat) : Nat := if line ≤ n then line else line + count

theorem strictMono_movedFrom (n count : Nat) : StrictMono (movedFrom n count) := by
  intro a b hab
  unfold movedFrom
  split_ifs <;> omega

theorem inserted_between {between : String} (h : Ended front.toList)
    (hbetween : Ended between.toList) (hsilent : ∀ l ∈ numberedLines between, Silent l)
    (rest : String) :
    Inserted (movedFrom (feeds front) (feeds between)) (front ++ rest)
      (front ++ (between ++ rest)) := by
  have hfront {l : Line} (hl : l ∈ numberedLines front) :
      movedFrom (feeds front) (feeds between) l.number = l.number := if_pos (number_le_feeds h hl)
  have hback {l : Line} (hl : l ∈ numberedLines rest) :
      movedFrom (feeds front) (feeds between) (l.number + feeds front) = l.number + feeds between +
        feeds front := by
    have hpos := (number_bounds hl).1
    unfold movedFrom
    rw [if_neg (by omega)]
    omega
  refine ⟨strictMono_movedFrom _ _, ?_, ?_⟩
  · rw [numberedLines_append h, numberedLines_append h, numberedLines_append hbetween]
    intro l hl
    rcases List.mem_append.mp hl with hl | hl
    · rw [hfront hl]
      exact List.mem_append_left _ hl
    · obtain ⟨m, hm, rfl⟩ := List.mem_map.mp hl
      apply List.mem_append_right
      rw [List.map_append]
      apply List.mem_append_right
      rw [List.map_map]
      refine List.mem_map.mpr ⟨m, hm, ?_⟩
      show (⟨m.number + feeds between + feeds front, m.text⟩ : Line) = _
      rw [← hback hm]
      rfl
  · rw [numberedLines_append h, numberedLines_append h, numberedLines_append hbetween]
    intro l hl
    rcases List.mem_append.mp hl with hl | hl
    · exact .inl ⟨l, List.mem_append_left _ hl, hfront hl⟩
    · obtain ⟨m, hm, rfl⟩ := List.mem_map.mp hl
      rcases List.mem_append.mp hm with hm | hm
      · exact .inr (hsilent m hm)
      · obtain ⟨m', hm', rfl⟩ := List.mem_map.mp hm
        exact .inl
          ⟨m'.shift (feeds front), List.mem_append_right _ (List.mem_map_of_mem hm'), hback hm'⟩

/-- A text behind another is read as it is read alone, but for its line numbers and for its groups
if nodes are marked before them. Lines that say nothing move those behind them, whether they are put
in at one place or at several. -/
theorem ofText_composes (h : Ended front.toList) (rest : String) :
    ofText (front ++ rest) = (ofText front).append ((ofText rest).renumber (· + feeds front)) ∧
    (∀ between : String, Ended between.toList → (∀ l ∈ numberedLines between, Silent l) →
      ofText (front ++ (between ++ rest)) =
        (ofText (front ++ rest)).renumber fun n => if n ≤ feeds front then n
          else n + feeds between) ∧
    ∀ place content longer, Inserted place content longer →
    ofText longer = (ofText content).renumber place :=
  ⟨ofText_append h rest,
    fun _ hbetween hsilent => (inserted_between h hbetween hsilent rest).ofText_eq, fun _ _ _ =>
      Inserted.ofText_eq⟩

/-- Nodes are marked before the second text; two lines are put in between the texts, or one before
and one behind a text whose last line has no line feed. -/
theorem ofText_composes_marked :
    Ended "; Node\n".toList ∧ Ended "\n# note\n".toList ∧
    (∀ l ∈ numberedLines "\n# note\n", Silent l) ∧
    Inserted (· + 1) "ruleset=C,c.list" "#\nruleset=C,c.list\n#" ∧
      ofText ("; Node\n" ++ "custom_proxy_group=A`[]B\nruleset=C,c.list") =
      ⟨[⟨"C", "c.list", [], 3⟩], [⟨"A", [.reference "B"], 2, .node⟩], some 1⟩ ∧
    ofText ("; Node\n" ++ ("\n# note\n" ++ "custom_proxy_group=A`[]B\nruleset=C,c.list")) =
      ⟨[⟨"C", "c.list", [], 5⟩], [⟨"A", [.reference "B"], 4, .node⟩], some 1⟩ ∧
    ofText "#\nruleset=C,c.list\n#" = ⟨[⟨"C", "c.list", [], 2⟩], [], none⟩ := by
  have hended : Ended "; Node\n".toList := by decide
  have hbetween : Ended "\n# note\n".toList := by decide
  have hsilent : ∀ l ∈ numberedLines "\n# note\n", Silent l := by decide
  have hinserted : Inserted (· + 1) "ruleset=C,c.list" "#\nruleset=C,c.list\n#" :=
    ⟨fun _ _ => Nat.succ_lt_succ, by decide, by decide⟩
  obtain ⟨happend, hbetween', hplaces⟩ :=
    ofText_composes hended "custom_proxy_group=A`[]B\nruleset=C,c.list"
  have hwhole : ofText ("; Node\n" ++ "custom_proxy_group=A`[]B\nruleset=C,c.list") =
      ⟨[⟨"C", "c.list", [], 3⟩], [⟨"A", [.reference "B"], 2, .node⟩], some 1⟩ := by
    rw [happend]
    decide
  refine ⟨hended, hbetween, hsilent, hinserted, hwhole, ?_, ?_⟩
  · rw [hbetween' _ hbetween hsilent, hwhole]
    decide
  · rw [hplaces _ _ _ hinserted]
    decide

end Profile

end RuleLint
