import RuleLint.Proofs.Profile.Accounts
import RuleLint.Proofs.Profile.Errors
import RuleLint.Proofs.Text.Utf8Order

namespace RuleLint

open Text

namespace LineIndex

variable {places places' : List (String × Nat)} {found : List (String × List Nat)}

/-- The list holds the texts of two or more places, in the order of UTF-8, and with each of them as
many lines as it has places: those of its places, in order. -/
structure ListsShared (places : List (String × Nat)) (found : List (String × List Nat)) : Prop where
  listed : ∀ text, text ∈ found.map Prod.fst ↔ 2 ≤ (places.map Prod.fst).count text
  ascending : found.Pairwise fun a b => utf8 a.1 < utf8 b.1
  count : ∀ use ∈ found, use.2.length = (places.map Prod.fst).count use.1
  lines : ∀ use ∈ found, ∀ line, line ∈ use.2 ↔ (use.1, line) ∈ places
  lines_ascending : ∀ use ∈ found, use.2.Pairwise (· < ·)

theorem mem_map_fst_repeated {text : String} :
    text ∈ (ofList places).repeated.map Prod.fst ↔ 2 ≤ (places.map Prod.fst).count text := by
  rw [← length_linesIn]
  simp [mem_repeated_ofList]

/-- If the places are in the order of their lines, the index lists what is shared. -/
theorem listsShared_repeated (h : places.Pairwise (·.2 < ·.2)) :
    ListsShared places (ofList places).repeated where
  listed _ := mem_map_fst_repeated
  ascending := (repeated_pairwise _).imp compare_eq_lt_iff.mp
  count use huse := by
    rw [(mem_repeated_ofList.mp huse).1, length_linesIn]
  lines use huse line := by
    rw [(mem_repeated_ofList.mp huse).1, mem_linesIn]
  lines_ascending use huse := by
    rw [(mem_repeated_ofList.mp huse).1]
    exact linesIn_pairwise h use.1

theorem ListsShared.perm (h : ListsShared places found) (hp : places.Perm places') :
    ListsShared places' found where
  listed text := by rw [h.listed, (hp.map Prod.fst).count_eq]
  ascending := h.ascending
  count use huse := by rw [h.count use huse, (hp.map Prod.fst).count_eq]
  lines use huse line := by rw [h.lines use huse, hp.mem_iff]
  lines_ascending := h.lines_ascending

end LineIndex

namespace Profile

open LineIndex

def sharedName (file name : String) (lines : List Nat) : Diagnostic :=
  ⟨.info, none, "rule-set name '" ++ name ++ "' is used by " ++ toString lines.length ++
    " ruleset lines (" ++ ", ".intercalate (lines.map toString) ++ ")", some ⟨file, none⟩⟩

def repeatedGroup (file name : String) (lines : List Nat) : Diagnostic :=
  ⟨.error, some .duplicate, "proxy group '" ++ name ++ "' is defined " ++ toString lines.length ++
    " times (lines " ++ ", ".intercalate (lines.map toString) ++ ")", some ⟨file, none⟩⟩

theorem checkNames_eq_map (file : String) (p : Profile) :
    p.checkNames file = p.ruleSetLines.repeated.map (fun use => sharedName file use.1 use.2) ++
      p.groupLines.repeated.map (fun use => repeatedGroup file use.1 use.2) := rfl

theorem selectors_append_nodes_perm (p : Profile) : (p.selectors ++ p.nodes).Perm p.groups := by
  have hnodes : p.nodes = p.groups.filter fun g => ! decide (g.kind = .selector) := by
    unfold nodes
    congr 1
    funext g
    cases g.kind <;> rfl
  rw [hnodes]
  exact List.filter_append_perm _ p.groups

/-- Which lines use which rule-set names. -/
def namesOfRuleSets (p : Profile) : List (String × Nat) := p.ruleSets.map fun r => (r.name, r.line)

/-- Which lines give which names to groups, those of the selectors before those of the nodes. -/
def namesOfGroups (p : Profile) : List (String × Nat) :=
  (p.selectors ++ p.nodes).map fun g => (g.name, g.line)

/-- A rule-set name that at least two rule-sets use is noted, and a name that at least two groups
have, in one section or in both, is an error. Of each kind there is one for every such name, by
name, with all lines where it is used. -/
theorem checkNames_ofText (file content : String) :
    ∃ shared repeated : List (String × List Nat),
      ListsShared (ofText content).namesOfRuleSets shared ∧
      ListsShared (ofText content).namesOfGroups repeated ∧
        (ofText content).checkNames file = shared.map (fun use => sharedName file use.1 use.2) ++
          repeated.map (fun use => repeatedGroup file use.1 use.2) ∧
      (ErrorFree ((ofText content).checkNames file) ↔
        ((ofText content).namesOfGroups.map Prod.fst).Nodup) := by
  let p := ofText content
  have hgroups : (p.groups.map fun g => (g.name, g.line)).Perm p.namesOfGroups :=
    (selectors_append_nodes_perm p).symm.map _
  have hruleSets : ListsShared p.namesOfRuleSets p.ruleSetLines.repeated :=
    listsShared_repeated (List.pairwise_map.mpr (ruleSets_pairwise content))
  have hnames : ListsShared (p.groups.map fun g => (g.name, g.line)) p.groupLines.repeated :=
    listsShared_repeated (List.pairwise_map.mpr (groups_pairwise content))
  refine ⟨_, _, hruleSets, hnames.perm hgroups, checkNames_eq_map file p, ?_⟩
  have hnodup := (hgroups.map Prod.fst).nodup_iff
  rw [List.map_map] at hnodup
  exact errorFree_checkNames.trans hnodup

/-- Rule-set names come in order, whichever is used first; the two groups are in different
sections. -/
example :
    (ofText ("ruleset=B,x\ncustom_proxy_group=P\nruleset=A,x\n;Node\ncustom_proxy_group=P\n" ++
        "ruleset=B,y\nruleset=A,y")).checkNames "c.ini" =
      [sharedName "c.ini" "A" [3, 7], sharedName "c.ini" "B" [1, 6],
        repeatedGroup "c.ini" "P" [2, 5]] := by
  decide

end Profile

end RuleLint
