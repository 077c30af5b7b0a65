import RuleLint.Proofs.FileTree.WellFormed

namespace RuleLint.FileTree

open Text RuleLint.Path

/-- Where one is after a segment, with the links that may still be followed, and the segments to be
followed from there before all others. -/
abbrev Turn := Nat × List String × List (List Char)

def enter (links : Nat) (here : List String) (name : String) : Option Node → Except IoError Turn
  | none => .error .notFound
  | some (.link target) =>
    if 0 < links then
      if target = "" then .error .notFound
      else .ok
        (links - 1, if target.toList.head? = some '/' then [] else here, fields '/' target.toList)
    else .error .tooManyLinks
  | some _ => .ok (links, here ++ [name], [])

def step (top : Node) (links : Nat) (here : List String) (s : List Char) : Except IoError Turn :=
  if (top.at? here).map Node.kind = some .directory then
    if s = [] ∨ s = ['.'] then .ok (links, here, [])
    else if s = ['.', '.'] then .ok (links, here.dropLast, [])
    else if 255 < (String.ofList s).utf8ByteSize then .error .nameTooLong
    else enter links here (.ofList s) (top.at? (here ++ [.ofList s]))
  else .error .notDirectory

variable {top n : Node} {links left : Nat} {here there names : List String} {name : String}
variable {s : List Char} {rest segments front : List (List Char)}

theorem follow_nil (top : Node) (links : Nat) (here : List String) :
    follow top links here [] = .ok here := by
  rw [follow]

theorem follow_cons (top : Node) (links : Nat) (here : List String) (s : List Char)
    (rest : List (List Char)) :
    follow top links here (s :: rest) =
      match step top links here s with
      | .ok (left, there, front) => follow top left there (front ++ rest)
      | .error e => .error e := by
  rw [follow]
  unfold step
  cases hat : top.at? here with
  | none => rfl
  | some n =>
    cases n with
    | file | link => rfl
    | directory entries =>
      have hentry : top.at? (here ++ [.ofList s]) = entries.lookup (.ofList s) := by
        rw [Node.at?_append, hat]
        exact Option.bind_fun_some _
      simp only [Option.map_some, Node.kind, if_true, hentry]
      by_cases hblank : s = [] ∨ s = ['.']
      · simp [hblank]
      by_cases hup : s = ['.', '.']
      · simp [hup]
      by_cases hlong : 255 < (String.ofList s).utf8ByteSize
      · simp [hblank, hup, hlong]
      simp only [if_neg hblank, if_neg hup, if_neg hlong]
      cases entries.lookup (.ofList s) with
      | none => rfl
      | some n =>
        cases n with
        | file | directory => rfl
        | link target =>
          unfold enter
          dsimp only
          split_ifs <;> rfl

theorem left_of_enter {entry : Option Node}
    (h : enter links here name entry = .ok (left, there, front)) :
    left < links ∨ left = links ∧ front = [] := by
  unfold enter at h
  split at h
  · contradiction
  · split_ifs at h with hlinks
    all_goals
      cases h
      exact .inl (Nat.sub_one_lt_of_lt hlinks)
  · cases h
    exact .inr ⟨rfl, rfl⟩

theorem left_of_step (h : step top links here s = .ok (left, there, front)) :
    left < links ∨ left = links ∧ front = [] := by
  unfold step at h
  split_ifs at h
  · cases h
    exact .inr ⟨rfl, rfl⟩
  · cases h
    exact .inr ⟨rfl, rfl⟩
  · exact left_of_enter h

/-- What holds at the end of every path, and of a path if it holds of what is left after a step,
holds of all paths. -/
theorem follow_induction (top : Node) {motive : Nat → List String → List (List Char) → Prop}
    (nil : ∀ links here, motive links here [])
    (cons : ∀ links here s rest,
      (∀ left there front, step top links here s = .ok (left, there, front) →
          motive left there (front ++ rest)) →
        motive links here (s :: rest))
    (links : Nat) (here : List String) (segments : List (List Char)) :
      motive links here segments := by
  induction links using Nat.strongRecOn generalizing here segments with
  | _ links fewer =>
    induction segments generalizing here with
    | nil => exact nil links here
    | cons s rest shorter =>
      apply cons
      intro left there front h
      rcases left_of_step h with hlt | ⟨rfl, rfl⟩
      · exact fewer left hlt there _
      · exact shorter there

theorem step_blank (hs : s = [] ∨ s = ['.'])
    (hhere : (top.at? here).map Node.kind = some .directory) :
    step top links here s = .ok (links, here, []) := by
  unfold step
  rw [if_pos hhere, if_pos hs]

theorem kind_of_step (h : step top links here s = .ok (left, there, front)) :
    (top.at? here).map Node.kind = some .directory := by
  unfold step at h
  split_ifs at h <;> assumption

/-- A name leads to the entry that has it, unless this is a link. -/
theorem step_name (hname : ValidName name) (hshort : name.utf8ByteSize ≤ 255)
    (hhere : (top.at? here).map Node.kind = some .directory)
    (hentry : top.at? (here ++ [name]) = some n) (hlink : n.kind ≠ .link) :
    step top links here name.toList = .ok (links, here ++ [name], []) := by
  have hblank : ¬ (name.toList = [] ∨ name.toList = ['.']) :=
    fun h => h.elim hname.toList_ne_nil hname.toList_ne_here
  have hup : name.toList ≠ ['.', '.'] := fun h => hname.ne_up (String.toList_injective h)
  unfold step
  rw [if_pos hhere, if_neg hblank, if_neg hup, String.ofList_toList,
    if_neg (Nat.not_lt_of_le hshort), hentry]
  cases n with
  | link => exact (hlink rfl).elim
  | file | directory => rfl

/-- Segments lead from one place to another, and some of the links that may be followed are used up
on the way. -/
inductive Leads (top : Node) : Nat → List String → List (List Char) → Nat → List String → Prop
  | nil (links : Nat) (here : List String) : Leads top links here [] links here
  | cons {links mid left : Nat} {here next there : List String} {s : List Char}
      {front rest : List (List Char)}
      (first : step top links here s = .ok (mid, next, front))
      (further : Leads top mid next (front ++ rest) left there) :
      Leads top links here (s :: rest) left there

theorem follow_eq_ok_iff :
    follow top links here segments = .ok there ↔
      ∃ left, Leads top links here segments left there := by
  induction links, here, segments using follow_induction top with
  | nil links here =>
    rw [follow_nil]
    constructor
    · rintro ⟨⟩
      exact ⟨links, .nil links _⟩
    · rintro ⟨left, ⟨⟩⟩
      rfl
  | cons links here s rest ih =>
    rw [follow_cons]
    cases hstep : step top links here s with
    | error e =>
      refine iff_of_false nofun ?_
      rintro ⟨left, h⟩
      cases h with
      | cons first further => exact nomatch hstep.symm.trans first
    | ok turn =>
      obtain ⟨mid, next, front⟩ := turn
      refine (ih mid next front hstep).trans (exists_congr fun left => ?_)
      constructor
      · exact Leads.cons hstep
      · intro h
        cases h with
        | cons first further =>
          cases hstep.symm.trans first
          exact further

theorem follow_of_step_error {e : IoError} (h : Leads top links here front left there)
    (hstep : step top left there s = .error e) :
    follow top links here (front ++ s :: rest) = .error e := by
  induction h with
  | nil => rw [List.nil_append, follow_cons, hstep]
  | cons first _ ih =>
    rw [List.cons_append, follow_cons, first]
    simp only [← List.append_assoc]
    exact ih hstep

theorem leads_append_iff {back : List (List Char)} :
    Leads top links here (segments ++ back) left there ↔
      ∃ mid next, Leads top links here segments mid next ∧ Leads top mid next back left there := by
  constructor
  · intro h
    generalize hall : segments ++ back = all at h
    induction h generalizing segments with
    | nil links here =>
      obtain ⟨rfl, rfl⟩ := List.append_eq_nil_iff.mp hall
      exact ⟨links, here, .nil links here, .nil links here⟩
    | @cons links mid left here next there s front rest first further ih =>
      cases segments with
      | nil =>
        subst hall
        exact ⟨links, here, .nil links here, .cons first further⟩
      | cons s' segments =>
        obtain ⟨rfl, rfl⟩ := List.cons.inj hall
        obtain ⟨mid, next, hfront, hback⟩ := ih (List.append_assoc front segments back)
        exact ⟨mid, next, .cons first hfront, hback⟩
  · rintro ⟨mid, next, hfront, hback⟩
    induction hfront with
    | nil => exact hback
    | cons first _ ih =>
      have hall := ih hback
      rw [List.append_assoc] at hall
      exact .cons first hall

theorem leads_blank_cons_iff :
    Leads top links here ([] :: s :: rest) left there ↔
      Leads top links here (s :: rest) left there := by
  constructor
  · intro h
    cases h with
    | cons first further =>
      cases (step_blank (.inl rfl) (kind_of_step first)).symm.trans first
      exact further
  · intro h
    have hhere : (top.at? here).map Node.kind = some .directory := by
      cases h with
      | cons first _ => exact kind_of_step first
    exact .cons (step_blank (.inl rfl) hhere) h

theorem leads_blanks (hs : s = [] ∨ s = ['.'])
    (hhere : (top.at? here).map Node.kind = some .directory) (count : Nat) :
    Leads top links here (List.replicate count s) links here := by
  induction count with
  | zero => exact .nil links here
  | succ count ih => exact .cons (step_blank hs hhere) ih

/-- Names of nodes lead to these nodes, whatever is followed before. -/
theorem leads_names (hvalid : ∀ name ∈ names, ValidName name ∧ name.utf8ByteSize ≤ 255)
    (hnames : top.at? (here ++ names) = some n) (hlink : n.kind ≠ .link) :
    Leads top links here (names.map String.toList) links (here ++ names) := by
  induction names generalizing here with
  | nil =>
    rw [List.append_nil]
    exact .nil links here
  | cons name names ih =>
    obtain ⟨⟨hname, hshort⟩, hrest⟩ := List.forall_mem_cons.mp hvalid
    rw [List.append_cons] at hnames ⊢
    obtain ⟨m, hm, hbelow⟩ := Option.bind_eq_some_iff.mp ((Node.at?_append _ _ _).symm.trans hnames)
    obtain ⟨d, hd, hentry⟩ := Option.bind_eq_some_iff.mp ((Node.at?_append _ _ _).symm.trans hm)
    have hhere : (top.at? here).map Node.kind = some .directory := by
      rw [hd]
      exact congrArg some (Node.kind_of_at?_ne_nil hentry (List.cons_ne_nil _ _))
    have hmlink : m.kind ≠ .link := by
      by_cases hnil : names = []
      · subst hnil
        obtain rfl := Option.some.inj hbelow
        exact hlink
      · rw [Node.kind_of_at?_ne_nil hbelow hnil]
        exact nofun
    exact .cons (step_name hname hshort hhere hm hmlink) (ih hrest hnames)

variable {tree : FileTree} {p base : Path}

def startOf (tree : FileTree) (p : Path) : List String := if p.isAbsolute then [] else tree.cwd

theorem locate_eq_ok_iff :
    tree.locate p = .ok there ↔ p.text ≠ "" ∧ '\x00' ∉ p.text.toList ∧ p.isTooLong = false ∧
      ∃ left, Leads tree.top maxLinks (tree.startOf p) (fields '/' p.text.toList) left there := by
  rw [← follow_eq_ok_iff]
  unfold locate startOf
  by_cases hempty : p.text = ""
  · simp [hempty]
  by_cases hzero : '\x00' ∈ p.text.toList
  · simp [hempty, hzero]
  cases hlong : p.isTooLong with
  | true => simp [hempty, hzero]
  | false => simp [hempty, hzero]

theorem isAbsolute_join {q : Path} (hbase : base.text ≠ "") (hq : q.isAbsolute = false) :
    (base.join q).isAbsolute = base.isAbsolute := by
  have hne : base.text.toList ≠ [] := fun h => hbase (String.toList_injective h)
  obtain ⟨c, cs, hcs⟩ := List.exists_cons_of_ne_nil hne
  unfold join
  rw [if_neg (by simp [hq])]
  split
  · rename_i hb
    exact (hne (List.getLast?_eq_none_iff.mp hb)).elim
  · simp [isAbsolute, hcs]
  · simp [isAbsolute, hcs]

/-- Following a joined path comes to following one part after the other. -/
theorem leads_join_iff {q : Path} (hbase : base.text ≠ "") (hq : q.isAbsolute = false) :
    Leads top links here (fields '/' (base.join q).text.toList) left there ↔
      Leads top links here (fields '/' base.text.toList ++ fields '/' q.text.toList) left
        there := by
  unfold join
  rw [if_neg (by simp [hq])]
  split
  · rename_i hb
    exact (hbase (String.toList_injective (List.getLast?_eq_none_iff.mp hb))).elim
  · -- The empty segment at the end of the base is the one that makes no difference.
    rename_i hb
    obtain ⟨front, hfront⟩ := List.getLast?_eq_some_iff.mp hb
    obtain ⟨f, fs, hf⟩ := List.exists_cons_of_ne_nil (fields_ne_nil '/' q.text.toList)
    have hjoined : (base.text ++ q.text).toList = front ++ '/' :: q.text.toList := by
      rw [String.toList_append, hfront, List.append_assoc]
      rfl
    have hends : fields '/' base.text.toList = fields '/' front ++ [[]] := by
      rw [hfront]
      exact fields_append_cons '/' front []
    rw [hjoined, fields_append_cons, hends, List.append_assoc, hf, leads_append_iff,
      leads_append_iff]
    exact exists_congr fun mid => exists_congr fun next =>
      and_congr_right' leads_blank_cons_iff.symm
  · have hjoined :
        (base.text ++ "/" ++ q.text).toList = base.text.toList ++ '/' :: q.text.toList := by
      rw [String.toList_append, String.toList_append, List.append_assoc]
      rfl
    rw [hjoined, fields_append_cons]

theorem join_ne_empty {name : String} (hname : ValidName name) (base : Path) :
    (base.join ⟨name⟩).text ≠ "" := by
  intro h
  have hcomponents := components_join hname base
  rw [components_eq_nil h] at hcomponents
  exact List.append_ne_nil_of_right_ne_nil _ (List.cons_ne_nil _ _) hcomponents.symm

theorem joinNames_ne_empty (hbase : base.text ≠ "") (hvalid : ∀ name ∈ names, ValidName name) :
    (joinNames base names).text ≠ "" := by
  induction names generalizing base with
  | nil => exact hbase
  | cons name names ih =>
    obtain ⟨hname, hrest⟩ := List.forall_mem_cons.mp hvalid
    exact ih (join_ne_empty hname base) hrest

theorem leads_joinNames (hbase : base.text ≠ "") (hvalid : ∀ name ∈ names, ValidName name)
    (h : Leads top links here (fields '/' base.text.toList ++ names.map String.toList) left there) :
    Leads top links here (fields '/' (joinNames base names).text.toList) left there := by
  induction names generalizing base with
  | nil => rwa [List.map_nil, List.append_nil] at h
  | cons name names ih =>
    obtain ⟨hname, hrest⟩ := List.forall_mem_cons.mp hvalid
    rw [List.map_cons, List.append_cons] at h
    obtain ⟨mid, next, hfront, hback⟩ := leads_append_iff.mp h
    rw [← hname.fields] at hfront
    have hjoined := (leads_join_iff (q := ⟨name⟩) hbase hname.not_isAbsolute).mpr hfront
    exact ih (join_ne_empty hname base) hrest (leads_append_iff.mpr ⟨mid, next, hjoined, hback⟩)

theorem isAbsolute_joinNames (hbase : base.text ≠ "") (hvalid : ∀ name ∈ names, ValidName name) :
    (joinNames base names).isAbsolute = base.isAbsolute := by
  induction names generalizing base with
  | nil => rfl
  | cons name names ih =>
    obtain ⟨hname, hrest⟩ := List.forall_mem_cons.mp hvalid
    exact (ih (join_ne_empty hname base) hrest).trans (isAbsolute_join hbase hname.not_isAbsolute)

theorem mem_text_join {q : Path} {c : Char} (h : c ∈ (base.join q).text.toList) :
    c ∈ base.text.toList ∨ c = '/' ∨ c ∈ q.text.toList := by
  unfold join at h
  split_ifs at h
  · exact .inr (.inr h)
  · split at h
    · exact .inr (.inr h)
    · rw [String.toList_append, List.mem_append] at h
      exact h.imp_right .inr
    · rw [String.toList_append, String.toList_append, List.mem_append, List.mem_append,
        or_assoc] at h
      exact h.imp_right (Or.imp_left List.mem_singleton.mp)

theorem mem_text_joinNames {c : Char} (h : c ∈ (joinNames base names).text.toList) :
    c ∈ base.text.toList ∨ c = '/' ∨ ∃ name ∈ names, c ∈ name.toList := by
  induction names generalizing base with
  | nil => exact .inl h
  | cons name names ih =>
    rcases ih h with hjoin | hslash | ⟨other, hother, hc⟩
    · refine (mem_text_join hjoin).imp_right (Or.imp_right fun hc => ?_)
      exact ⟨name, List.mem_cons_self, hc⟩
    · exact .inr (.inl hslash)
    · exact .inr (.inr ⟨other, List.mem_cons_of_mem _ hother, hc⟩)

/-- A name that the system can hold and follow. -/
structure StorableName (name : String) : Prop where
  short : name.utf8ByteSize ≤ 255
  no_zero : '\x00' ∉ name.toList

theorem zero_notMem_joinNames (hzero : '\x00' ∉ base.text.toList)
    (hstorable : ∀ name ∈ names, StorableName name) :
    '\x00' ∉ (joinNames base names).text.toList := by
  intro hc
  rcases mem_text_joinNames hc with hc | hc | ⟨name, hname, hc⟩
  · exact hzero hc
  · exact absurd hc (by decide)
  · exact (hstorable name hname).no_zero hc

def Storable (tree : FileTree) : Prop :=
  ∀ names n, tree.top.at? names = some n → ∀ name ∈ names, StorableName name

/-- Names that lead from one place to another without a link lead there by path as well, unless it
gets too long. -/
theorem locate_joinNames (hbase : tree.locate base = .ok here)
    (hvalid : ∀ name ∈ names, ValidName name) (hstorable : ∀ name ∈ names, StorableName name)
    (hnames : tree.top.at? (here ++ names) = some n) (hlink : n.kind ≠ .link)
    (hlong : (joinNames base names).isTooLong = false) :
    tree.locate (joinNames base names) = .ok (here ++ names) := by
  obtain ⟨hempty, hzero, -, left, hleads⟩ := locate_eq_ok_iff.mp hbase
  rw [locate_eq_ok_iff]
  refine ⟨joinNames_ne_empty hempty hvalid, zero_notMem_joinNames hzero hstorable, hlong, left, ?_⟩
  have hstart : tree.startOf (joinNames base names) = tree.startOf base := by
    unfold startOf
    rw [isAbsolute_joinNames hempty hvalid]
  rw [hstart]
  apply leads_joinNames hempty hvalid
  have hshort : ∀ name ∈ names, ValidName name ∧ name.utf8ByteSize ≤ 255 :=
    fun name hname => ⟨hvalid name hname, (hstorable name hname).short⟩
  exact leads_append_iff.mpr ⟨left, here, hleads, leads_names hshort hnames hlink⟩

theorem node?_of_locate (h : tree.locate p = .ok names) : tree.node? p = tree.top.at? names := by
  unfold node?
  rw [h]

theorem locate_of_node? (h : tree.node? p = some n) :
    ∃ names, tree.locate p = .ok names ∧ tree.top.at? names = some n := by
  unfold node? at h
  split at h
  · rename_i names hl
    exact ⟨names, hl, h⟩
  · contradiction

theorem isFile_iff : tree.isFile p = true ↔ ∃ content, tree.node? p = some (.file content) := by
  unfold isFile
  split
  · rename_i content h
    exact iff_of_true rfl ⟨content, h⟩
  · rename_i h
    exact iff_of_false nofun fun ⟨content, hc⟩ => h content hc

theorem isFile_of_step_error {e : IoError} (hfields : fields '/' p.text.toList = front ++ s :: rest)
    (h : Leads tree.top maxLinks (tree.startOf p) front left there)
    (hstep : step tree.top left there s = .error e) :
    tree.isFile p = false := by
  refine eq_false_of_ne_true fun hfile => ?_
  obtain ⟨_, hnode⟩ := isFile_iff.mp hfile
  obtain ⟨_, hlocate, -⟩ := locate_of_node? hnode
  obtain ⟨-, -, -, hleads⟩ := locate_eq_ok_iff.mp hlocate
  rw [hfields, ← follow_eq_ok_iff, follow_of_step_error h hstep] at hleads
  contradiction

theorem isDirectory_iff :
    tree.isDirectory p = true ↔ ∃ n, tree.node? p = some n ∧ n.kind = .directory := by
  unfold isDirectory
  split
  · rename_i entries h
    exact iff_of_true rfl ⟨_, h, rfl⟩
  · rename_i h
    refine iff_of_false Bool.false_ne_true ?_
    rintro ⟨n, hn, hkind⟩
    cases n with
    | file | link => contradiction
    | directory entries => exact h entries hn

/-- Why a file cannot be read that is there. -/
inductive Unreadable (tree : FileTree) (p : Path) : IoError → Prop
  | tooLong (h : p.isTooLong = true) : Unreadable tree p .nameTooLong
  | notText {content : ByteArray} (h : tree.node? p = some (.file content))
      (hc : ¬ content.IsValidUTF8) :
      Unreadable tree p .notText

theorem locate_of_isTooLong (hempty : p.text ≠ "") (hzero : '\x00' ∉ p.text.toList)
    (hlong : p.isTooLong = true) :
    tree.locate p = .error .nameTooLong := by
  unfold locate
  rw [if_neg hempty, if_neg hzero, if_pos hlong]

theorem isTooLong_of_node? (h : tree.node? p = some n) : p.isTooLong = false := by
  obtain ⟨_, hlocate, -⟩ := locate_of_node? h
  exact (locate_eq_ok_iff.mp hlocate).2.2.1

theorem readText_of_file {content : ByteArray} (h : tree.node? p = some (.file content)) :
    tree.readText p =
      match String.fromUTF8? content with
      | some s => .ok s
      | none => .error .notText := by
  obtain ⟨names, hlocate, hat⟩ := locate_of_node? h
  unfold readText
  simp only [hlocate, bind, Except.bind, hat]
  cases String.fromUTF8? content <;> rfl

theorem readText_of_node? {s : String} (h : tree.node? p = some (.file s.toUTF8)) :
    tree.readText p = .ok s := by
  have hdecode : String.fromUTF8? s.toUTF8 = some s := dif_pos s.isValidUTF8
  rw [readText_of_file h, hdecode]

theorem unreadable_iff_of_file {content : ByteArray} (h : tree.node? p = some (.file content))
    {e : IoError} :
    tree.Unreadable p e ↔ ¬ content.IsValidUTF8 ∧ e = .notText := by
  constructor
  · intro hbad
    cases hbad with
    | tooLong hlong => exact Bool.noConfusion ((isTooLong_of_node? h).symm.trans hlong)
    | notText h' hc =>
      cases h.symm.trans h'
      exact ⟨hc, rfl⟩
  · rintro ⟨hc, rfl⟩
    exact .notText h hc

theorem unreadable_iff_of_isTooLong (hlong : p.isTooLong = true) {e : IoError} :
    tree.Unreadable p e ↔ e = .nameTooLong := by
  constructor
  · intro hbad
    cases hbad with
    | tooLong => rfl
    | notText h => exact Bool.noConfusion ((isTooLong_of_node? h).symm.trans hlong)
  · rintro rfl
    exact .tooLong hlong

theorem isFile_of_isTooLong (hlong : p.isTooLong = true) : tree.isFile p = false := by
  cases hfile : tree.isFile p with
  | false => rfl
  | true =>
    obtain ⟨content, hnode⟩ := isFile_iff.mp hfile
    exact Bool.noConfusion ((isTooLong_of_node? hnode).symm.trans hlong)

/-- Bytes that are no text are the only thing that can be wrong with a file that a path leads to. -/
theorem readText_eq_error_iff_of_file {content : ByteArray}
    (h : tree.node? p = some (.file content)) {e : IoError} :
    tree.readText p = .error e ↔ tree.Unreadable p e := by
  rw [unreadable_iff_of_file h, readText_of_file h]
  by_cases hc : content.IsValidUTF8 <;> simp [String.fromUTF8?, hc, eq_comm]

theorem readText_eq_error_iff_of_isTooLong (hempty : p.text ≠ "") (hzero : '\x00' ∉ p.text.toList)
    (hlong : p.isTooLong = true) {e : IoError} : tree.readText p = .error e ↔
      tree.Unreadable p e := by
  have hread : tree.readText p = .error .nameTooLong := by
    unfold readText
    rw [locate_of_isTooLong hempty hzero hlong]
    rfl
  rw [unreadable_iff_of_isTooLong hlong, hread, Except.error.injEq, eq_comm]

end RuleLint.FileTree
