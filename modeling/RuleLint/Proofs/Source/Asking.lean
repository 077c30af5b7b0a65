import Mathlib.Data.List.Basic
import RuleLint.Source.Check

namespace RuleLint

namespace ProbeLog

variable {prober : Prober} {url other : String} {log : ProbeLog} {verdict : Option String}

theorem ask_of_lookup (h : log.entries.lookup url = some verdict) :
    log.ask prober url = (verdict, log) := by
  unfold ask
  rw [h]

theorem ask_of_not_lookup (h : log.entries.lookup url = none) :
    log.ask prober url = (prober log.urls url, ⟨log.entries ++ [(url, prober log.urls url)]⟩) := by
  unfold ask
  rw [h]

theorem lookup_ask_self (prober : Prober) (url : String) (log : ProbeLog) :
    (log.ask prober url).2.entries.lookup url = some (log.ask prober url).1 := by
  cases h : log.entries.lookup url with
  | some verdict =>
    rw [ask_of_lookup h]
    exact h
  | none =>
    rw [ask_of_not_lookup h]
    simp [List.lookup_append, h]

/-- An answer in the log is never replaced. -/
theorem lookup_ask_of_lookup (h : log.entries.lookup other = some verdict) :
    (log.ask prober url).2.entries.lookup other = some verdict := by
  cases hu : log.entries.lookup url with
  | some _ => rwa [ask_of_lookup hu]
  | none =>
    rw [ask_of_not_lookup hu]
    simp [List.lookup_append, h]

theorem lookup_eq_none_iff_not_mem_urls : log.entries.lookup url = none ↔ url ∉ log.urls := by
  constructor
  · intro h hm
    obtain ⟨e, he, rfl⟩ := List.mem_map.mp hm
    simpa using List.lookup_eq_none_iff.mp h e he
  · intro h
    apply List.lookup_eq_none_iff.mpr
    intro e he
    have hne : url ≠ e.1 := fun hu => h (hu ▸ List.mem_map_of_mem he)
    simpa using hne

theorem urls_ask (prober : Prober) (url : String) (log : ProbeLog) :
    (log.ask prober url).2.urls = if url ∈ log.urls then log.urls else log.urls ++ [url] := by
  cases h : log.entries.lookup url with
  | some verdict =>
    have hm : url ∈ log.urls := by
      by_contra hn
      simp [lookup_eq_none_iff_not_mem_urls.mpr hn] at h
    rw [ask_of_lookup h, if_pos hm]
  | none =>
    rw [ask_of_not_lookup h, if_neg (lookup_eq_none_iff_not_mem_urls.mp h)]
    simp [urls]

/-- Why a URL does not answer, as far as the log has it. -/
def verdict? (log : ProbeLog) (url : String) : Option String := (log.entries.lookup url).join

theorem mem_entries_of_verdict? {reason : String} (h : log.verdict? url = some reason) :
    (url, some reason) ∈ log.entries := by
  have hlookup : log.entries.lookup url = some (some reason) := Option.join_eq_some_iff.mp h
  obtain ⟨front, back, hentries, -⟩ := List.lookup_eq_some_iff.mp hlookup
  rw [hentries]
  exact List.mem_append_right front List.mem_cons_self

/-- A later log has all the answers of an earlier one. -/
def Extends (later earlier : ProbeLog) : Prop :=
  ∀ url verdict, earlier.entries.lookup url = some verdict → later.entries.lookup url = some verdict

theorem extends_ask (prober : Prober) (url : String) (log : ProbeLog) :
    (log.ask prober url).2.Extends log :=
  fun _ _ => lookup_ask_of_lookup

/-- All answers in the log are those of one function. -/
def Agrees (answer : String → Option String) (log : ProbeLog) : Prop :=
  ∀ url verdict, log.entries.lookup url = some verdict → verdict = answer url

theorem agrees_empty (answer : String → Option String) : Agrees answer {} := by
  intro url verdict h
  simp at h

theorem ask_of_agrees {answer : String → Option String} (h : log.Agrees answer) (url : String) :
    (log.ask (fun _ => answer) url).1 = answer url := by
  cases hu : log.entries.lookup url with
  | some verdict =>
    rw [ask_of_lookup hu]
    exact h url verdict hu
  | none => rw [ask_of_not_lookup hu]

theorem agrees_ask {answer : String → Option String} (h : log.Agrees answer) (url : String) :
    (log.ask (fun _ => answer) url).2.Agrees answer := by
  intro other verdict ho
  cases hu : log.entries.lookup url with
  | some _ =>
    rw [ask_of_lookup hu] at ho
    exact h other verdict ho
  | none =>
    -- One answer is new in the log, and it is the function's.
    rw [ask_of_not_lookup hu, List.lookup_append, Option.or_eq_some_iff] at ho
    rcases ho with ho | ⟨-, ho⟩
    · exact h other verdict ho
    · simp only [List.lookup_cons, List.lookup_nil] at ho
      split at ho
      · rename_i he
        rw [eq_of_beq he]
        exact (Option.some.inj ho).symm
      · contradiction

end ProbeLog

namespace Source

/-- The URL that is asked for on behalf of a rule-set: that of a remote source, if it is HTTPS. -/
def askedUrl? (r : RuleSet) : Option String :=
  match Source.ofText r.source with
  | .remote url =>
    match Url.ofText url with
    | .ok u => if u.scheme = "https".toList then some url else none
    | .error _ => none
  | .builtin | .file _ => none

namespace Checker

def asks (c : Checker) : Bool := c.policy ≠ .skip && c.prober.isSome

def answering (c : Checker) (answer : String → Option String) : Checker :=
  { c with prober := c.prober.map fun _ _ => answer }

/-- What is said about a rule-set, given the verdict on every URL. -/
def found (c : Checker) (file : String) (r : RuleSet) (verdict : String → Option String) :
    List Diagnostic :=
  match Source.ofText r.source with
  | .builtin => []
  | .file path => c.checkFile file r path
  | .remote url =>
    match Url.ofText url with
    | .error e => [sourceError file r ("malformed URL '" ++ url ++ "': " ++ e.message)]
    | .ok u =>
      if u.scheme = "https".toList then
        ((verdict url).map (c.unreachableDiagnostic file r url)).toList ++
          (if c.trust.trusts u.text then [] else [sourceError file r ("untrusted source " ++ url)])
      else [sourceError file r ("non-HTTPS scheme '" ++ .ofList u.scheme ++ "' in " ++ url)]

variable {c : Checker} {file : String} {r : RuleSet} {rs : List RuleSet} {log : ProbeLog}

theorem unreachable?_of_not_asks (h : c.asks = false) (url : String) (log : ProbeLog) :
    c.unreachable? url log = (none, log) := by
  obtain ⟨tree, root, trust, prober, policy⟩ := c
  cases policy <;> cases prober <;> first | rfl | simp [asks] at h

theorem unreachable?_of_asks (h : c.asks = true) :
    ∃ prober, c.prober = some prober ∧ ∀ url log, c.unreachable? url log = log.ask prober url := by
  obtain ⟨tree, root, trust, prober, policy⟩ := c
  cases policy <;> cases prober <;> simp [asks, unreachable?] at h ⊢

/-- The log matters only for the verdict, and only the URL that is asked for matters for the log. -/
theorem check_eq (c : Checker) (file : String) (r : RuleSet) (log : ProbeLog) :
    c.check file r log =
      (c.found file r fun url => (c.unreachable? url log).1,
        match askedUrl? r with
        | some url => (c.unreachable? url log).2
        | none => log) := by
  unfold check found askedUrl? checkRemote
  cases Source.ofText r.source with
  | builtin => rfl
  | file path => rfl
  | remote url =>
    dsimp only
    cases Url.ofText url with
    | error e => rfl
    | ok u =>
      dsimp only
      split_ifs <;> rfl

theorem found_congr {verdict verdict' : String → Option String}
    (h : ∀ url, askedUrl? r = some url → verdict url = verdict' url) :
    c.found file r verdict = c.found file r verdict' := by
  unfold askedUrl? at h
  unfold found
  cases hs : Source.ofText r.source with
  | builtin => rfl
  | file path => rfl
  | remote url =>
    rw [hs] at h
    dsimp only at h ⊢
    cases hu : Url.ofText url with
    | error e => rfl
    | ok u =>
      rw [hu] at h
      dsimp only at h ⊢
      by_cases hh : u.scheme = "https".toList
      · rw [if_pos hh, if_pos hh, h url (if_pos hh)]
      · rw [if_neg hh, if_neg hh]

theorem extends_unreachable? (c : Checker) (url : String) (log : ProbeLog) :
    (c.unreachable? url log).2.Extends log := by
  cases h : c.asks with
  | false =>
    rw [unreachable?_of_not_asks h]
    exact fun _ _ => id
  | true =>
    obtain ⟨prober, -, hp⟩ := unreachable?_of_asks h
    rw [hp]
    exact ProbeLog.extends_ask prober url log

/-- A URL keeps its verdict once it has been asked for. -/
theorem verdict_of_extends {url : String} {later : ProbeLog}
    (h : later.Extends (c.unreachable? url log).2) :
    (c.unreachable? url later).1 = (c.unreachable? url log).1 := by
  cases ha : c.asks with
  | false => rw [unreachable?_of_not_asks ha, unreachable?_of_not_asks ha]
  | true =>
    obtain ⟨prober, -, hp⟩ := unreachable?_of_asks ha
    rw [hp] at h
    rw [hp, hp, ProbeLog.ask_of_lookup (h url _ (ProbeLog.lookup_ask_self prober url log))]

theorem check_snd_of_askedUrl? (file : String) {url : String} (h : askedUrl? r = some url) :
    (c.check file r log).2 = (c.unreachable? url log).2 := by
  rw [check_eq, h]

theorem check_snd_of_not_asked (h : askedUrl? r = none) : (c.check file r log).2 = log := by
  rw [check_eq, h]

theorem extends_check (c : Checker) (file : String) (r : RuleSet) (log : ProbeLog) :
    (c.check file r log).2.Extends log := by
  cases h : askedUrl? r with
  | none =>
    rw [check_snd_of_not_asked h]
    exact fun _ _ => id
  | some url =>
    rw [check_snd_of_askedUrl? file h]
    exact extends_unreachable? c url log

theorem checkAll_cons (c : Checker) (file : String) (log : ProbeLog) (r : RuleSet)
    (rs : List RuleSet) :
    c.checkAll file log (r :: rs) =
      ((c.check file r log).1 ++ (c.checkAll file (c.check file r log).2 rs).1,
        (c.checkAll file (c.check file r log).2 rs).2) := rfl

theorem checkAll_append_snd (c : Checker) (file : String) (log : ProbeLog)
    (before after : List RuleSet) :
    (c.checkAll file log (before ++ after)).2 =
      (c.checkAll file (c.checkAll file log before).2 after).2 := by
  induction before generalizing log with
  | nil => rfl
  | cons r before ih => exact ih _

theorem extends_checkAll (c : Checker) (file : String) (log : ProbeLog) (rs : List RuleSet) :
    (c.checkAll file log rs).2.Extends log := by
  induction rs generalizing log with
  | nil => exact fun _ _ => id
  | cons r rs ih =>
    exact fun url verdict h => ih _ url verdict (extends_check c file r log url verdict h)

/-- The verdict when a rule-set is checked is the one that the final log has. -/
theorem verdict_of_mem_run {url : String} (before after : List RuleSet)
    (h : askedUrl? r = some url) :
    (c.unreachable? url (c.checkAll file log before).2).1 =
      (c.unreachable? url (c.checkAll file log (before ++ r :: after)).2).1 := by
  refine (verdict_of_extends ?_).symm
  rw [checkAll_append_snd, checkAll_cons, ← check_snd_of_askedUrl? file h]
  exact extends_checkAll c file _ after

/-- A run says of every rule-set what follows from the verdicts in its final log. -/
theorem checkAll_fst (c : Checker) (file : String) (log : ProbeLog) (rs : List RuleSet) :
    (c.checkAll file log rs).1 =
      rs.flatMap fun r => c.found file r fun url =>
        (c.unreachable? url (c.checkAll file log rs).2).1 := by
  induction rs generalizing log with
  | nil => rfl
  | cons r rs ih =>
    -- The verdict on `r` is already that of the final log, since no answer is ever replaced.
    rw [List.flatMap_cons]
    refine congrArg₂ (· ++ ·) ?_ (ih _)
    refine (congrArg Prod.fst (check_eq c file r log)).trans ?_
    exact found_congr fun url h => verdict_of_mem_run [] rs h

theorem asks_answering (c : Checker) (answer : String → Option String) :
    (c.answering answer).asks = c.asks := by
  unfold asks answering
  rw [Option.isSome_map]

def verdictOf (c : Checker) (answer : String → Option String) (url : String) : Option String :=
  if c.asks then answer url else none

theorem unreachable?_answering {answer : String → Option String} (h : log.Agrees answer)
    (url : String) :
    ((c.answering answer).unreachable? url log).1 = c.verdictOf answer url ∧
      ((c.answering answer).unreachable? url log).2.Agrees answer := by
  unfold verdictOf
  rw [← asks_answering c answer]
  cases ha : (c.answering answer).asks with
  | false =>
    rw [unreachable?_of_not_asks ha]
    exact ⟨rfl, h⟩
  | true =>
    obtain ⟨prober, he, hp⟩ := unreachable?_of_asks ha
    have hc : prober = fun _ => answer := by
      obtain ⟨q, -, hq⟩ :=
        Option.map_eq_some_iff.mp (show c.prober.map (fun _ _ => answer) = some prober from he)
      exact hq.symm
    rw [hp, hc]
    exact ⟨ProbeLog.ask_of_agrees h url, ProbeLog.agrees_ask h url⟩

theorem check_answering {answer : String → Option String} (h : log.Agrees answer) (file : String)
    (r : RuleSet) :
    ((c.answering answer).check file r log).1 = c.found file r (c.verdictOf answer) ∧
      ((c.answering answer).check file r log).2.Agrees answer := by
  constructor
  · rw [check_eq]
    exact found_congr fun url _ => (unreachable?_answering h url).1
  · cases hr : askedUrl? r with
    | none =>
      rw [check_snd_of_not_asked hr]
      exact h
    | some url =>
      rw [check_snd_of_askedUrl? file hr]
      exact (unreachable?_answering h url).2

theorem checkAll_answering {answer : String → Option String} (h : log.Agrees answer) (file : String)
    (rs : List RuleSet) :
    ((c.answering answer).checkAll file log rs).1 = rs.flatMap fun r =>
      c.found file r (c.verdictOf answer) := by
  induction rs generalizing log with
  | nil => rfl
  | cons r rs ih =>
    obtain ⟨hd, hl⟩ := check_answering (c := c) h file r
    rw [checkAll_cons, List.flatMap_cons, hd, ih hl]

def noted (seen : List String) (url : String) : List String :=
  if url ∈ seen then seen else seen ++ [url]

theorem foldl_noted (seen urls : List String) :
    urls.foldl noted seen = seen ++ (urls.filter (· ∉ seen)).eraseDups := by
  induction urls generalizing seen with
  | nil => simp
  | cons url urls ih =>
    -- The list that has been seen grows by `url`, which takes `url` out of what is left.
    rw [List.foldl_cons, ih]
    unfold noted
    by_cases h : url ∈ seen
    · simp [h]
    · simp [h, List.eraseDups_cons, List.filter_filter, Bool.beq_eq_decide_eq, Bool.and_comm]

theorem urls_checkAll (c : Checker) (file : String) (log : ProbeLog) (rs : List RuleSet) :
    (c.checkAll file log rs).2.urls = if c.asks then (rs.filterMap askedUrl?).foldl noted log.urls
      else log.urls := by
  induction rs generalizing log with
  | nil => simp [checkAll]
  | cons r rs ih =>
    rw [checkAll_cons, ih]
    cases hr : askedUrl? r with
    | none => rw [check_snd_of_not_asked hr, List.filterMap_cons_none hr]
    | some url =>
      rw [check_snd_of_askedUrl? file hr, List.filterMap_cons_some hr, List.foldl_cons]
      cases ha : c.asks with
      | false => rw [unreachable?_of_not_asks ha]; rfl
      | true =>
        obtain ⟨prober, -, hp⟩ := unreachable?_of_asks ha
        rw [hp, ProbeLog.urls_ask]
        rfl

theorem urls_checkAll_empty (c : Checker) (file : String) (rs : List RuleSet) :
    (c.checkAll file {} rs).2.urls = if c.asks then (rs.filterMap askedUrl?).eraseDups else [] := by
  rw [urls_checkAll]
  show (if c.asks then (rs.filterMap askedUrl?).foldl noted [] else []) = _
  rw [foldl_noted]
  simp

theorem verdict_checkAll_empty {url : String} (hr : r ∈ rs) (hurl : askedUrl? r = some url) :
    (c.unreachable? url (c.checkAll file {} rs).2).1 = (c.checkAll file {} rs).2.verdict? url := by
  have hurls := urls_checkAll_empty c file rs
  unfold ProbeLog.verdict?
  cases ha : c.asks with
  | false =>
    rw [ha] at hurls
    have hlookup : (c.checkAll file {} rs).2.entries.lookup url = none := by
      rw [ProbeLog.lookup_eq_none_iff_not_mem_urls, hurls]
      exact List.not_mem_nil
    rw [unreachable?_of_not_asks ha, hlookup]
    rfl
  | true =>
    rw [ha] at hurls
    have hasked : url ∈ (c.checkAll file {} rs).2.urls := by
      rw [hurls, if_pos rfl, List.mem_eraseDups]
      exact List.mem_filterMap.mpr ⟨r, hr, hurl⟩
    obtain ⟨prober, -, hp⟩ := unreachable?_of_asks ha
    cases hlookup : (c.checkAll file {} rs).2.entries.lookup url with
    | none => exact absurd hasked (ProbeLog.lookup_eq_none_iff_not_mem_urls.mp hlookup)
    | some verdict =>
      rw [hp, ProbeLog.ask_of_lookup hlookup]
      rfl

/-- The log of a run cannot be noticed. If the answers are a function of the URL, a run says what
new checkers say about each rule-set. Every HTTPS URL is asked for once, when it first comes up, and
none if nobody is asked. Whatever the answers are, there is one verdict for each URL, which all
rule-sets with this URL get. -/
theorem checkAll_empty (c : Checker) (file : String) (rs : List RuleSet) :
    (∀ answer, ((c.answering answer).checkAll file {} rs).1 =
      rs.flatMap fun r => ((c.answering answer).check file r {}).1) ∧
    (c.checkAll file {} rs).2.urls = (if c.asks then (rs.filterMap askedUrl?).eraseDups else []) ∧
    ∃ verdict : String → Option String,
      (∀ before r after url, rs = before ++ r :: after → askedUrl? r = some url →
        (c.unreachable? url (c.checkAll file {} before).2).1 = verdict url) ∧
      (c.checkAll file {} rs).1 = rs.flatMap fun r =>
        ((c.answering verdict).check file r {}).1 := by
  have fresh (answer : String → Option String) (r : RuleSet) :
      ((c.answering answer).check file r {}).1 = c.found file r (c.verdictOf answer) :=
    (check_answering (ProbeLog.agrees_empty answer) file r).1
  refine ⟨fun answer => ?_, urls_checkAll_empty c file rs, ?_⟩
  · simp only [fresh]
    exact checkAll_answering (ProbeLog.agrees_empty answer) file rs
  · -- The answers in the final log make up the function.
    refine ⟨fun url => (c.unreachable? url (c.checkAll file {} rs).2).1, ?_, ?_⟩
    · rintro before r after url rfl h
      exact verdict_of_mem_run before after h
    · simp only [fresh]
      rw [checkAll_fst]
      congr 2
      funext r
      apply found_congr
      intro url _
      unfold verdictOf
      cases ha : c.asks with
      | false => rw [unreachable?_of_not_asks ha]; rfl
      | true => rfl

end Checker

end Source

end RuleLint
