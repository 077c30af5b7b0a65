import Mathlib.Data.Bool.AllAny
import RuleLint.Proofs.Url.Scheme

namespace RuleLint.Url

open Text

variable {escaped scheme s name : List Char} {u : Url} {c : Char}

theorem notMem_escapeByte (h : c ∈ userEscapes) (b : UInt8) : c ∉ escapeByte b := by
  have hpercent : '%' ∉ userEscapes := by decide
  have hdigit : ∀ n < 16, upperHexDigit n ∉ userEscapes := by decide
  have hb : b.toNat < 256 := UInt8.toNat_lt b
  intro hmem
  simp only [escapeByte, List.mem_cons, List.not_mem_nil, or_false] at hmem
  rcases hmem with rfl | rfl | rfl
  · exact hpercent h
  · exact hdigit _ (by omega) h
  · exact hdigit _ (by omega) h

theorem notMem_percentEncode (h : c ∈ escaped) (huser : c ∈ userEscapes) (a : Char) :
    c ∉ percentEncode escaped a := by
  unfold percentEncode
  split_ifs with ha
  · intro hmem
    obtain ⟨b, -, hb⟩ := List.mem_flatMap.mp hmem
    exact notMem_escapeByte huser b hb
  · intro hmem
    obtain rfl := List.mem_singleton.mp hmem
    simp [h] at ha

theorem notMem_flatMap_percentEncode (h : c ∈ escaped) (huser : c ∈ userEscapes) (s : List Char) :
    c ∉ s.flatMap (percentEncode escaped) := by
  intro hmem
  obtain ⟨a, -, ha⟩ := List.mem_flatMap.mp hmem
  exact notMem_percentEncode h huser a ha

theorem slash_notMem_writeUserinfo (s : List Char) : '/' ∉ writeUserinfo s := by
  have hescaped (s : List Char) : '/' ∉ s.flatMap (percentEncode userEscapes) :=
    notMem_flatMap_percentEncode (by decide) (by decide) s
  unfold writeUserinfo
  dsimp only
  split_ifs
  · exact List.not_mem_nil
  · simp [hescaped]
  · simp [hescaped]

theorem writeUserinfo_eq_nil_or (s : List Char) :
    writeUserinfo s = [] ∨ ∃ t, writeUserinfo s = t ++ ['@'] := by
  unfold writeUserinfo
  dsimp only
  split_ifs
  · exact .inl rfl
  · exact .inr ⟨_, rfl⟩
  · exact .inr ⟨_, rfl⟩

theorem not_isForbidden_of_toAscii? (h : Domain.toAscii? s = some name) (hc : c ∈ name) :
    Domain.isForbidden c = false := by
  unfold Domain.toAscii? at h
  simp only [Option.bind_eq_bind, Option.bind_eq_some_iff] at h
  obtain ⟨prepared, -, labels, -, h⟩ := h
  split_ifs at h
  · contradiction
  · contradiction
  · rename_i hforbidden
    obtain rfl := Option.some.inj h
    rw [Bool.not_eq_true, List.any_eq_false] at hforbidden
    exact eq_false_of_ne_true (hforbidden c hc)

theorem not_isForbidden_of_ofNetworkText (h : Host.ofNetworkText s = .ok (.domain name))
    (hc : c ∈ name) :
    Domain.isForbidden c = false := by
  unfold Host.ofNetworkText at h
  split at h
  · rename_i host hbrackets
    unfold Host.ofBrackets? at hbrackets
    split at hbrackets
    · split_ifs at hbrackets
      · split at hbrackets <;> cases hbrackets <;> cases h
      · cases hbrackets
        cases h
    · contradiction
  · split at h
    · contradiction
    · contradiction
    · rename_i ascii hascii
      obtain ⟨decoded, -, hascii⟩ := Option.bind_eq_some_iff.mp hascii
      split_ifs at h
      · split at h <;> cases h
      · obtain rfl := Host.domain.inj (Except.ok.inj h)
        exact not_isForbidden_of_toAscii? hascii hc

theorem segments_ne_nil (scheme s : List Char) : segments scheme s ≠ [] := fields_ne_nil _ _

theorem resolve_ne_nil {ss : List (List Char)} (h : ss ≠ []) (reversed : List (List Char)) :
    resolve reversed ss ≠ [] := by
  induction ss generalizing reversed with
  | nil => contradiction
  | cons s rest ih =>
    unfold resolve
    by_cases hrest : rest = []
    · subst hrest
      simp only [if_pos, resolve]
      split_ifs <;> exact List.cons_ne_nil _ _
    · split_ifs
      all_goals exact ih hrest _

theorem exists_writePath_eq_cons (hs : takesBackslash scheme = true) (s : List Char) :
    ∃ rest, writePath scheme s = '/' :: rest := by
  unfold writePath
  rw [hs, Bool.not_true, Bool.and_false, if_neg Bool.false_ne_true]
  dsimp only
  obtain ⟨first, others, h⟩ :=
    List.exists_cons_of_ne_nil
      (mt List.reverse_eq_nil_iff.mp (resolve_ne_nil (segments_ne_nil scheme
      (if s.head?.any (isSlash scheme) then s.tail else s)) []))
  rw [h, List.flatMap_cons]
  exact ⟨_, rfl⟩

theorem notMem_writePath (h : c ∈ pathEscapes) (scheme s : List Char) : c ∉ writePath scheme s := by
  have hslash : '/' ∉ pathEscapes := by decide
  have huser : pathEscapes ⊆ userEscapes := List.subset_append_left _ _
  unfold writePath
  split
  · exact List.not_mem_nil
  · intro hmem
    obtain ⟨segment, -, hmem⟩ := List.mem_flatMap.mp hmem
    rcases List.mem_cons.mp hmem with rfl | hmem
    · exact hslash h
    · exact notMem_flatMap_percentEncode h (huser h) segment hmem

/-- What the parts of a URL with a domain are written with. -/
structure IsNetworkForm (u : Url) : Prop where
  slash_notMem_userinfo : '/' ∉ u.userinfo
  userinfo_eq_nil_or : u.userinfo = [] ∨ ∃ s, u.userinfo = s ++ ['@']
  hosted : u.host ≠ none
  not_isForbidden : ∀ name, u.host = some (.domain name) → ∀ c ∈ name, Domain.isForbidden c = false
  path_eq_cons : ∃ rest, u.path = '/' :: rest
  notMem_path : ∀ c ∈ pathEscapes, c ∉ u.path

theorem exists_of_readAuthority (hs : isNetwork scheme = true)
    (h : readAuthority scheme s = .ok u) :
    ∃ written name host port rest, Host.ofNetworkText name = .ok host ∧
      u = withTail { scheme, userinfo := writeUserinfo written, host := some host, port }
        (writePath scheme) rest := by
  unfold readAuthority at h
  dsimp only at h
  split at h
  · contradiction
  split at h
  · contradiction
  cases hhost : Host.ofNetworkText (cutHost scheme false (cutUserinfo scheme s).2).1 with
  | error e =>
    rw [hhost] at h
    contradiction
  | ok host =>
    rw [hhost] at h
    dsimp only [bind, Except.bind] at h
    split at h
    · contradiction
    cases hport : readPort scheme (cutHost scheme false (cutUserinfo scheme s).2).2 with
    | error e =>
      rw [hport] at h
      contradiction
    | ok read =>
      rw [hport] at h
      obtain rfl := Except.ok.inj h
      exact ⟨_, _, _, _, _, hhost, rfl⟩

theorem isNetworkForm_of_readAuthority (hs : isNetwork scheme = true)
    (h : readAuthority scheme s = .ok u) :
    IsNetworkForm u := by
  have hbackslash : takesBackslash scheme = true := by rw [takesBackslash, hs, Bool.true_or]
  obtain ⟨written, name, host, port, rest, hhost, rfl⟩ := exists_of_readAuthority hs h
  exact {
    slash_notMem_userinfo := slash_notMem_writeUserinfo written
    userinfo_eq_nil_or := writeUserinfo_eq_nil_or written
    hosted := nofun
    not_isForbidden := by
      intro domain hdomain c hc
      obtain rfl : host = .domain domain := Option.some.inj hdomain
      exact not_isForbidden_of_ofNetworkText hhost hc
    path_eq_cons := exists_writePath_eq_cons hbackslash _
    notMem_path := fun c hc => notMem_writePath hc scheme _ }

theorem isNetworkForm_of_ofText {input : String} (h : ofText input = .ok u)
    (hs : isNetwork u.scheme = true) :
    IsNetworkForm u := by
  obtain ⟨rest, hcut⟩ := exists_cutScheme?_of_read h
  unfold ofText read at h
  rw [hcut] at h
  dsimp only at h
  rw [if_pos hs] at h
  exact isNetworkForm_of_readAuthority hs h

def tail (u : Url) : List Char :=
  (u.query.map ('?' :: ·)).getD [] ++ (u.fragment.map ('#' :: ·)).getD []

theorem tail_eq_nil_or (u : Url) : u.tail = [] ∨ ∃ c ∈ ['?', '#'], ∃ rest, u.tail = c :: rest := by
  unfold tail
  cases u.query with
  | some query => exact .inr ⟨'?', by decide, _, rfl⟩
  | none =>
    cases u.fragment with
    | some fragment => exact .inr ⟨'#', by decide, _, rfl⟩
    | none => exact .inl rfl

/-- The path ends where the first question mark or number sign stands. -/
theorem IsNetworkForm.takeWhile_path_append_tail (h : IsNetworkForm u) :
    (u.path ++ u.tail).takeWhile (· ∉ ['?', '#']) = u.path := by
  have hmarks : ∀ c ∈ ['?', '#'], c ∈ pathEscapes := List.all_iff_forall_prop.mp (by decide)
  have hpath : ∀ c ∈ u.path, decide (c ∉ ['?', '#']) = true :=
    fun c hc => decide_eq_true fun hmark => h.notMem_path c (hmarks c hmark) hc
  rw [List.takeWhile_append_of_pos hpath]
  rcases u.tail_eq_nil_or with htail | ⟨c, hc, rest, htail⟩
  · rw [htail, List.takeWhile_nil, List.append_nil]
  · rw [htail, List.takeWhile_cons, if_neg (by simpa [or_iff_not_imp_left] using hc),
      List.append_nil]

theorem render_of_host {host : Host} (h : u.host = some host) :
    u.render = u.scheme ++ "://".toList ++ (u.userinfo ++ (host.render ++
      ((u.port.map fun n => ':' :: (toString n).toList).getD [] ++ (u.path ++ u.tail)))) := by
  unfold render tail
  rw [h]
  simp

theorem mem_of_append_cons_eq {rest before after : List Char}
    (h : s ++ c :: rest = before ++ '/' :: after) (hs : '/' ∉ s) (hc : c ≠ '/') : c ∈ before := by
  rcases List.append_eq_append_iff.mp h with ⟨more, hbefore, hmore⟩ | ⟨more, hmoved, hmore⟩
  · cases more with
    | nil => exact absurd (List.cons.inj hmore).1 hc
    | cons d more =>
      obtain rfl := (List.cons.inj hmore).1
      rw [hbefore]
      exact List.mem_append_right s List.mem_cons_self
  · cases more with
    | nil => exact absurd (List.cons.inj hmore).1.symm hc
    | cons d more =>
      obtain rfl := (List.cons.inj hmore).1
      rw [hmoved] at hs
      exact absurd (List.mem_append_right before List.mem_cons_self) hs

theorem exists_showIpv4_eq_cons (address : Nat) :
    ∃ d rest, showIpv4 address = d :: rest ∧ d.isDigit = true := by
  obtain ⟨d, ds, hdigits⟩ :=
    List.exists_cons_of_ne_nil (Nat.toDigits_ne_nil (n := address >>> (8 * 3) % 256) (b := 10))
  have hfirst : (toString (address >>> (8 * 3) % 256)).toList = d :: ds :=
    String.toList_ofList.trans hdigits
  have hd : d ∈ Nat.toDigits 10 (address >>> (8 * 3) % 256) := by
    rw [hdigits]
    exact List.mem_cons_self
  unfold showIpv4
  rw [List.map_cons, List.map_cons, List.intercalate_cons_cons, hfirst]
  exact ⟨d, _, rfl, Nat.isDigit_of_mem_toDigits (by decide) (by decide) hd⟩

/-- A text with neither digits nor marks between the two slashes and the next one is the domain, and
what follows is the path. -/
theorem IsNetworkForm.of_render {domain rest : List Char} (hform : IsNetworkForm u)
    (hdomain : ∀ c ∈ domain, c.isDigit = false ∧ c ∉ ['@', ':', '[', '/'])
    (h : u.render = u.scheme ++ "://".toList ++ (domain ++ '/' :: rest)) :
    u.userinfo = [] ∧ u.host = some (.domain domain) ∧ u.port = none ∧
    u.path ++ u.tail = '/' :: rest := by
  have hmark {c : Char} (hc : c ∈ ['@', ':', '[', '/']) : c ∉ domain :=
    fun hmem => (hdomain c hmem).2 hc
  obtain ⟨host, hhost⟩ := Option.ne_none_iff_exists'.mp hform.hosted
  obtain ⟨path, hpath⟩ := hform.path_eq_cons
  rw [render_of_host hhost] at h
  replace h := List.append_cancel_left h
  have huserinfo : u.userinfo = [] := by
    rcases hform.userinfo_eq_nil_or with hnil | ⟨s, hs⟩
    · exact hnil
    · -- User information ends in `@`, which would stand in the domain.
      have hslash := hform.slash_notMem_userinfo
      rw [hs] at h hslash
      rw [List.append_assoc] at h
      have hbefore : '/' ∉ s := fun hmem => hslash (List.mem_append_left _ hmem)
      exact absurd (mem_of_append_cons_eq h hbefore (by decide)) (hmark (by decide))
  rw [huserinfo, List.nil_append] at h
  -- Addresses begin with a digit or a bracket, and a port with a colon: only a name without a port
  -- is left.
  cases host with
  | ipv4 address =>
    obtain ⟨d, more, hshow, hd⟩ := exists_showIpv4_eq_cons address
    have hslash : d ≠ '/' := by
      rintro rfl
      contradiction
    rw [Host.render, hshow] at h
    have hmem : d ∈ domain := mem_of_append_cons_eq (s := []) h List.not_mem_nil hslash
    exact absurd ((hdomain d hmem).1.symm.trans hd) Bool.false_ne_true
  | ipv6 pieces =>
    exact absurd (mem_of_append_cons_eq (s := []) h List.not_mem_nil (by decide))
      (hmark (c := '[') (by decide))
  | domain name =>
    have hname : '/' ∉ name := by
      intro hmem
      have hallowed := hform.not_isForbidden name hhost '/' hmem
      contradiction
    cases hport : u.port with
    | some n =>
      rw [hport] at h
      exact absurd (mem_of_append_cons_eq h hname (by decide)) (hmark (by decide))
    | none =>
      rw [hport, hpath] at h
      have hcut : cut? '/' (domain ++ '/' :: rest) = some (domain, rest) :=
        cut?_eq_some_iff.mpr ⟨rfl, hmark (by decide)⟩
      rw [cut?_eq_some_iff.mpr ⟨h.symm, hname⟩] at hcut
      obtain ⟨rfl, rfl⟩ := Prod.mk.inj (Option.some.inj hcut)
      exact ⟨huserinfo, hhost, rfl, by rw [hpath]; rfl⟩

end RuleLint.Url
