import RuleLint.Proofs.Unicode.Ascii
import RuleLint.Proofs.Url.NetworkForm

namespace RuleLint.Url

open Text Unicode

def IsPlainDomain (s : List Char) : Prop := ∀ c ∈ s, c.isLower = true ∨ c = '.'

instance (s : List Char) : Decidable (IsPlainDomain s) := List.decidableBAll _ s

variable {s name scheme rest : List Char}

theorem IsPlainDomain.lt_0x80 (h : IsPlainDomain s) : ∀ c ∈ s, c.toNat < 0x80 := by
  intro c hc
  rcases h c hc with hlower | rfl
  · obtain ⟨n, hn, hcode⟩ := exists_of_isLower hlower
    omega
  · decide

theorem IsPlainDomain.domainStatus (h : IsPlainDomain s) : ∀ c ∈ s, domainStatus c = "V" := by
  intro c hc
  rcases h c hc with hlower | rfl
  · exact domainStatus_of_isLower hlower
  · exact domainStatus_dot

theorem IsPlainDomain.isLower_of_mem_fields (h : IsPlainDomain s) {label : List Char}
    (hl : label ∈ fields '.' s) :
    ∀ c ∈ label, c.isLower = true := by
  intro c hc
  rcases h c (subset_of_mem_fields hl hc) with hlower | rfl
  · exact hlower
  · exact absurd hc (notMem_of_mem_fields hl)

theorem mapM_eq_some_map {α β : Type} {f : α → Option β} {g : α → β} {xs : List α}
    (h : ∀ x ∈ xs, f x = some (g x)) :
    xs.mapM f = some (xs.map g) := by
  induction xs with
  | nil => rfl
  | cons x xs ih =>
    obtain ⟨hx, hxs⟩ := List.forall_mem_cons.mp h
    rw [List.mapM_cons, hx, ih hxs]
    rfl

theorem prepare?_of_valid (h : ∀ c ∈ s, Unicode.domainStatus c = "V") :
    Domain.prepare? s = some s := by
  unfold Domain.prepare?
  rw [mapM_eq_some_map (g := fun c => [c])]
  · rw [Option.map_some, ← List.flatMap_def, List.flatMap_singleton']
  · intro c hc
    rw [h c hc]
    rfl

theorem all_ascii_of_lower {label : List Char} (h : ∀ c ∈ label, c.isLower = true) :
    label.all (·.toNat < 0x80) = true := by
  rw [List.all_eq_true]
  intro c hc
  obtain ⟨n, hn, hcode⟩ := exists_of_isLower (h c hc)
  exact decide_eq_true (by omega)

theorem readLabel?_of_lower {label : List Char} (h : ∀ c ∈ label, c.isLower = true) :
    Domain.readLabel? label = some label := by
  have hrest : rest? "xn--".toList label = none := by
    rw [Option.eq_none_iff_forall_ne_some]
    intro rest hrest
    rw [rest?_eq_some_iff.mp hrest] at h
    exact absurd (h '-' (by simp)) (by decide)
  unfold Domain.readLabel?
  rw [hrest]
  dsimp only
  rw [all_ascii_of_lower h]
  rfl

theorem isForbidden_of_isLower {c : Char} (h : c.isLower = true) :
    Domain.isForbidden c = false := by
  have hletters : ∀ n < 26, Domain.isForbidden (Char.ofNat (97 + n)) = false := by decide +kernel
  obtain ⟨n, hn, hc⟩ := exists_of_isLower h
  rw [← Char.ofNat_toNat c, hc]
  exact hletters n hn

theorem toAscii?_of_plain (h : IsPlainDomain s) : Domain.toAscii? s = some s := by
  have hlower {label : List Char} (hl : label ∈ fields '.' s) := h.isLower_of_mem_fields hl
  have hread : (fields '.' s).mapM Domain.readLabel? = some (fields '.' s) :=
    (mapM_eq_some_map fun label hl => readLabel?_of_lower (hlower hl)).trans
      (congrArg some (List.map_id' _))
  have hdirection : Domain.isRightToLeft (fields '.' s) = false := by
    unfold Domain.isRightToLeft
    rw [List.any_eq_false]
    intro label hl
    rw [Bool.not_eq_true, List.any_eq_false]
    intro c hc
    rw [direction_of_isLower (hlower hl c hc)]
    decide
  have hwrite : (fields '.' s).map Domain.writeLabel = fields '.' s := by
    refine (List.map_congr_left fun label hl => ?_).trans (List.map_id _)
    exact if_pos (all_ascii_of_lower (hlower hl))
  have hforbidden : s.any Domain.isForbidden = false := by
    rw [List.any_eq_false]
    intro c hc
    rcases h c hc with hl | rfl
    · rw [isForbidden_of_isLower hl]
      exact Bool.false_ne_true
    · decide
  unfold Domain.toAscii?
  rw [prepare?_of_valid h.domainStatus]
  dsimp only [bind, Option.bind]
  rw [composed_of_ascii h.lt_0x80, hread]
  dsimp only
  rw [hdirection, hwrite, intercalate_fields, hforbidden]
  rfl

theorem percentBytes_of_plain (h : IsPlainDomain s) :
    percentBytes 0 s = s.flatMap String.utf8EncodeChar := by
  induction s with
  | nil => rfl
  | cons c s ih =>
    obtain ⟨hc, hs⟩ := List.forall_mem_cons.mp h
    have hpercent : c ≠ '%' := by
      rintro rfl
      revert hc
      decide
    have hescape : escapedByte? (c :: s) = none := by
      unfold escapedByte?
      split
      · rename_i hcons
        exact absurd (List.cons.inj hcons).1 hpercent
      · rfl
    unfold percentBytes
    rw [hescape, ih hs]
    rfl

theorem fromUTF8?_flatMap_utf8EncodeChar (s : List Char) :
    String.fromUTF8? ⟨(s.flatMap String.utf8EncodeChar).toArray⟩ = some (.ofList s) := by
  have hbytes : (⟨(s.flatMap String.utf8EncodeChar).toArray⟩ : ByteArray) = s.utf8Encode :=
    ByteArray.ext List.data_toByteArray.symm
  rw [hbytes]
  exact dif_pos ByteArray.isValidUTF8_utf8Encode

theorem percentDecode?_of_plain (h : IsPlainDomain s) : percentDecode? s = some s := by
  unfold percentDecode?
  rw [percentBytes_of_plain h, fromUTF8?_flatMap_utf8EncodeChar, Option.map_some,
    String.toList_ofList]

theorem ofNetworkText_of_plain (h : IsPlainDomain s) (hne : s ≠ [])
    (hnumber : endsInNumber s = false) :
    Host.ofNetworkText s = .ok (.domain s) := by
  obtain ⟨c, rest, rfl⟩ := List.exists_cons_of_ne_nil hne
  have hbrackets : Host.ofBrackets? (c :: rest) = none := by
    unfold Host.ofBrackets?
    split
    · rename_i hcons
      obtain ⟨rfl, -⟩ := List.cons.inj hcons
      exact absurd (h '[' List.mem_cons_self) (by decide)
    · rfl
  have hascii : (percentDecode? (c :: rest)).bind Domain.toAscii? = some (c :: rest) := by
    rw [percentDecode?_of_plain h, Option.bind_some, toAscii?_of_plain h]
  unfold Host.ofNetworkText
  rw [hbrackets, hascii]
  exact if_neg (Bool.eq_false_iff.mp hnumber)

theorem endsAuthority_slash (scheme : List Char) : endsAuthority scheme '/' = true := rfl

theorem IsPlainDomain.notMem (h : IsPlainDomain name) {c : Char}
    (hc : c.isLower = false ∧ c ≠ '.') : c ∉ name := by
  intro hmem
  rcases h c hmem with hlower | hdot
  · exact Bool.false_ne_true (hc.1.symm.trans hlower)
  · exact hc.2 hdot

theorem IsPlainDomain.not_endsAuthority (h : IsPlainDomain name) (scheme : List Char) :
    ∀ c ∈ name, endsAuthority scheme c = false := by
  intro c hc
  have hne {d : Char} (hd : d.isLower = false ∧ d ≠ '.') : c ≠ d := by
    rintro rfl
    exact h.notMem hd hc
  simp [endsAuthority, isSlash, hne (d := '/') (by decide), hne (d := '\\') (by decide),
    hne (d := '?') (by decide), hne (d := '#') (by decide)]

theorem cutUserinfo_of_plain (h : IsPlainDomain name) (scheme rest : List Char) :
    cutUserinfo scheme (name ++ '/' :: rest) = (none, name ++ '/' :: rest) := by
  have htake : (name ++ '/' :: rest).takeWhile (! endsAuthority scheme ·) = name := by
    have hname : ∀ c ∈ name, (! endsAuthority scheme c) = true := by
      intro c hc
      rw [h.not_endsAuthority scheme c hc, Bool.not_false]
    rw [List.takeWhile_append_of_pos hname,
      List.takeWhile_cons_of_neg (by simp [endsAuthority_slash]), List.append_nil]
  unfold cutUserinfo
  rw [htake]
  dsimp only
  cases hcut : cut? '@' name.reverse with
  | none => rfl
  | some sides =>
    obtain ⟨hname, -⟩ := cut?_eq_some_iff.mp hcut
    have hat : '@' ∈ name.reverse := by
      rw [hname]
      exact List.mem_append_right _ List.mem_cons_self
    exact absurd (List.mem_reverse.mp hat) (h.notMem (by decide))

theorem cutHost_of_plain (h : IsPlainDomain name) (scheme rest : List Char) :
    cutHost scheme false (name ++ '/' :: rest) = (name, '/' :: rest) := by
  induction name with
  | nil => rfl
  | cons c name ih =>
    have hends := h.not_endsAuthority scheme c List.mem_cons_self
    have hcolon : c ≠ ':' := fun hc => h.notMem (c := ':') (by decide) (hc ▸ List.mem_cons_self)
    have hbracket : c ≠ '[' := fun hc => h.notMem (c := '[') (by decide) (hc ▸ List.mem_cons_self)
    rw [List.cons_append, cutHost]
    simp only [hends, hcolon, hbracket, decide_false, Bool.false_and, Bool.or_self,
      Bool.false_eq_true, if_false, ih (List.forall_mem_cons.mp h).2]

theorem readAuthority_of_plain (hs : isNetwork scheme = true) (h : IsPlainDomain name)
    (hne : name ≠ []) (hnumber : endsInNumber name = false) (rest : List Char) :
    readAuthority scheme (name ++ '/' :: rest) =
      .ok (withTail { scheme, host := some (.domain name) } (writePath scheme) ('/' :: rest)) := by
  have hdomain : Host.domain name ≠ .domain [] := fun heq => hne (Host.domain.inj heq)
  unfold readAuthority
  rw [cutUserinfo_of_plain h]
  dsimp only
  rw [cutHost_of_plain h]
  simp only [hs, hne, hdomain, ofNetworkText_of_plain h hne hnumber, bind, Except.bind,
    reduceCtorEq, decide_false, Bool.false_and, Bool.and_false, Bool.false_eq_true,
    if_false, if_true]
  rfl

/-- An HTTPS URL with a plain domain and a path. -/
theorem ofText_of_plain {input : String} (h : IsPlainDomain name) (hne : name ≠ [])
    (hnumber : endsInNumber name = false)
    (hcut : cutScheme? (clean input.toList) =
      some ("https".toList, "//".toList ++ (name ++ '/' :: rest))) :
    ofText input = .ok (withTail { scheme := "https".toList, host := some (.domain name) }
      (writePath "https".toList) ('/' :: rest)) := by
  have hnetwork : isNetwork "https".toList = true := by decide
  have hslashes : ("//".toList ++ (name ++ '/' :: rest)).dropWhile (isSlash "https".toList) =
      name ++ '/' :: rest := by
    obtain ⟨c, name, rfl⟩ := List.exists_cons_of_ne_nil hne
    have hends := h.not_endsAuthority "https".toList c List.mem_cons_self
    have hslash : ¬ isSlash "https".toList c = true := by
      rw [(Bool.or_eq_false_iff.mp (Bool.or_eq_false_iff.mp hends).1).1]
      exact Bool.false_ne_true
    show ('/' :: '/' :: c :: (name ++ '/' :: rest)).dropWhile _ = _
    rw [List.dropWhile_cons_of_pos rfl, List.dropWhile_cons_of_pos rfl,
      List.dropWhile_cons_of_neg hslash]
    rfl
  unfold ofText read
  rw [hcut]
  dsimp only
  rw [if_pos hnetwork, hslashes]
  exact readAuthority_of_plain hnetwork h hne hnumber rest

end RuleLint.Url
