import RuleLint.Proofs.Text.Fields
import RuleLint.Url.Basic

namespace RuleLint.Url

open Text

variable {scheme s rest : List Char} {u : Url} {c : Char}

def IsSchemeChar (c : Char) : Prop := c.isAlphanum = true ∨ c ∈ ['+', '-', '.']

theorem isAlphanum_toLower (h : c.isAlphanum = true) : c.toLower.isAlphanum = true := by
  by_cases hupper : 'A' ≤ c ∧ c ≤ 'Z'
  · have hletters : ∀ n < 26, (Char.ofNat (65 + n)).toLower.isAlphanum = true := by decide
    have hfirst : 65 ≤ c.toNat := UInt32.le_iff_toNat_le.mp hupper.1
    have hlast : c.toNat ≤ 90 := UInt32.le_iff_toNat_le.mp hupper.2
    have hc : c = Char.ofNat (65 + (c.toNat - 65)) := by
      rw [Nat.add_sub_cancel' hfirst, Char.ofNat_toNat]
    rw [hc]
    exact hletters _ (by omega)
  · have hsame : c.toLower = c := dif_neg hupper
    rw [hsame]
    exact h

theorem isSchemeChar_toLower (h : IsSchemeChar c) : IsSchemeChar c.toLower := by
  rcases h with h | h
  · exact .inl (isAlphanum_toLower h)
  · simp only [List.mem_cons, List.not_mem_nil, or_false] at h
    rcases h with rfl | rfl | rfl
    · exact .inr (by decide)
    · exact .inr (by decide)
    · exact .inr (by decide)

theorem isSchemeChar_of_cutScheme? (h : cutScheme? s = some (scheme, rest)) (hc : c ∈ scheme) :
    IsSchemeChar c := by
  unfold cutScheme? at h
  rw [Option.bind_eq_bind, Option.bind_eq_some_iff] at h
  obtain ⟨⟨spelled, after⟩, -, h⟩ := h
  dsimp only at h
  split_ifs at h with hletters
  obtain ⟨rfl, -⟩ := Prod.mk.inj (Option.some.inj h)
  obtain ⟨a, ha, rfl⟩ := List.mem_map.mp hc
  rw [Bool.and_eq_true, List.all_eq_true] at hletters
  have hletter := hletters.2 a ha
  rw [Bool.or_eq_true, decide_eq_true_eq] at hletter
  exact isSchemeChar_toLower hletter

/-- Whatever URL a reader gives has this scheme. -/
def GivesScheme (scheme : List Char) (reader : Except UrlError Url) : Prop :=
  ∀ u, reader = .ok u → u.scheme = scheme

namespace GivesScheme

variable {reader other : Except UrlError Url}

theorem of_throw {α : Type} (e : UrlError) (next : α → Except UrlError Url) :
    GivesScheme scheme (throw e >>= next) :=
  nofun

theorem of_bind {α : Type} {first : Except UrlError α} {next : α → Except UrlError Url}
    (h : ∀ a, GivesScheme scheme (next a)) : GivesScheme scheme (first >>= next) := by
  cases first with
  | error e => exact nofun
  | ok a => exact h a

theorem of_ite {p : Prop} [Decidable p] (h : GivesScheme scheme reader)
    (h' : GivesScheme scheme other) :
    GivesScheme scheme (if p then reader else other) := by
  split_ifs
  · exact h
  · exact h'

theorem of_withTail (h : u.scheme = scheme) (write : List Char → List Char) (s : List Char) :
    GivesScheme scheme (.ok (withTail u write s)) := by
  rintro _ ⟨⟩
  exact h

end GivesScheme

theorem givesScheme_readAuthority (scheme s : List Char) :
    GivesScheme scheme (readAuthority scheme s) := by
  have hport (host : Host) (written s : List Char) : GivesScheme scheme
      (readPort scheme s >>= fun read =>
        let u : Url := { scheme, userinfo := written, host := some host, port := read.1 }
        .ok (withTail u (writePath scheme) read.2)) :=
    .of_bind fun _ => .of_withTail rfl _ _
  unfold readAuthority
  refine .of_ite (.of_throw _ _) (.of_ite (.of_throw _ _) (.of_ite ?_ ?_))
  · exact .of_bind fun host => .of_ite (.of_throw _ _) (hport host _ _)
  · exact .of_bind fun host => .of_ite (.of_throw _ _) (hport host _ _)

theorem givesScheme_readFile (scheme s : List Char) : GivesScheme scheme (readFile scheme s) := by
  unfold readFile
  split
  · refine .of_ite (.of_ite (.of_withTail rfl _ _) (.of_ite ?_ ?_)) (.of_withTail rfl _ _)
    · exact .of_bind fun _ => .of_withTail rfl _ _
    · exact .of_bind fun _ => .of_withTail rfl _ _
  · exact .of_withTail rfl _ _

theorem exists_cutScheme?_of_read (h : read s = .ok u) :
    ∃ rest, cutScheme? (clean s) = some (u.scheme, rest) := by
  unfold read at h
  cases hcut : cutScheme? (clean s) with
  | none =>
    rw [hcut] at h
    contradiction
  | some parts =>
    obtain ⟨scheme, rest⟩ := parts
    rw [hcut] at h
    dsimp only at h
    suffices hscheme : u.scheme = scheme by
      rw [hscheme]
      exact ⟨rest, rfl⟩
    split_ifs at h
    · exact givesScheme_readAuthority scheme _ u h
    · exact givesScheme_readFile scheme _ u h
    · split at h
      · exact givesScheme_readAuthority scheme _ u h
      · exact GivesScheme.of_withTail rfl _ _ u h
      · exact GivesScheme.of_withTail rfl _ _ u h

theorem isSchemeChar_of_ofText {input : String} (h : ofText input = .ok u) (hc : c ∈ u.scheme) :
    IsSchemeChar c := by
  obtain ⟨rest, hcut⟩ := exists_cutScheme?_of_read h
  exact isSchemeChar_of_cutScheme? hcut hc

end RuleLint.Url
