import Mathlib.Data.List.Nodup
import RuleLint.Json.Decoding

namespace RuleLint.Json

variable {α : Type} {decode : Json → Except DecodeError α} {encode : α → Json}
    {members : List (String × Json)}
  {name : String}

theorem lookup_reverse_eq_some_iff (hnames : (members.map Prod.fst).Nodup) {v : Json} :
    members.reverse.lookup name = some v ↔ (name, v) ∈ members := by
  rw [List.lookup_eq_some_iff]
  constructor
  · rintro ⟨before, after, heq, -⟩
    rw [← List.mem_reverse, heq]
    exact List.mem_append_right _ List.mem_cons_self
  · intro hv
    obtain ⟨before, after, rfl⟩ := List.append_of_mem hv
    refine ⟨after.reverse, before.reverse, by simp, fun p hp => ?_⟩
    rw [List.map_append, List.map_cons] at hnames
    have hafter := (List.nodup_cons.mp (List.nodup_append.mp hnames).2.1).1
    rw [bne_iff_ne]
    intro hname
    exact hafter (List.mem_map.mpr ⟨p, List.mem_reverse.mp hp, hname.symm⟩)

theorem decodeMember_of_mem (hnames : (members.map Prod.fst).Nodup) {v : Json}
    (hv : (name, v) ∈ members) {x : α} (hx : decode v = .ok x) :
    decodeMember decode members name = .ok (some x) := by
  unfold decodeMember
  rw [(lookup_reverse_eq_some_iff hnames).mpr hv]
  dsimp only
  rw [hx]
  rfl

theorem decodeMember_of_forall_notMem (hnames : (members.map Prod.fst).Nodup)
    (h : ∀ v, (name, v) ∉ members) :
    decodeMember decode members name = .ok none := by
  have hlookup : members.reverse.lookup name = none := by
    rw [Option.eq_none_iff_forall_ne_some]
    exact fun v hv => h v ((lookup_reverse_eq_some_iff hnames).mp hv)
  unfold decodeMember
  rw [hlookup]

theorem decodeOption_of_ne_null {v : Json} (hv : v ≠ .null) :
    decodeOption decode v = some <$> decode v := by
  cases v with
  | null => contradiction
  | _ => rfl

/-- An absent value is written as no member at all and a present one never as null. -/
theorem decodeMember_option (encode : α → Json) (hnames : (members.map Prod.fst).Nodup)
    {value : Option α} (hmem : ∀ v, (name, v) ∈ members ↔ v ∈ value.map encode)
    (hnull : ∀ x, encode x ≠ .null) (hencode : ∀ x, decode (encode x) = .ok x) :
    decodeMember (decodeOption decode) members name = .ok (value.map some) := by
  cases value with
  | none => exact decodeMember_of_forall_notMem hnames fun v hv => by simpa using (hmem v).mp hv
  | some x =>
    apply decodeMember_of_mem hnames ((hmem (encode x)).mpr rfl)
    rw [decodeOption_of_ne_null (hnull x), hencode]
    rfl

theorem decodeList_map (hencode : ∀ x, decode (encode x) = .ok x) (xs : List α) :
    decodeList decode (.array (xs.map encode)) = .ok xs := by
  change (xs.map encode).mapM decode = .ok xs
  induction xs with
  | nil => rfl
  | cons x xs ih =>
    rw [List.map_cons, List.mapM_cons, hencode, ih]
    rfl

end RuleLint.Json
