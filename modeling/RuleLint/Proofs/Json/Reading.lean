import RuleLint.Proofs.Json.Tokens

namespace RuleLint.Json

open Text

@[elab_as_elim]
theorem induction {P : Json → Prop} (null : P .null) (bool : ∀ b, P (.bool b))
    (number : ∀ n, P (.number n)) (string : ∀ text, P (.string text))
    (array : ∀ items, (∀ v ∈ items, P v) → P (.array items))
    (object : ∀ members, (∀ m ∈ members, P m.2) → P (.object members)) : ∀ v, P v
  | .null => null
  | .bool b => bool b
  | .number n => number n
  | .string text => string text
  | .array items => array items fun v _ => induction null bool number string array object v
  | .object members => object members fun m hm =>
    -- A value sits one level further down in an object than in an array: inside a pair.
    have : sizeOf m.2 < sizeOf members := by
      have hsize := List.sizeOf_lt_of_mem hm
      have hpair : sizeOf m = 1 + sizeOf m.1 + sizeOf m.2 := rfl
      omega
    induction null bool number string array object m.2

variable {depth fuel : Nat} {s t : List Char} {v : Json}

theorem skipBlanks_cons {c : Char} (h : isBlank c = false) (s : List Char) :
    skipBlanks (c :: s) = c :: s :=
  List.dropWhile_cons_of_neg (by simp [h])

theorem skipBlanks_newline (depth : Nat) (s : List Char) :
    skipBlanks ((newline depth).toList ++ s) = skipBlanks s := by
  have hblank : ∀ c ∈ (newline depth).toList, isBlank c = true := by
    intro c hc
    unfold newline at hc
    rw [String.toList_append] at hc
    rcases List.mem_append.mp hc with hc | hc
    · rw [List.mem_singleton.mp hc]
      decide
    · rw [String.toList_ofList] at hc
      rw [List.eq_of_mem_replicate hc]
      decide
  exact List.dropWhile_append_of_pos hblank

theorem ne_of_number_head {c x : Char} (h : c = '-' ∨ c.isDigit = true) (hx : x ≠ '-')
    (hd : x.isDigit = false) :
    c ≠ x := by
  rintro rfl
  rcases h with h | h
  · exact hx h
  · rw [hd] at h
    contradiction

theorem exists_head_pretty (depth : Nat) (v : Json) :
    ∃ c rest, (pretty depth v).toList = c :: rest ∧ isBlank c = false ∧ c ≠ ']' := by
  cases v with
  | null => exact ⟨'n', _, by rw [pretty]; rfl, by decide, by decide⟩
  | bool b =>
    cases b with
    | true => exact ⟨'t', _, by rw [pretty]; rfl, by decide, by decide⟩
    | false => exact ⟨'f', _, by rw [pretty]; rfl, by decide, by decide⟩
  | number n =>
    obtain ⟨c, rest, hn, hc⟩ := exists_head_toString_int n
    rw [pretty]
    refine ⟨c, rest, hn, ?_, ne_of_number_head hc (by decide) (by decide)⟩
    unfold isBlank
    simp only [Bool.or_eq_false_iff, decide_eq_false_iff_not]
    refine ⟨⟨⟨?_, ?_⟩, ?_⟩, ?_⟩ <;> exact ne_of_number_head hc (by decide) (by decide)
  | string text =>
    rw [pretty, quote, String.toList_ofList]
    exact ⟨'"', _, rfl, by decide, by decide⟩
  | array items =>
    cases items with
    | nil => exact ⟨'[', _, by rw [pretty]; rfl, by decide, by decide⟩
    | cons x xs =>
      rw [pretty]
      simp only [String.toList_append]
      exact ⟨'[', _, rfl, by decide, by decide⟩
  | object members =>
    cases members with
    | nil => exact ⟨'\x7b', _, by rw [pretty]; rfl, by decide, by decide⟩
    | cons m ms =>
      rw [pretty]
      simp only [String.toList_append]
      exact ⟨'\x7b', _, rfl, by decide, by decide⟩

theorem readValue_plain {c : Char} (ht : skipBlanks t = c :: s) (harray : c ≠ '[')
    (hobject : c ≠ '\x7b') :
    readValue (fuel + 1) t = readPlain? (c :: s) := by
  rw [readValue, ht]
  split
  · rename_i h
    exact (harray (List.cons.inj h).1).elim
  · rename_i h
    exact (hobject (List.cons.inj h).1).elim
  · rfl

theorem readPlain?_of_head {c : Char} (hnull : c ≠ 'n') (htrue : c ≠ 't') (hfalse : c ≠ 'f')
    (s : List Char) :
    readPlain? (c :: s) = ((readString? (c :: s)).map fun p => (.string p.1, p.2)).or
      ((readNumber? (c :: s)).map fun p => (.number p.1, p.2)) := by
  have hn : rest? "null".toList (c :: s) = none := if_neg hnull.symm
  have ht : rest? "true".toList (c :: s) = none := if_neg htrue.symm
  have hf : rest? "false".toList (c :: s) = none := if_neg hfalse.symm
  unfold readPlain?
  rw [hn, ht, hf]
  cases readString? (c :: s) with
  | none => rfl
  | some p => rfl

theorem readPlain?_quote (text : String) (s : List Char) :
    readPlain? ((quote text).toList ++ s) = some (.string text, s) := by
  have hread := readString?_quote text s
  unfold quote at hread ⊢
  rw [String.toList_ofList, List.cons_append, List.cons_append] at hread ⊢
  rw [readPlain?_of_head (by decide) (by decide) (by decide), hread]
  rfl

theorem readPlain?_number (n : Int) (hs : NumberEnds s) :
    readPlain? ((toString n).toList ++ s) = some (.number n, s) := by
  obtain ⟨c, rest, hn, hc⟩ := exists_head_toString_int n
  have hread := readNumber?_toString n hs
  have hstring : readString? (c :: (rest ++ s)) = none := by
    unfold readString?
    split
    · rename_i h
      exact (ne_of_number_head hc (by decide) (by decide) (List.cons.inj h).1).elim
    · rfl
  rw [hn, List.cons_append] at hread ⊢
  rw [readPlain?_of_head (ne_of_number_head hc (by decide) (by decide))
    (ne_of_number_head hc (by decide) (by decide))
    (ne_of_number_head hc (by decide) (by decide)), hstring, hread]
  rfl

theorem readValue_array (ht : skipBlanks t = '[' :: s) (hs : (skipBlanks s).head? ≠ some ']') :
    readValue (fuel + 1) t = (readItems fuel (skipBlanks s)).map fun (items, s) =>
      (.array items, s) := by
  rw [readValue]
  simp only [ht]
  split
  · rename_i h
    rw [h] at hs
    exact (hs rfl).elim
  · rfl

theorem readValue_object (ht : skipBlanks t = '\x7b' :: s)
    (hs : (skipBlanks s).head? ≠ some '\x7d') :
    readValue (fuel + 1) t = (readMembers fuel (skipBlanks s)).map fun (members, s) =>
      (.object members, s) := by
  rw [readValue]
  simp only [ht]
  split
  · rename_i h
    rw [h] at hs
    exact (hs rfl).elim
  · rfl

theorem readItems_last (hv : readValue fuel t = some (v, s)) {rest : List Char}
    (hs : skipBlanks s = ']' :: rest) :
    readItems (fuel + 1) t = some ([v], rest) := by
  rw [readItems, hv]
  simp only [Option.bind_eq_bind, Option.bind_some, hs]
  rfl

theorem readItems_more (hv : readValue fuel t = some (v, s)) {rest after : List Char}
    (hs : skipBlanks s = ',' :: rest) {items : List Json}
    (hitems : readItems fuel rest = some (items, after)) :
    readItems (fuel + 1) t = some (v :: items, after) := by
  rw [readItems, hv]
  simp only [Option.bind_eq_bind, Option.bind_some, hs, hitems]
  rfl

theorem readMembers_last {name : String} {between rest : List Char}
    (hn : readName? t = some (name, between)) (hv : readValue fuel between = some (v, s))
    (hs : skipBlanks s = '\x7d' :: rest) :
    readMembers (fuel + 1) t = some ([(name, v)], rest) := by
  rw [readMembers, hn]
  simp only [Option.bind_eq_bind, Option.bind_some, hv, hs]
  rfl

theorem readMembers_more {name : String} {between rest after : List Char}
    (hn : readName? t = some (name, between)) (hv : readValue fuel between = some (v, s))
    (hs : skipBlanks s = ',' :: rest) {members : List (String × Json)}
    (hmembers : readMembers fuel rest = some (members, after)) :
    readMembers (fuel + 1) t = some ((name, v) :: members, after) := by
  rw [readMembers, hn]
  simp only [Option.bind_eq_bind, Option.bind_some, hv, hs, hmembers]
  rfl

theorem readName?_quote {name : String} {rest : List Char}
    (ht : skipBlanks t = (quote name).toList ++ ':' :: rest) :
    readName? t = some (name, rest) := by
  unfold readName?
  rw [ht, readString?_quote]
  rfl

variable {x : Json} {xs : List Json} {name : String} {ms : List (String × Json)}

theorem toList_pretty_array (depth : Nat) (x : Json) (xs : List Json) :
    (pretty depth (.array (x :: xs))).toList =
      '[' ::
        ((newline (depth + 1)).toList ++
          ((pretty (depth + 1) x).toList ++ (prettyItems depth xs).toList)) := by
  rw [pretty]
  simp

theorem toList_prettyItems_nil (depth : Nat) :
    (prettyItems depth []).toList = (newline depth).toList ++ [']'] := by
  rw [prettyItems]
  simp

theorem toList_prettyItems_cons (depth : Nat) (x : Json) (xs : List Json) :
    (prettyItems depth (x :: xs)).toList =
      ',' ::
        ((newline (depth + 1)).toList ++
          ((pretty (depth + 1) x).toList ++ (prettyItems depth xs).toList)) := by
  rw [prettyItems]
  simp

theorem toList_pretty_object (depth : Nat) (name : String) (v : Json) (ms : List (String × Json)) :
    (pretty depth (.object ((name, v) :: ms))).toList =
      '\x7b' :: ((newline (depth + 1)).toList ++ ((quote name).toList ++
        ':' :: ' ' :: ((pretty (depth + 1) v).toList ++ (prettyMembers depth ms).toList))) := by
  rw [pretty]
  simp

theorem toList_prettyMembers_nil (depth : Nat) :
    (prettyMembers depth []).toList = (newline depth).toList ++ ['\x7d'] := by
  rw [prettyMembers]
  simp

theorem toList_prettyMembers_cons (depth : Nat) (name : String) (v : Json)
    (ms : List (String × Json)) :
    (prettyMembers depth ((name, v) :: ms)).toList =
      ',' :: ((newline (depth + 1)).toList ++ ((quote name).toList ++
        ':' :: ' ' :: ((pretty (depth + 1) v).toList ++ (prettyMembers depth ms).toList))) := by
  rw [prettyMembers]
  simp

theorem head?_pretty_append (depth : Nat) (v : Json) (s : List Char) :
    ((pretty depth v).toList ++ s).head? ≠ some ']' := by
  obtain ⟨c, rest, hv, -, hc⟩ := exists_head_pretty depth v
  rw [hv]
  exact fun h => hc (Option.some.inj h)

theorem head?_quote_append (text : String) (s : List Char) :
    ((quote text).toList ++ s).head? = some '"' := by
  unfold quote
  rw [String.toList_ofList]
  rfl

theorem length_newline_pos (depth : Nat) : 0 < (newline depth).toList.length := by
  unfold newline
  rw [String.toList_append]
  exact Nat.zero_lt_succ _

theorem skipBlanks_pretty (depth : Nat) (v : Json) (s : List Char) :
    skipBlanks ((pretty depth v).toList ++ s) = (pretty depth v).toList ++ s := by
  obtain ⟨c, rest, hv, hblank, -⟩ := exists_head_pretty depth v
  rw [hv]
  exact skipBlanks_cons hblank _

theorem skipBlanks_space_pretty (depth : Nat) (v : Json) (s : List Char) :
    skipBlanks (' ' :: ((pretty depth v).toList ++ s)) = (pretty depth v).toList ++ s :=
  skipBlanks_pretty depth v s

theorem skipBlanks_quote (text : String) (s : List Char) :
    skipBlanks ((quote text).toList ++ s) = (quote text).toList ++ s := by
  unfold quote
  rw [String.toList_ofList]
  exact skipBlanks_cons (by decide) _

theorem numberEnds_newline (depth : Nat) (s : List Char) :
    NumberEnds ((newline depth).toList ++ s) := by
  unfold newline
  rw [String.toList_append]
  exact numberEnds_cons (by decide) _

theorem numberEnds_prettyItems (depth : Nat) (xs : List Json) (s : List Char) :
    NumberEnds ((prettyItems depth xs).toList ++ s) := by
  cases xs with
  | nil =>
    rw [toList_prettyItems_nil, List.append_assoc]
    exact numberEnds_newline depth _
  | cons x xs =>
    rw [toList_prettyItems_cons]
    exact numberEnds_cons (by decide) _

theorem numberEnds_prettyMembers (depth : Nat) (ms : List (String × Json)) (s : List Char) :
    NumberEnds ((prettyMembers depth ms).toList ++ s) := by
  cases ms with
  | nil =>
    rw [toList_prettyMembers_nil, List.append_assoc]
    exact numberEnds_newline depth _
  | cons m ms =>
    rw [toList_prettyMembers_cons]
    exact numberEnds_cons (by decide) _

/-- The value is read back from what is written for it at any depth, if nothing follows that would
go on with a number. There is fuel enough if there is some for each character. -/
def ReadsBack (v : Json) : Prop :=
  ∀ (depth fuel : Nat) (s t : List Char), (pretty depth v).toList.length ≤ fuel → NumberEnds s →
    skipBlanks t = (pretty depth v).toList ++ s → readValue fuel t = some (v, s)

theorem readItems_pretty (h : ∀ v ∈ x :: xs, ReadsBack v)
    (hfuel : (pretty (depth + 1) x).toList.length + (prettyItems depth xs).toList.length < fuel)
    (ht : skipBlanks t = (pretty (depth + 1) x).toList ++ ((prettyItems depth xs).toList ++ s)) :
    readItems fuel t = some (x :: xs, s) := by
  -- On the items behind the first: each step takes one of them, with the text and the fuel that are
  -- left.
  induction xs generalizing x fuel t with
  | nil =>
    obtain ⟨fuel, rfl⟩ := Nat.exists_eq_succ_of_ne_zero (Nat.ne_zero_of_lt hfuel)
    have hx := h x List.mem_cons_self _ fuel _ t (by omega) (numberEnds_prettyItems depth [] s) ht
    apply readItems_last hx
    rw [toList_prettyItems_nil, List.append_assoc, skipBlanks_newline]
    rfl
  | cons y ys ih =>
    obtain ⟨fuel, rfl⟩ := Nat.exists_eq_succ_of_ne_zero (Nat.ne_zero_of_lt hfuel)
    have hx :=
      h x List.mem_cons_self _ fuel _ t (by omega) (numberEnds_prettyItems depth (y :: ys) s) ht
    rw [toList_prettyItems_cons, List.length_cons, List.length_append, List.length_append] at hfuel
    have hrest : readItems fuel ((newline (depth + 1)).toList ++
        ((pretty (depth + 1) y).toList ++ ((prettyItems depth ys).toList ++ s))) =
          some (y :: ys, s) := by
      apply ih (fun v hv => h v (List.mem_cons_of_mem _ hv)) (by omega)
      rw [skipBlanks_newline, skipBlanks_pretty]
    refine readItems_more hx ?_ hrest
    rw [toList_prettyItems_cons, List.cons_append, skipBlanks_cons (by decide)]
    simp only [List.append_assoc]

theorem readMembers_pretty (hv : ReadsBack v) (h : ∀ m ∈ ms, ReadsBack m.2)
    (hfuel : (pretty (depth + 1) v).toList.length + (prettyMembers depth ms).toList.length < fuel)
    (ht : skipBlanks t = (quote name).toList ++
      ':' :: ' ' :: ((pretty (depth + 1) v).toList ++ ((prettyMembers depth ms).toList ++ s))) :
    readMembers fuel t = some ((name, v) :: ms, s) := by
  -- As for items, with a name before each value.
  induction ms generalizing name v fuel t with
  | nil =>
    obtain ⟨fuel, rfl⟩ := Nat.exists_eq_succ_of_ne_zero (Nat.ne_zero_of_lt hfuel)
    have hvalue := hv (depth + 1) fuel _ _ (by omega) (numberEnds_prettyMembers depth [] s)
      (skipBlanks_space_pretty _ v _)
    apply readMembers_last (readName?_quote ht) hvalue
    rw [toList_prettyMembers_nil, List.append_assoc, skipBlanks_newline]
    rfl
  | cons m ms ih =>
    obtain ⟨name', v'⟩ := m
    obtain ⟨fuel, rfl⟩ := Nat.exists_eq_succ_of_ne_zero (Nat.ne_zero_of_lt hfuel)
    have hvalue :=
      hv (depth + 1) fuel _ _ (by omega) (numberEnds_prettyMembers depth ((name', v') :: ms) s)
        (skipBlanks_space_pretty _ v _)
    rw [toList_prettyMembers_cons] at hfuel
    simp only [List.length_cons, List.length_append] at hfuel
    have hrest : readMembers fuel ((newline (depth + 1)).toList ++ ((quote name').toList ++
        ':' :: ' ' :: ((pretty (depth + 1) v').toList ++ ((prettyMembers depth ms).toList ++ s)))) =
        some ((name', v') :: ms, s) := by
      have hv' : ReadsBack v' := h (name', v') List.mem_cons_self
      apply ih hv' (fun m hm => h m (List.mem_cons_of_mem _ hm)) (by omega)
      rw [skipBlanks_newline, skipBlanks_quote]
    refine readMembers_more (readName?_quote ht) hvalue ?_ hrest
    rw [toList_prettyMembers_cons, List.cons_append, skipBlanks_cons (by decide)]
    simp only [List.append_assoc, List.cons_append]

theorem ReadsBack.of_step
    (h : ∀ (depth fuel : Nat) (s t : List Char), (pretty depth v).toList.length ≤ fuel + 1 →
    NumberEnds s → skipBlanks t = (pretty depth v).toList ++ s →
    readValue (fuel + 1) t = some (v, s)) :
    ReadsBack v := by
  intro depth fuel s t hfuel hs ht
  obtain ⟨c, rest, hv, -⟩ := exists_head_pretty depth v
  have hpos : fuel ≠ 0 := by
    -- No value is written as the empty text.
    rintro rfl
    rw [hv, List.length_cons] at hfuel
    contradiction
  obtain ⟨fuel, rfl⟩ := Nat.exists_eq_succ_of_ne_zero hpos
  exact h depth fuel s t hfuel hs ht

theorem readsBack_null : ReadsBack .null := by
  apply ReadsBack.of_step
  intro depth fuel s t _ _ ht
  rw [pretty] at ht
  rw [readValue_plain ht (by decide) (by decide)]
  rfl

theorem readsBack_bool (b : Bool) : ReadsBack (.bool b) := by
  apply ReadsBack.of_step
  intro depth fuel s t _ _ ht
  rw [pretty] at ht
  cases b with
  | true =>
    rw [readValue_plain ht (by decide) (by decide)]
    rfl
  | false =>
    rw [readValue_plain ht (by decide) (by decide)]
    rfl

theorem readsBack_number (n : Int) : ReadsBack (.number n) := by
  apply ReadsBack.of_step
  intro depth fuel s t _ hs ht
  obtain ⟨c, rest, hn, hc⟩ := exists_head_toString_int n
  have hread := readPlain?_number n hs
  rw [pretty] at ht
  rw [hn, List.cons_append] at ht hread
  rw [readValue_plain ht (ne_of_number_head hc (by decide) (by decide))
    (ne_of_number_head hc (by decide) (by decide)), hread]

theorem readsBack_string (text : String) : ReadsBack (.string text) := by
  apply ReadsBack.of_step
  intro depth fuel s t _ _ ht
  have hread := readPlain?_quote text s
  rw [pretty] at ht
  unfold quote at ht hread
  rw [String.toList_ofList, List.cons_append, List.cons_append] at ht hread
  rw [readValue_plain ht (by decide) (by decide), hread]

theorem readsBack_array {items : List Json} (h : ∀ v ∈ items, ReadsBack v) :
    ReadsBack (.array items) := by
  apply ReadsBack.of_step
  intro depth fuel s t hfuel _ ht
  cases items with
  | nil =>
    rw [pretty] at ht
    rw [readValue, ht]
    rfl
  | cons x xs =>
    rw [toList_pretty_array] at hfuel ht
    simp only [List.length_cons, List.length_append] at hfuel
    simp only [List.cons_append, List.append_assoc] at ht
    have hblanks := (skipBlanks_newline (depth + 1) _).trans
      (skipBlanks_pretty (depth + 1) x ((prettyItems depth xs).toList ++ s))
    have hlength := length_newline_pos (depth + 1)
    have hitems :
        readItems fuel ((pretty (depth + 1) x).toList ++ ((prettyItems depth xs).toList ++ s)) =
          some (x :: xs, s) :=
      readItems_pretty h (by omega) (skipBlanks_pretty _ x _)
    rw [readValue_array ht (by rw [hblanks]; exact head?_pretty_append _ x _), hblanks, hitems]
    rfl

theorem readsBack_object {members : List (String × Json)} (h : ∀ m ∈ members, ReadsBack m.2) :
    ReadsBack (.object members) := by
  apply ReadsBack.of_step
  intro depth fuel s t hfuel _ ht
  cases members with
  | nil =>
    rw [pretty] at ht
    rw [readValue, ht]
    rfl
  | cons m ms =>
    obtain ⟨name, v⟩ := m
    obtain ⟨hv, hms⟩ := List.forall_mem_cons.mp h
    rw [toList_pretty_object] at hfuel ht
    simp only [List.length_cons, List.length_append] at hfuel
    simp only [List.cons_append, List.append_assoc] at ht
    have hblanks := (skipBlanks_newline (depth + 1) _).trans (skipBlanks_quote name
      (':' :: ' ' :: ((pretty (depth + 1) v).toList ++ ((prettyMembers depth ms).toList ++ s))))
    have hmembers : readMembers fuel ((quote name).toList ++
        ':' :: ' ' :: ((pretty (depth + 1) v).toList ++ ((prettyMembers depth ms).toList ++ s))) =
        some ((name, v) :: ms, s) := readMembers_pretty hv hms (by omega) (skipBlanks_quote name _)
    rw [readValue_object ht (by rw [hblanks, head?_quote_append]; decide), hblanks, hmembers]
    rfl

theorem readsBack (v : Json) : ReadsBack v :=
  induction readsBack_null readsBack_bool readsBack_number readsBack_string
    (fun _ => readsBack_array)
    (fun _ => readsBack_object) v

/-- Reading a text undoes writing it. -/
theorem ofText?_pretty (v : Json) : ofText? (v.pretty 0) = some v := by
  have hread :=
    readsBack v 0 ((v.pretty 0).toList.length + 1) [] (v.pretty 0).toList (Nat.le_succ _)
      numberEnds_nil
  rw [List.append_nil] at hread
  have hstart := skipBlanks_pretty 0 v []
  rw [List.append_nil] at hstart
  unfold ofText?
  dsimp only
  rw [hread hstart]
  rfl

end RuleLint.Json
