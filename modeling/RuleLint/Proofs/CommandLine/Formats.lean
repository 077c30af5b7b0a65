import RuleLint.CommandLine.Reading
import RuleLint.Proofs.Steps

namespace RuleLint

namespace CommandLine

def formatArguments : Option String → List String
  | none => []
  | some value => ["--format", value]

namespace Options

variable {o o' p p' : Options} {s : Switch} {value : Option String}

/-- The options with another format, or with none. -/
def withFormat (o : Options) (format : Option OutputFormat) : Options := { o with format }

/-- Options that differ in nothing but the format. -/
def SameButFormat (o o' : Options) : Prop := o'.withFormat o.format = o

theorem SameButFormat.rfl : o.SameButFormat o := Eq.refl o

theorem sameButFormat_withFormat (f f' : Option OutputFormat) :
    (o.withFormat f).SameButFormat (o.withFormat f') := Eq.refl (o.withFormat f)

theorem sameButFormat_iff :
    o.SameButFormat o' ↔ ∃ p f f', o = withFormat p f ∧ o' = withFormat p f' := by
  constructor
  · intro h
    exact ⟨o', o.format, o'.format, h.symm, Eq.refl o'⟩
  · rintro ⟨p, f, f', rfl, rfl⟩
    exact sameButFormat_withFormat f f'

theorem SameButFormat.symm (h : o.SameButFormat o') : o'.SameButFormat o := by
  obtain ⟨p, f, f', rfl, rfl⟩ := sameButFormat_iff.mp h
  exact sameButFormat_withFormat f' f

theorem SameButFormat.trans (h : o.SameButFormat o') (h' : o'.SameButFormat p) :
    o.SameButFormat p := by
  rw [← h, ← h']
  rfl

theorem SameButFormat.root_eq (h : o.SameButFormat o') : o'.root = o.root := by
  rw [← h]
  rfl

theorem has_withFormat (h : s ≠ .format) (f : Option OutputFormat) :
    (o.withFormat f).has s = o.has s := by
  cases s <;> first | rfl | contradiction

theorem setFlag_withFormat (f : Option OutputFormat) :
    (o.withFormat f).setFlag s = (o.setFlag s).map (withFormat · f) := by
  cases s <;> rfl

theorem setValue_withFormat (h : s ≠ .format) (f : Option OutputFormat) (v : String) :
    (o.withFormat f).setValue s v = (o.setValue s v).map (withFormat · f) := by
  cases s with
  | format => contradiction
  | root | config | settings =>
    unfold setValue
    cases pathValue _ v <;> rfl
  | reachability =>
    unfold setValue
    cases ReachabilityPolicy.ofText v <;> rfl
  | timeout =>
    unfold setValue
    cases secondsOfText v <;> rfl
  | quiet | verbose | help | version => rfl

theorem set_withFormat (h : s ≠ .format) (f : Option OutputFormat) :
    (o.withFormat f).set s value = (o.set s value).map (withFormat · f) := by
  unfold set
  rw [has_withFormat h f]
  split
  · rfl
  · split
    · rfl
    · cases value with
      | none => exact setFlag_withFormat f
      | some v => exact setValue_withFormat h f v

theorem eq_withFormat_of_set_format (h : o.set .format value = .ok p) :
    p = o.withFormat p.format := by
  cases value with
  | none => cases h
  | some v =>
    unfold set at h
    split at h
    · cases h
    · split at h
      · cases h
      · dsimp only [Option.elim_some, setValue] at h
        cases hv : OutputFormat.ofText v with
        | error e =>
          rw [hv] at h
          cases h
        | ok format =>
          rw [hv] at h
          rw [← Except.ok.inj h]
          rfl

theorem SameButFormat.set (h : o.SameButFormat o') (hp : o.set s value = .ok p)
    (hp' : o'.set s value = .ok p') :
    p.SameButFormat p' := by
  obtain ⟨q, f, f', rfl, rfl⟩ := sameButFormat_iff.mp h
  by_cases hs : s = .format
  · subst hs
    rw [eq_withFormat_of_set_format hp, eq_withFormat_of_set_format hp']
    exact sameButFormat_withFormat (o := q) _ _
  · rw [set_withFormat hs] at hp hp'
    cases hq : q.set s value with
    | error e =>
      rw [hq] at hp
      cases hp
    | ok r =>
      rw [hq] at hp hp'
      rw [← Except.ok.inj hp, ← Except.ok.inj hp']
      exact sameButFormat_withFormat f f'

end Options

namespace State

variable {s s' t t' : State} {o o' : Options}

theorem pending_of_settle (h : s.settle = .ok s') : s'.pending = none := by
  unfold settle at h
  split at h
  · rename_i hnone
    rw [← Except.ok.inj h]
    exact hnone
  · obtain ⟨p, -, hp⟩ := bind_eq_ok_iff.mp h
    rw [← Except.ok.inj hp]

theorem settle_pending_eq_ok_iff {p : Pending} :
    settle ⟨o, some p⟩ = .ok s' ↔ ∃ o', o.set p.switch p.value = .ok o' ∧ s' = ⟨o', none⟩ := by
  unfold settle
  constructor
  · intro h
    obtain ⟨o', ho, hs⟩ := bind_eq_ok_iff.mp h
    exact ⟨o', ho, (Except.ok.inj hs).symm⟩
  · rintro ⟨o', ho, rfl⟩
    exact bind_eq_ok_iff.mpr ⟨o', ho, rfl⟩

theorem take_eq_ok_iff {switch : Switch} {value : Option String} :
    s.take switch value = .ok s' ↔
      ∃ p o', s.settle = .ok p ∧ p.options.set switch value = .ok o' ∧ s' = ⟨o', none⟩ := by
  constructor
  · intro h
    obtain ⟨p, hp, hset⟩ := bind_eq_ok_iff.mp h
    obtain ⟨o', ho, hs⟩ := bind_eq_ok_iff.mp hset
    refine ⟨p, o', hp, ho, ?_⟩
    rw [← Except.ok.inj hs, pending_of_settle hp]
  · rintro ⟨p, o', hp, ho, rfl⟩
    refine bind_eq_ok_iff.mpr ⟨p, hp, bind_eq_ok_iff.mpr ⟨o', ho, ?_⟩⟩
    rw [pending_of_settle hp]
    rfl

theorem await_eq_ok_iff {switch : Switch} :
    s.await switch = .ok s' ↔ ∃ p, s.settle = .ok p ∧ s' = ⟨p.options, some ⟨switch, none⟩⟩ := by
  constructor
  · intro h
    obtain ⟨p, hp, hs⟩ := bind_eq_ok_iff.mp h
    exact ⟨p, hp, (Except.ok.inj hs).symm⟩
  · rintro ⟨p, hp, rfl⟩
    exact bind_eq_ok_iff.mpr ⟨p, hp, rfl⟩

/-- An argument behind two dashes is refused in every state, or a switch is taken up, or one waits
for its value. -/
theorem readLong_cases (argument : List Char) :
    (∀ s s', readLong s argument ≠ .ok s') ∨
      (∃ switch value, ∀ s, readLong s argument = s.take switch value) ∨
      ∃ switch, ∀ s, readLong s argument = s.await switch := by
  unfold readLong
  dsimp only
  split
  · exact .inl fun _ _ => nofun
  · split
    · exact .inr (.inl ⟨_, _, fun _ => rfl⟩)
    · exact .inr (.inr ⟨_, fun _ => rfl⟩)
    · exact .inl fun _ _ => nofun
    · exact .inr (.inl ⟨_, _, fun _ => rfl⟩)

/-- A letter likewise; where its switch has no value, the next letter is read after it. -/
theorem readShort_cases (c : Char) (letters : List Char) :
    (∀ s s', readShort s (c :: letters) ≠ .ok s') ∨
      (∃ switch value, ∀ s, readShort s (c :: letters) = s.take switch value) ∨
      (∃ switch, ∀ s, readShort s (c :: letters) = s.await switch) ∨
      ∃ switch, ∀ s, readShort s (c :: letters) = s.take switch >>= fun s =>
        s.readShort letters := by
  unfold readShort
  split
  · exact .inl fun _ _ => nofun
  · split
    · split
      · exact .inr (.inr (.inl ⟨_, fun _ => rfl⟩))
      · exact .inr (.inl ⟨_, _, fun _ => rfl⟩)
      · exact .inr (.inl ⟨_, _, fun _ => rfl⟩)
    · rename_i switch _ _
      -- The letters that follow have been laid open as well, and are closed again.
      refine .inr (.inr (.inr ⟨switch, fun s => congrArg (s.take switch >>= ·) ?_⟩))
      funext p
      exact readShort.eq_def p letters

/-- States that differ in nothing but the format, which may be pending in one of them only. -/
inductive Alike : State → State → Prop
  /-- What is pending has its value, and once it is taken up the options differ in nothing but the
  format. -/
  | ready {s t : State} (hs : ∀ switch, s.pending ≠ some ⟨switch, none⟩)
      (h : ∀ s' t', s.settle = .ok s' → t.settle = .ok t' → s'.options.SameButFormat t'.options) :
      Alike s t
  | waiting {o o' : Options} (switch : Switch) (h : o.SameButFormat o') :
      Alike ⟨o, some ⟨switch, none⟩⟩ ⟨o', some ⟨switch, none⟩⟩

namespace Alike

theorem of_options (h : o.SameButFormat o') : Alike ⟨o, none⟩ ⟨o', none⟩ := by
  refine ready nofun ?_
  rintro s' t' ⟨⟩ ⟨⟩
  exact h

theorem of_value (h : o.SameButFormat o') (switch : Switch) (value : String) :
    Alike ⟨o, some ⟨switch, some value⟩⟩ ⟨o', some ⟨switch, some value⟩⟩ := by
  refine ready nofun fun s' t' hs ht => ?_
  obtain ⟨p, hp, rfl⟩ := settle_pending_eq_ok_iff.mp hs
  obtain ⟨p', hp', rfl⟩ := settle_pending_eq_ok_iff.mp ht
  exact h.set hp hp'

theorem settle (h : Alike s t) (hs : s.settle = .ok s') (ht : t.settle = .ok t') :
    s'.options.SameButFormat t'.options := by
  cases h with
  | ready _ h => exact h s' t' hs ht
  | waiting switch h =>
    obtain ⟨p, hp, rfl⟩ := settle_pending_eq_ok_iff.mp hs
    obtain ⟨p', hp', rfl⟩ := settle_pending_eq_ok_iff.mp ht
    exact h.set hp hp'

theorem take {switch : Switch} {value : Option String} (h : Alike s t)
    (hs : s.take switch value = .ok s') (ht : t.take switch value = .ok t') : Alike s' t' := by
  obtain ⟨p, o, hp, ho, rfl⟩ := take_eq_ok_iff.mp hs
  obtain ⟨p', o', hp', ho', rfl⟩ := take_eq_ok_iff.mp ht
  exact of_options ((h.settle hp hp').set ho ho')

theorem await {switch : Switch} (h : Alike s t) (hs : s.await switch = .ok s')
    (ht : t.await switch = .ok t') :
    Alike s' t' := by
  obtain ⟨p, hp, rfl⟩ := await_eq_ok_iff.mp hs
  obtain ⟨p', hp', rfl⟩ := await_eq_ok_iff.mp ht
  exact waiting switch (h.settle hp hp')

theorem readLong {argument : List Char} (h : Alike s t) (hs : s.readLong argument = .ok s')
    (ht : t.readLong argument = .ok t') : Alike s' t' := by
  obtain hno | ⟨switch, value, htake⟩ | ⟨switch, hawait⟩ := readLong_cases argument
  · exact absurd hs (hno s s')
  · rw [htake] at hs ht
    exact h.take hs ht
  · rw [hawait] at hs ht
    exact h.await hs ht

theorem readShort {letters : List Char} (h : Alike s t) (hs : s.readShort letters = .ok s')
    (ht : t.readShort letters = .ok t') : Alike s' t' := by
  induction letters generalizing s t with
  | nil =>
    obtain rfl := Except.ok.inj hs
    obtain rfl := Except.ok.inj ht
    exact h
  | cons c rest ih =>
    obtain hno | ⟨switch, value, htake⟩ | ⟨switch, hawait⟩ | ⟨switch, hnext⟩ :=
      readShort_cases c rest
    · exact absurd hs (hno s s')
    · rw [htake] at hs ht
      exact h.take hs ht
    · rw [hawait] at hs ht
      exact h.await hs ht
    · rw [hnext] at hs ht
      obtain ⟨p, hp, hs⟩ := bind_eq_ok_iff.mp hs
      obtain ⟨p', hp', ht⟩ := bind_eq_ok_iff.mp ht
      exact ih (h.take hp hp') hs ht

/-- What is read after alike states: an argument cannot be the value of a switch in one of them
only. -/
theorem read {arguments : List String} (h : Alike s t) (hs : s.read arguments = .ok s')
    (ht : t.read arguments = .ok t') : s'.options.SameButFormat t'.options := by
  induction arguments generalizing s t with
  | nil => exact h.settle hs ht
  | cons argument rest ih =>
    revert hs ht
    unfold State.read
    split
    · split
      · exact h.settle
      · exact nofun
    · intro hs ht
      obtain ⟨p, hp, hs⟩ := bind_eq_ok_iff.mp hs
      obtain ⟨p', hp', ht⟩ := bind_eq_ok_iff.mp ht
      exact ih (h.readLong hp hp') hs ht
    · intro hs ht
      obtain ⟨p, hp, hs⟩ := bind_eq_ok_iff.mp hs
      obtain ⟨p', hp', ht⟩ := bind_eq_ok_iff.mp ht
      exact ih (h.readShort hp hp') hs ht
    · -- An argument without a dash is a value, which some switch has to wait for.
      cases h with
      | ready hwait h =>
        split
        · exact absurd ‹_› (hwait _)
        · exact nofun
      | waiting switch h => exact ih (of_value h switch argument)

end Alike

variable {value : String} {rest front back : List String} {format format' : Option String}

theorem settle_waiting : settle ⟨o, some ⟨.format, none⟩⟩ ≠ .ok s' := nofun

theorem take_waiting {switch : Switch} {value : Option String} :
    take ⟨o, some ⟨.format, none⟩⟩ switch value ≠ .ok s' := nofun

theorem await_waiting {switch : Switch} : await ⟨o, some ⟨.format, none⟩⟩ switch ≠ .ok s' := nofun

theorem readLong_waiting {argument : List Char} :
    readLong ⟨o, some ⟨.format, none⟩⟩ argument ≠ .ok s' := by
  obtain hno | ⟨switch, value, htake⟩ | ⟨switch, hawait⟩ := readLong_cases argument
  · exact hno _ s'
  · rw [htake]
    exact take_waiting
  · rw [hawait]
    exact await_waiting

theorem readShort_waiting {c : Char} {letters : List Char} :
    readShort ⟨o, some ⟨.format, none⟩⟩ (c :: letters) ≠ .ok s' := by
  obtain hno | ⟨switch, value, htake⟩ | ⟨switch, hawait⟩ | ⟨switch, hnext⟩ :=
    readShort_cases c letters
  · exact hno _ s'
  · rw [htake]
    exact take_waiting
  · rw [hawait]
    exact await_waiting
  · rw [hnext]
    intro h
    obtain ⟨p, hp, -⟩ := bind_eq_ok_iff.mp h
    exact take_waiting hp

theorem read_waiting (h : read ⟨o, some ⟨.format, none⟩⟩ (value :: rest) = .ok t) :
    read ⟨o, some ⟨.format, some value⟩⟩ rest = .ok t := by
  unfold read at h
  split at h
  · split at h
    · exact absurd h settle_waiting
    · cases h
  · obtain ⟨p, hp, -⟩ := bind_eq_ok_iff.mp h
    exact absurd hp readLong_waiting
  · obtain ⟨p, hp, -⟩ := bind_eq_ok_iff.mp h
    exact absurd hp readShort_waiting
  · exact h

theorem read_format (h : s.read ("--format" :: value :: rest) = .ok t) :
    ∃ p, s.settle = .ok p ∧ read ⟨p.options, some ⟨.format, some value⟩⟩ rest = .ok t := by
  have harguments : "--format".toList = '-' :: '-' :: "format".toList := rfl
  have hlong : s.readLong "format".toList = s.await .format := rfl
  unfold read at h
  rw [harguments] at h
  obtain ⟨p, hp, h⟩ := bind_eq_ok_iff.mp h
  rw [hlong] at hp
  obtain ⟨q, hq, rfl⟩ := await_eq_ok_iff.mp hp
  exact ⟨q, hq, read_waiting h⟩

theorem sameButFormat_of_settle (h : settle ⟨o, some ⟨.format, some value⟩⟩ = .ok s') :
    o.SameButFormat s'.options := by
  obtain ⟨p, hp, rfl⟩ := settle_pending_eq_ok_iff.mp h
  exact Options.sameButFormat_iff.mpr
    ⟨o, o.format, p.format, rfl, Options.eq_withFormat_of_set_format hp⟩

theorem alike_of_format (h : ∀ t', t.settle = .ok t' → o.SameButFormat t'.options) :
    Alike ⟨o, some ⟨.format, some value⟩⟩ t :=
  .ready nofun fun _ t' hs ht => (sameButFormat_of_settle hs).symm.trans (h t' ht)

theorem read_formatArguments_append (h : s.read (formatArguments format ++ back) = .ok t)
    (h' : s.read (formatArguments format' ++ back) = .ok t') :
    t.options.SameButFormat t'.options := by
  have hsettle {p : State} (hp : s.settle = .ok p) (p' : State) (hp' : s.settle = .ok p') :
      p.options.SameButFormat p'.options := by
    obtain rfl := Except.ok.inj (hp.symm.trans hp')
    exact .rfl
  -- Whatever was pending before a format is taken up by it, so the other command line can do the
  -- same.
  cases format with
  | none =>
    cases format' with
    | none =>
      obtain rfl := Except.ok.inj (h.symm.trans h')
      exact .rfl
    | some value =>
      obtain ⟨p, hp, hread⟩ := read_format h'
      exact ((alike_of_format (hsettle hp)).read hread h).symm
  | some value =>
    obtain ⟨p, hp, hread⟩ := read_format h
    cases format' with
    | none => exact (alike_of_format (hsettle hp)).read hread h'
    | some value' =>
      obtain ⟨p', hp', hread'⟩ := read_format h'
      obtain rfl := Except.ok.inj (hp.symm.trans hp')
      exact (alike_of_format fun _ => sameButFormat_of_settle).read hread hread'

/-- Whether a format is asked for, and which one, makes no other difference, wherever that is. -/
theorem read_formatArguments (h : s.read (front ++ (formatArguments format ++ back)) = .ok t)
    (h' : s.read (front ++ (formatArguments format' ++ back)) = .ok t') :
    t.options.SameButFormat t'.options := by
  induction front generalizing s with
  | nil => exact read_formatArguments_append h h'
  | cons argument front ih =>
    revert h h'
    rw [List.cons_append, List.cons_append]
    unfold State.read
    split
    · -- Nothing follows, so neither command line asks for a format here.
      intro h h'
      split at h
      · split at h'
        · obtain rfl := Except.ok.inj (h.symm.trans h')
          exact .rfl
        · cases h'
      · cases h
    · intro h h'
      obtain ⟨p, hp, h⟩ := bind_eq_ok_iff.mp h
      obtain ⟨p', hp', h'⟩ := bind_eq_ok_iff.mp h'
      obtain rfl := Except.ok.inj (hp.symm.trans hp')
      exact ih h h'
    · intro h h'
      obtain ⟨p, hp, h⟩ := bind_eq_ok_iff.mp h
      obtain ⟨p', hp', h'⟩ := bind_eq_ok_iff.mp h'
      obtain rfl := Except.ok.inj (hp.symm.trans hp')
      exact ih h h'
    · split
      · exact ih
      · exact nofun

end State

theorem sameButFormat_of_read {rootVariable : Option String} {front back : List String}
    {format format' : Option String} {o o' : Options}
    (h : read (front ++ formatArguments format ++ back) rootVariable = .ok o)
    (h' : read (front ++ formatArguments format' ++ back) rootVariable = .ok o') :
    o.SameButFormat o' := by
  rw [List.append_assoc] at h h'
  obtain ⟨s, hs, h⟩ := bind_eq_ok_iff.mp h
  obtain ⟨s', hs', h'⟩ := bind_eq_ok_iff.mp h'
  have hsame := State.read_formatArguments hs hs'
  have hroot : s'.options.root = s.options.root := hsame.root_eq
  revert h h'
  dsimp only
  rw [hroot]
  split
  · exact hsame.set
  · intro h h'
    rw [← Except.ok.inj h, ← Except.ok.inj h']
    exact hsame

end CommandLine

end RuleLint
