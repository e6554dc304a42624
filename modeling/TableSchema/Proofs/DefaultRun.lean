import TableSchema.DefaultValue
import Mathlib.Data.List.Induction

/-!
When a default is decided.

A decision is open until a step settles it: one that is forced to, or one that is asked to, or that
brings a default, while it is known whether the column admits null. That step gives the column what
is known by then, and no later step changes the column: see `DefaultRun.run_settles_once`. A default
that comes only then is lost. A column keeps its default exactly if settling is not tried before one
has come: see `DefaultRun.hasDefault_run_iff`.
-/

namespace TableSchema

namespace DefaultStep

def observes? : DefaultStep → Option Nullability
  | observe n => some n
  | _ => none

def default? : DefaultStep → Option (Option String)
  | event (.enter (.defaultText t)) => some (defaultExpression t.text)
  | _ => none

/-- Whether a step settles an open decision, by what is known of null. -/
def Fires (o : Nullability) : DefaultStep → Prop
  | settle force => force = true ∨ o ≠ .unspecified
  | event (.enter (.defaultText _)) => o ≠ .unspecified
  | _ => False

/-- What is known of null after some steps, by what was known before. The last step that says it
decides. -/
def observedAfter (o : Nullability) (steps : List DefaultStep) : Nullability :=
  (steps.reverse.findSome? observes?).getD o

def lastDefault? (steps : List DefaultStep) : Option (Option String) :=
  steps.reverse.findSome? default?

/-- None of the steps settles the decision. -/
def Quiet (o : Nullability) (steps : List DefaultStep) : Prop :=
  ∀ before s after, steps = before ++ s :: after → ¬ s.Fires (observedAfter o before)

variable {o : Nullability} {steps before after : List DefaultStep} {s : DefaultStep}

lemma observedAfter_concat (o : Nullability) (steps : List DefaultStep) (s : DefaultStep) :
    observedAfter o (steps ++ [s]) = s.observes?.getD (observedAfter o steps) := by
  unfold observedAfter
  rw [List.reverse_append, List.reverse_singleton, List.singleton_append, List.findSome?_cons]
  rcases s.observes? with _ | n <;> rfl

lemma lastDefault?_concat (steps : List DefaultStep) (s : DefaultStep) :
    lastDefault? (steps ++ [s]) = s.default?.or (lastDefault? steps) := by
  unfold lastDefault?
  rw [List.reverse_append, List.reverse_singleton, List.singleton_append, List.findSome?_cons]
  rcases s.default? with _ | value <;> rfl

lemma lastDefault?_eq_none_iff : lastDefault? steps = none ↔ ∀ s ∈ steps, s.default? = none := by
  simp [lastDefault?]

lemma Quiet.of_append (h : Quiet o (before ++ after)) : Quiet o before := by
  rintro b s a rfl
  exact h b s (a ++ after) (by rw [List.append_assoc, List.cons_append])

/-- The first step that settles the decision, if there is one. -/
lemma quiet_or_fires (o : Nullability) (steps : List DefaultStep) :
    Quiet o steps ∨ ∃ before s after, steps = before ++ s :: after ∧ Quiet o before ∧
      s.Fires (observedAfter o before) := by
  induction steps using List.reverseRecOn with
  | nil => exact .inl fun before s after h => by simp at h
  | append_singleton steps s ih =>
    rcases ih with hquiet | ⟨before, s', after, rfl, hquiet, hfires⟩
    · by_cases hs : s.Fires (observedAfter o steps)
      · exact .inr ⟨steps, s, [], rfl, hquiet, hs⟩
      · -- a step is the last one, or is among those that settle nothing
        refine .inl fun before s' after h => ?_
        rcases List.eq_nil_or_concat after with rfl | ⟨after', x, rfl⟩
        · obtain ⟨rfl, hlast⟩ := List.append_inj' h rfl
          obtain rfl := List.singleton_inj.mp hlast
          exact hs
        · rw [List.concat_eq_append, ← List.cons_append, ← List.append_assoc] at h
          exact hquiet before s' after' (List.append_inj' h rfl).1
    · exact .inr ⟨before, s', after ++ [s], by simp, hquiet, hfires⟩

/-- No step that would settle the decision stands before the first one that does. -/
lemma Quiet.before_of_fires (h : Quiet o before) {b a : List DefaultStep} {x : DefaultStep}
    (heq : before ++ s :: after = b ++ x :: a) (hx : x.Fires (observedAfter o b)) :
    before ++ [s] <+: b ++ [x] := by
  rcases List.append_eq_append_iff.mp heq with ⟨d, rfl, hd⟩ | ⟨d, rfl, hd⟩
  · rcases d with _ | ⟨y, d⟩
    · obtain ⟨rfl, -⟩ := List.cons_eq_cons.mp hd
      simp
    · obtain ⟨rfl, -⟩ := List.cons_eq_cons.mp hd
      exact ⟨d ++ [x], by simp⟩
  · rcases d with _ | ⟨y, d⟩
    · obtain ⟨rfl, -⟩ := List.cons_eq_cons.mp hd
      simp
    · obtain ⟨rfl, -⟩ := List.cons_eq_cons.mp hd
      exact absurd hx (h b x d rfl)

lemma settles_of_fires (h : s.Fires o) (hs : s.default? = none) (hforce : s ≠ settle true) :
    s = settle false ∧ o ≠ .unspecified := by
  cases s with
  | observe n => exact h.elim
  | settle force =>
    cases force with
    | true => exact absurd rfl hforce
    | false => exact ⟨rfl, h.resolve_left Bool.false_ne_true⟩
  | event e =>
    rcases e with ⟨n⟩ | ⟨n⟩
    · cases n with
      | defaultText t => cases hs
      | _ => exact h.elim
    · exact h.elim

end DefaultStep

namespace DefaultRun

open DefaultStep

variable {r : DefaultRun} {s : DefaultStep} {o : Nullability} {before : List DefaultStep}

def run (r : DefaultRun) (steps : List DefaultStep) : DefaultRun := steps.foldl step r

lemma run_append (r : DefaultRun) (steps steps' : List DefaultStep) :
    r.run (steps ++ steps') = (r.run steps).run steps' := List.foldl_append

/-! ### Single steps -/

lemma step_of_not_fires (hr : r.decision.settled = false) (hs : ¬ s.Fires r.observed) :
    r.step s = { r with
      observed := s.observes?.getD r.observed
      decision := ⟨s.default?.or r.decision.seen, false⟩ } := by
  obtain ⟨c, o, seen, settled⟩ := r
  obtain rfl : settled = false := hr
  cases s with
  | observe n => rfl
  | settle force =>
    obtain ⟨hforce, ho⟩ := not_or.mp hs
    obtain rfl : o = .unspecified := not_not.mp ho
    obtain rfl : force = false := Bool.eq_false_iff.mpr hforce
    rfl
  | event e =>
    rcases e with ⟨n⟩ | ⟨n⟩
    · cases n with
      | defaultText t =>
        obtain rfl : o = .unspecified := not_not.mp hs
        rfl
      | _ => rfl
    · rfl

/-- The column that a decision comes to, by what is known of null and the default. -/
def decided (c : Column) (o : Nullability) (seen : Option (Option String)) : Column :=
  { c with
    nullability := if o = .unspecified then c.nullability else o
    hasDefault := c.hasDefault || seen.isSome
    defaultValue := seen.getD c.defaultValue }

lemma settle_of_fires {force : Bool} (hs : force = true ∨ o ≠ .unspecified)
    (seen : Option (Option String)) (c : Column) :
    DefaultDecision.settle force o ⟨seen, false⟩ c = (⟨seen, true⟩, decided c o seen) := by
  unfold DefaultDecision.settle DefaultDecision.give decided
  by_cases ho : o = .unspecified
  · obtain rfl : force = true := hs.resolve_right (not_not.mpr ho)
    rcases seen with _ | value <;> simp [ho]
  · rcases seen with _ | value <;> simp [ho]

/-- The step that settles the decision gives the column what is known by then. -/
lemma step_of_fires (hr : r.decision.settled = false) (hs : s.Fires r.observed) :
    r.step s = { r with
      column := decided r.column r.observed (s.default?.or r.decision.seen)
      decision := ⟨s.default?.or r.decision.seen, true⟩ } := by
  obtain ⟨c, o, seen, settled⟩ := r
  obtain rfl : settled = false := hr
  cases s with
  | observe n => exact hs.elim
  | settle force => exact congrArg (withDecision _) (settle_of_fires hs seen c)
  | event e =>
    rcases e with ⟨n⟩ | ⟨n⟩
    · cases n with
      | defaultText t => exact congrArg (withDecision _) (settle_of_fires (.inr hs) _ c)
      | _ => exact hs.elim
    · exact hs.elim

lemma step_of_settled (hr : r.decision.settled = true) (s : DefaultStep) :
    (r.step s).decision.settled = true ∧ (r.step s).column = r.column := by
  obtain ⟨c, o, seen, settled⟩ := r
  obtain rfl : settled = true := hr
  cases s with
  | observe n => exact ⟨rfl, rfl⟩
  | settle force => exact ⟨rfl, rfl⟩
  | event e =>
    rcases e with ⟨n⟩ | ⟨n⟩
    · cases n <;> exact ⟨rfl, rfl⟩
    · exact ⟨rfl, rfl⟩

/-! ### Runs -/

lemma column_run_of_settled (hr : r.decision.settled = true) (steps : List DefaultStep) :
    (r.run steps).column = r.column := by
  induction steps generalizing r with
  | nil => rfl
  | cons s steps ih =>
    obtain ⟨hsettled, hcolumn⟩ := step_of_settled hr s
    exact (ih hsettled).trans hcolumn

lemma run_of_quiet (c : Column) (h : Quiet o before) :
    ({ column := c, observed := o } : DefaultRun).run before =
      { column := c, observed := observedAfter o before,
        decision := ⟨lastDefault? before, false⟩ } := by
  induction before using List.reverseRecOn with
  | nil => rfl
  | append_singleton steps s ih =>
    have hs : ¬ s.Fires (observedAfter o steps) := h steps s [] rfl
    rw [run_append, ih h.of_append, observedAfter_concat, lastDefault?_concat]
    exact step_of_not_fires rfl hs

lemma column_run_of_fires (c : Column) (h : Quiet o before) (hs : s.Fires (observedAfter o before))
    (after : List DefaultStep) :
    (({ column := c, observed := o } : DefaultRun).run (before ++ s :: after)).column =
      decided c (observedAfter o before) (lastDefault? (before ++ [s])) := by
  rw [run_append, run_of_quiet c h, lastDefault?_concat]
  show (run (step _ s) after).column = _
  rw [step_of_fires rfl hs]
  exact column_run_of_settled rfl after

/-- **A default is decided once**: as long as no step settles the decision, the column is as it was.
The first step that does gives it what is known of null, if that is known, and the default that came
last up to this step, if one came. Nothing else of the column changes then, and nothing at all
afterwards. -/
theorem run_settles_once (c : Column) (o : Nullability) (steps : List DefaultStep) :
    let start : DefaultRun := { column := c, observed := o }
    (Quiet o steps ∧ ∀ part, part <+: steps → (start.run part).column = c) ∨
      ∃ before s after, steps = before ++ s :: after ∧ Quiet o before ∧
        s.Fires (observedAfter o before) ∧
        (∀ part, part <+: before → (start.run part).column = c) ∧
        ∀ part, part <+: after →
          (start.run (before ++ s :: part)).column = { c with
            nullability :=
              if observedAfter o before = .unspecified then c.nullability
              else observedAfter o before
            hasDefault := c.hasDefault || (lastDefault? (before ++ [s])).isSome
            defaultValue := (lastDefault? (before ++ [s])).getD c.defaultValue } := by
  intro start
  have hkept : ∀ {xs}, Quiet o xs → ∀ part, part <+: xs → (start.run part).column = c := by
    rintro xs hxs part ⟨rest, rfl⟩
    rw [run_of_quiet c hxs.of_append]
  rcases quiet_or_fires o steps with hquiet | ⟨before, s, after, rfl, hquiet, hfires⟩
  · exact .inl ⟨hquiet, hkept hquiet⟩
  · exact .inr ⟨before, s, after, rfl, hquiet, hfires, hkept hquiet,
      fun part _ => column_run_of_fires c hquiet hfires part⟩

/-! ### Lost defaults -/

/-- Settling is tried while it is known whether the column admits null, but no default has come. -/
def SettledEarly (o : Nullability) (steps : List DefaultStep) : Prop :=
  ∃ before after, steps = before ++ settle false :: after ∧
    observedAfter o before ≠ .unspecified ∧ lastDefault? before = none

variable {steps after : List DefaultStep}

lemma settledEarly_iff (h : steps ++ [settle true] = before ++ s :: after) (hquiet : Quiet o before)
    (hfires : s.Fires (observedAfter o before)) (hforce : settle true ∉ steps)
    (hdefault : lastDefault? steps ≠ none) :
    SettledEarly o steps ↔ lastDefault? (before ++ [s]) = none := by
  constructor
  · rintro ⟨b, a, rfl, hknown, hnone⟩
    rw [List.append_assoc, List.cons_append] at h
    have hsub := hquiet.before_of_fires h.symm (.inr hknown)
    rw [lastDefault?_eq_none_iff] at hnone ⊢
    intro x hx
    rcases List.mem_append.mp (hsub.subset hx) with hx | hx
    · exact hnone x hx
    · rw [List.mem_singleton.mp hx]
      rfl
  · intro hnone
    rw [lastDefault?_concat, Option.or_eq_none_iff] at hnone
    rcases List.eq_nil_or_concat after with rfl | ⟨after', x, rfl⟩
    · -- the last step of all settles the decision, so every default has come
      obtain ⟨rfl, -⟩ := List.append_inj' h rfl
      exact absurd hnone.2 hdefault
    · rw [List.concat_eq_append, ← List.cons_append, ← List.append_assoc] at h
      obtain ⟨rfl, -⟩ := List.append_inj' h rfl
      obtain ⟨hs, hknown⟩ := settles_of_fires hfires hnone.1 fun e => hforce (by simp [e])
      exact ⟨before, after', by rw [hs], hknown, hnone.2⟩

/-- **Lost defaults**: where a default comes before the decision is forced, the column has one in
the end exactly if it had one from the start, or settling was not tried too early. -/
theorem hasDefault_run_iff (c : Column) (o : Nullability) {steps : List DefaultStep}
    (hforce : settle true ∉ steps) (hdefault : ∃ t, event (.enter (.defaultText t)) ∈ steps) :
    (({ column := c, observed := o } : DefaultRun).run
        (steps ++ [settle true])).column.hasDefault = true ↔
      c.hasDefault = true ∨ ¬ SettledEarly o steps := by
  have hsome : lastDefault? steps ≠ none := by
    obtain ⟨t, ht⟩ := hdefault
    exact fun hnone => Option.some_ne_none _ (lastDefault?_eq_none_iff.mp hnone _ ht)
  rcases quiet_or_fires o (steps ++ [settle true]) with
    hquiet | ⟨before, s, after, h, hquiet, hfires⟩
  · exact absurd (.inl rfl) (hquiet steps (settle true) [] rfl)
  · rw [h, column_run_of_fires c hquiet hfires, settledEarly_iff h hquiet hfires hforce hsome]
    simp [decided, Option.isSome_iff_ne_none]

def defaultFirst : List DefaultStep :=
  [event (.enter (.defaultText ⟨"'x'"⟩)), settle false, observe .nullable, settle false]

theorem hasDefault_run_iff_first :
    settle true ∉ defaultFirst ∧ (∃ t, event (.enter (.defaultText t)) ∈ defaultFirst) ∧
      ¬ SettledEarly .unspecified defaultFirst ∧
      (({ column := { name := "c" } } : DefaultRun).run
        (defaultFirst ++ [settle true])).column.hasDefault = true := by
  have hforce : settle true ∉ defaultFirst := by decide
  have hdefault : ∃ t, event (.enter (.defaultText t)) ∈ defaultFirst :=
    ⟨_, List.mem_cons_self⟩
  have hkept : (({ column := { name := "c" } } : DefaultRun).run
      (defaultFirst ++ [settle true])).column.hasDefault = true := by decide
  have hearly := (hasDefault_run_iff { name := "c" } .unspecified hforce hdefault).mp hkept
  exact ⟨hforce, hdefault, hearly.resolve_left Bool.false_ne_true, hkept⟩

/-- A default after it is known that the column admits no null, and after settling is tried. -/
def defaultLast : List DefaultStep :=
  [observe .notNull, settle false, event (.enter (.defaultText ⟨"'x'"⟩))]

/-- Where settling is tried before a default comes, the default is lost. -/
theorem late_default_lost :
    ¬ ∀ (c : Column) (o : Nullability) (steps : List DefaultStep), settle true ∉ steps →
      (∃ t, event (.enter (.defaultText t)) ∈ steps) →
      (({ column := c, observed := o } : DefaultRun).run
        (steps ++ [settle true])).column.hasDefault = true := by
  intro h
  have hkept := h { name := "c" } .unspecified defaultLast (by decide)
    ⟨⟨"'x'"⟩, by simp [defaultLast]⟩
  revert hkept
  decide

end DefaultRun
end TableSchema
