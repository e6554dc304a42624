import TableSchema.Proofs.Typing

/-!
Resolvers that have been used before.

What is known only for the time of one definition is set anew when the next one is entered, whatever
came before: definitions that failed, that were never left, or steps in any order. Of all this only
the column, the table and the diagnostics tell. The invariant behind it is that a default is pending
only beside a table, which every step keeps.
-/

namespace TableSchema

namespace Resolver

/-! ### Histories -/

/-- What can be done to a resolver: a single step, or the visit of a part, by rules of its own. -/
inductive Move where
  | step (rules : Rules) (e : Event)
  | walk (rules : Rules) (n : Node)

/-- A move. A visit that fails leaves what was done before it. -/
def Move.run : Move → Resolving Unit
  | step rules e => handle rules e
  | walk rules n => Resolver.run rules n.visit

/-- The states of a resolver that was new once. A move that fails does not end its history. -/
inductive Reached : Resolver → Prop where
  | new (column : Column) (table : Option TableDraft) (diagnostics : List LengthDiagnostic) :
    Reached { column, table, diagnostics }
  | move {r : Resolver} (h : Reached r) (m : Move) : Reached (ending (m.run r))

def lasting (r : Resolver) : Column × Option TableDraft × List LengthDiagnostic :=
  (r.column, r.table, r.diagnostics)

/-- How some steps end, and what outlasts them. -/
def outcome :
    EStateM.Result ResolveError Resolver Unit →
      Except ResolveError Unit × Column × Option TableDraft × List LengthDiagnostic
  | .ok () s => (.ok (), s.lasting)
  | .error e s => (.error e, s.lasting)

variable (rules : Rules) {r s : Resolver}

/-! ### The invariant -/

/-- Without a table no default is pending. -/
def Tethered (r : Resolver) : Prop := r.table = none → r.pending = none

lemma Tethered.of_eq (h : r.Tethered) (ht : s.table = none → r.table = none)
    (hp : s.pending = r.pending) : s.Tethered :=
  fun hs => hp.trans (h (ht hs))

lemma Tethered.notice (h : r.Tethered) (n : Node) : (r.notice n).Tethered := by
  unfold Resolver.notice
  split
  · exact h
  · next d hd =>
    intro ht
    rw [h ht] at hd
    cases hd

lemma enterDefinition_eq (t : ColumnType) (r : Resolver) :
    enterDefinition rules t r = (resolveType rules t >>= fun _ => modify openDefault)
      { r with promotable := false, observed := .unspecified } := rfl

lemma Tethered.enterDefinition (h : r.Tethered) (t : ColumnType) :
    (ending (enterDefinition rules t r)).Tethered := by
  have hk := (reads_resolveType rules t).keeps
    { r with promotable := false, observed := .unspecified }
  rw [enterDefinition_eq]
  rcases hr : resolveType rules t { r with promotable := false, observed := .unspecified } with
    ⟨⟨⟩, s⟩ | ⟨e, s⟩
  · rw [hr] at hk
    have hs : s.Tethered := h.of_eq (fun hs => hk.table.symm.trans hs) hk.pending
    rw [bind_ok hr, modify_apply, ending, openDefault]
    split_ifs with ht
    · intro hno
      rw [show s.table = none from hno] at ht
      cases ht
    · exact hs
  · rw [hr] at hk
    rw [bind_error hr]
    exact h.of_eq (fun hs => hk.table.symm.trans hs) hk.pending

lemma apply_of_ne {n : Node} (hn : ∀ d, n ≠ .definition d) (r : Resolver) :
    ∃ s, apply rules n r = .ok () s ∧ (s.table = none → r.table = none) ∧
      s.pending = r.pending := by
  cases n with
  | definition d => exact absurd rfl (hn d)
  | constraint c =>
    cases c with
    | primaryKey =>
      refine ⟨keyed { r with
        observed := .notNull, column := { r.column with nullability := .notNull } }, ?_, ?_, rfl⟩
      · show (modify _ >>= fun _ => makeKey) r = _
        rw [bind_ok (modify_apply _ _), makeKey_eq]
      · exact Option.map_eq_none_iff.mp
    | comment literal =>
      rcases literal with _ | literal
      · exact ⟨r, rfl, id, rfl⟩
      · unfold apply
        split_ifs
        · exact ⟨r, rfl, id, rfl⟩
        · exact ⟨_, rfl, id, rfl⟩
    | _ => exact ⟨_, rfl, id, rfl⟩
  | _ => exact ⟨_, rfl, id, rfl⟩

lemma pending_close (r : Resolver) : r.close.pending = none := by
  unfold close settleDefault
  split
  · next h => exact h
  · rfl

/-- **One step** keeps the invariant, failed or not. -/
lemma Tethered.handle (h : r.Tethered) (e : Event) : (ending (handle rules e r)).Tethered := by
  cases e with
  | enter n =>
    by_cases hn : ∀ d, n ≠ .definition d
    · obtain ⟨s, hs, htable, hpending⟩ := apply_of_ne rules hn r
      have hstep : Resolver.handle rules (.enter n) r = .ok () (s.notice n) := by
        show (apply rules n >>= fun _ => modify (Resolver.notice n)) r = _
        rw [bind_ok hs, modify_apply]
      rw [hstep]
      exact (h.of_eq htable hpending).notice n
    · obtain ⟨d, rfl⟩ : ∃ d, n = .definition d := by simpa using hn
      have henter := h.enterDefinition rules d.type
      have hstep : Resolver.handle rules (.enter (.definition d)) r =
          (Resolver.enterDefinition rules d.type >>= fun _ =>
            modify (Resolver.notice (.definition d))) r := rfl
      rw [hstep]
      rcases he : Resolver.enterDefinition rules d.type r with ⟨⟨⟩, s⟩ | ⟨e, s⟩
      · rw [he] at henter
        rw [bind_ok he, modify_apply]
        have hentered : s.Tethered := henter
        show (s.notice (.definition d)).Tethered
        exact hentered.notice _
      · rw [he] at henter
        rw [bind_error he]
        exact henter
  | leave n =>
    cases n with
    | definition d =>
      show (ending (leaveDefinition r)).Tethered
      rw [leaveDefinition_eq]
      exact fun _ => pending_close r
    | _ => exact h

lemma Tethered.run (h : r.Tethered) (es : List Event) : (ending (run rules es r)).Tethered := by
  induction es generalizing r with
  | nil => exact h
  | cons e es ih =>
    have hstep := h.handle rules e
    rw [run_cons]
    rcases he : Resolver.handle rules e r with ⟨⟨⟩, s⟩ | ⟨e', s⟩
    · rw [he] at hstep
      rw [bind_ok he]
      exact ih hstep
    · rw [he] at hstep
      rw [bind_error he]
      exact hstep

/-- **Histories** keep the invariant. -/
lemma Reached.tethered (h : Reached r) : r.Tethered := by
  induction h with
  | new column table diagnostics => exact fun _ => rfl
  | move _ m ih =>
    cases m with
    | step rules e => exact ih.handle rules e
    | walk rules n => exact ih.run rules n.visit

/-! ### Entering a definition -/

lemma resolveType_pending (t : ColumnType) (pending : Option DefaultDecision) (r : Resolver) :
    (∃ q, resolveType rules t r = .ok () q ∧
        resolveType rules t { r with pending } = .ok () { q with pending }) ∨
      ∃ e q, resolveType rules t r = .error e q ∧
        resolveType rules t { r with pending } = .error e { q with pending } := by
  have hother : resolveType rules t { r with pending } =
      endAfter { r.clausal with pending } (resolveType rules t r) :=
    (reads_resolveType rules t).after { r.clausal with pending } r
  have hkept := (reads_resolveType rules t).clausal_ending r
  rcases hr : resolveType rules t r with ⟨⟨⟩, q⟩ | ⟨e, q⟩
  all_goals
    rw [hr] at hother hkept
    rw [← hkept] at hother
  · exact .inl ⟨q, rfl, hother⟩
  · exact .inr ⟨e, q, rfl, hother⟩

/-- Where the same has lasted a definition is entered alike: after it the states are the same, or
both have failed for the same reason and the same has lasted again. -/
lemma enterDefinition_of_lasting (hr : r.Tethered) (hs : s.Tethered)
    (h : r.lasting = s.lasting) (t : ColumnType) :
    (∃ q, enterDefinition rules t r = .ok () q ∧ enterDefinition rules t s = .ok () q) ∨
      ∃ e q q', enterDefinition rules t r = .error e q ∧
        enterDefinition rules t s = .error e q' ∧ q.lasting = q'.lasting := by
  obtain ⟨hcolumn, htable, hdiagnostics⟩ : r.column = s.column ∧ r.table = s.table ∧
      r.diagnostics = s.diagnostics := by simpa [lasting] using h
  rw [enterDefinition_eq, enterDefinition_eq]
  set start : Resolver := { r with promotable := false, observed := .unspecified } with hstart
  -- entered, the two differ at most in the default that was pending before
  have hother : ({ s with promotable := false, observed := .unspecified } : Resolver) =
      { start with pending := s.pending } := by
    rw [hstart, hcolumn, htable, hdiagnostics]
  rw [hother]
  rcases resolveType_pending rules t s.pending start with ⟨q, hq, hq'⟩ | ⟨e, q, hq, hq'⟩
  · refine .inl ⟨openDefault q, by rw [bind_ok hq, modify_apply], ?_⟩
    rw [bind_ok hq', modify_apply]
    have hk := (reads_resolveType rules t).keeps start
    rw [hq] at hk
    have hqt : q.table = r.table := hk.table
    rcases ht : r.table with _ | u
    · -- without a table nothing was pending
      have hqp : q.pending = r.pending := hk.pending
      have hp : s.pending = q.pending := by rw [hqp, hr ht, hs (htable.symm.trans ht)]
      rw [hp]
    · simp [openDefault, hqt, ht]
  · exact .inr ⟨e, q, { q with pending := s.pending }, by rw [bind_error hq],
      by rw [bind_error hq'], rfl⟩

/-- **No leaks**: of two resolvers with any histories, those with the same column, table and
diagnostics do the same with a definition: both visits succeed, or both fail for the same reason,
and the same column, table and diagnostics remain. After a visit that succeeds no default is
pending. -/
theorem run_definition_of_lasting (hr : Reached r) (hs : Reached s) (h : r.lasting = s.lasting)
    (d : ColumnDefinition) :
    outcome (run rules (Node.definition d).visit r) =
        outcome (run rules (Node.definition d).visit s) ∧
      ∀ r', run rules (Node.definition d).visit r = .ok () r' → r'.pending = none := by
  rw [run_visit_definition]
  refine ⟨?_, fun r' h' => ?_⟩
  · rcases enterDefinition_of_lasting rules hr.tethered hs.tethered h d.type with
      ⟨q, hq, hq'⟩ | ⟨e, q, q', hq, hq', hlasting⟩
    · rw [bind_ok hq, bind_ok hq']
    · rw [bind_error hq, bind_error hq', outcome, outcome, hlasting]
  · rcases he : enterDefinition rules d.type r with ⟨⟨⟩, q⟩ | ⟨e, q⟩
    · rw [bind_ok he, modify_apply] at h'
      cases h'
      exact pending_close _
    · rw [bind_error he] at h'
      cases h'

/-- A definition that fails, then one that is entered, has a unique column and a default, and is
never left. -/
def interrupted : List Move := [
  .walk {} (.definition { type := .string "CHAR" (some ⟨"x"⟩) none none }),
  .step {} (.enter (.definition { type := .simple "UUID" false false })),
  .step {} (.enter (.constraint .uniqueKey)),
  .step {} (.enter (.defaultText ⟨"'a'"⟩))]

def used : Resolver :=
  interrupted.foldl (fun r m => ending (m.run r)) {
    column := { name := "a" }, table := some { id := { table := "t" } } }

def renewed : Resolver :=
  { column := used.column, table := used.table, diagnostics := used.diagnostics }

lemma reached_foldl (h : Reached r) (moves : List Move) :
    Reached (moves.foldl (fun r m => ending (m.run r)) r) := by
  induction moves generalizing r with
  | nil => exact h
  | cons m moves ih => exact ih (h.move m)

theorem run_definition_of_lasting_interrupted :
    Reached used ∧ Reached renewed ∧ used.lasting = renewed.lasting ∧
      used.promotable = true ∧ renewed.promotable = false ∧
      outcome (run {} (Node.definition { type := .simple "INT" false false }).visit used) =
        outcome (run {} (Node.definition { type := .simple "INT" false false }).visit renewed) ∧
      ∀ r', run {} (Node.definition { type := .simple "INT" false false }).visit used = .ok () r' →
        r'.pending = none := by
  have hused : Reached used := reached_foldl (.new _ _ _) interrupted
  have hrenewed : Reached renewed := .new _ _ _
  have h := run_definition_of_lasting {} hused hrenewed rfl { type := .simple "INT" false false }
  exact ⟨hused, hrenewed, rfl, rfl, rfl, h.1, h.2⟩

end Resolver
end TableSchema
