import TableSchema.Proofs.Order

/-!
Columns without a table.

A definition can be resolved with no table at hand. Then no key is set and no default is decided,
and what the column says of null is settled only at the end. The two runs of a definition, with a
table and without, agree at every clause in all that a table has no part in: see `bare_clause`. So
they end in the same failure, or in columns that differ in their default alone.
-/

namespace TableSchema

def Column.withoutDefault (c : Column) : Column :=
  { c with hasDefault := false, defaultValue := none }

lemma DefaultDecision.settle_eq (force : Bool) (o : Nullability) (d : DefaultDecision)
    (c : Column) :
    ∃ d' nullability hasDefault value, d.settle force o c =
      (d', { c with
        nullability := nullability, hasDefault := hasDefault, defaultValue := value }) := by
  unfold settle give
  split_ifs <;> rcases d.seen with _ | value <;> exact ⟨_, _, _, _, rfl⟩

namespace Resolver

variable (rules : Rules) {r s : Resolver}

/-! ### What a table has no part in -/

/-- A state without its table and its diagnostics, its default and what the column says of null so
far. -/
def bare (r : Resolver) : Resolver where
  column := { r.column.withoutDefault with nullability := .unspecified }
  observed := r.observed
  promotable := r.promotable

/-- Taking note of a part changes nothing but what clauses write, the comment aside. -/
lemma notice_eq_after (n : Node) (r : Resolver) :
    ∃ k : Clausal, k.comment = r.column.comment ∧ r.notice n = r.after k := by
  unfold notice DefaultDecision.notice
  rcases hp : r.pending with _ | d
  · exact ⟨r.clausal, rfl, r.after_clausal.symm⟩
  · cases n with
    | defaultText t =>
      obtain ⟨d', nullability, hasDefault, value, h⟩ := DefaultDecision.settle_eq false r.observed
        { d with seen := some (defaultExpression t.text) } r.column
      refine ⟨⟨nullability, r.column.comment, hasDefault, value, some d'⟩, rfl, ?_⟩
      dsimp only
      rw [h]
      rfl
    | _ => exact ⟨{ r.clausal with pending := some d }, rfl, rfl⟩

lemma bare_notice (n : Node) (r : Resolver) : (r.notice n).bare = r.bare := by
  obtain ⟨k, hk, h⟩ := notice_eq_after n r
  rw [h, bare, bare, Resolver.after, hk]
  rfl

/-- **One clause**: what it makes of a state, apart from the table, depends on no table. -/
lemma bare_clause (c : Constraint) (r : Resolver) :
    (r.clause rules c).bare = (r.bare.clause rules c).bare := by
  cases c with
  | default value =>
    rw [clause, clause, bare_notice, bare_notice]
    rfl
  | comment literal =>
    obtain ⟨text, h⟩ := clause_comment rules literal
    rw [h, h]
    rfl
  | _ => rfl

lemma bare_clauses (h : r.bare = s.bare) (cs : List Constraint) :
    (cs.foldl (clause rules) r).bare = (cs.foldl (clause rules) s).bare := by
  induction cs generalizing r s with
  | nil => exact h
  | cons c cs ih =>
    refine ih ?_
    rw [bare_clause, h, ← bare_clause]

/-- But for its default, the finished column is settled by what a table has no part in. -/
lemma withoutDefault_close (h : r.Agrees) :
    r.close.column.withoutDefault = { r.bare.column with nullability := r.bare.observed } := by
  rw [column_close h]
  rfl

/-! ### Without a table -/

structure NoDefault (r : Resolver) : Prop where
  pending : r.pending = none
  hasDefault : r.column.hasDefault = false
  defaultValue : r.column.defaultValue = none

lemma NoDefault.clause (h : r.NoDefault) (c : Constraint) : (r.clause rules c).NoDefault := by
  cases c with
  | default value =>
    have hnotice : r.notice (.defaultText value) = r := by rw [notice, h.pending]
    rwa [Resolver.clause, hnotice]
  | comment literal =>
    obtain ⟨text, heq⟩ := clause_comment rules literal
    rw [heq]
    exact ⟨h.pending, h.hasDefault, h.defaultValue⟩
  | _ => exact ⟨h.pending, h.hasDefault, h.defaultValue⟩

lemma NoDefault.clauses (h : r.NoDefault) (cs : List Constraint) :
    (cs.foldl (Resolver.clause rules) r).NoDefault := by
  induction cs generalizing r with
  | nil => exact h
  | cons c cs ih => exact ih (h.clause rules c)

lemma NoDefault.close (h : r.NoDefault) (ha : r.Agrees) :
    r.close.column.withoutDefault = r.close.column := by
  have hdue : r.due? = none := by rw [due?, h.pending]; rfl
  rw [column_close ha, hdue]
  simp [Column.withoutDefault, h.hasDefault, h.defaultValue]

/-! ### The start of a definition -/

variable {t : ColumnType} {name : String} {u : TableDraft}

/-- Without a table a definition starts the same way, but for the default to be decided. -/
lemma enterDefinition_alone_ok
    (h : enterDefinition rules t { column := { name }, table := some u } = .ok () s) :
    ∃ r, enterDefinition rules t { column := { name } } = .ok () r ∧ r.bare = s.bare ∧
      r.diagnostics = s.diagnostics.map (fun d => { d with table := none }) ∧ r.NoDefault := by
  have hb : resolveType rules t { column := { name } } =
      endBeside none (resolveType rules t { column := { name }, table := some u }) :=
    (reads_resolveType rules t).beside none { column := { name }, table := some u }
  rw [enterDefinition_new] at h
  rcases hr : resolveType rules t { column := { name }, table := some u } with ⟨⟨⟩, s'⟩ | ⟨e, s'⟩
  · rw [hr] at hb
    rw [bind_ok hr, modify_apply] at h
    cases h
    have hstart : enterDefinition rules t { column := { name } } = .ok () (s'.beside none) := by
      rw [enterDefinition_new, bind_ok hb, modify_apply]
      rfl
    have hkept : s'.clausal = clausal { column := { name } } := by
      have h := (reads_resolveType rules t).clausal_ending
        { column := { name }, table := some u }
      rwa [hr] at h
    have hopen : ∀ q : Resolver, (openDefault q).bare = q.bare ∧
        (openDefault q).diagnostics = q.diagnostics := by
      intro q
      unfold openDefault
      split_ifs <;> exact ⟨rfl, rfl⟩
    refine ⟨s'.beside none, hstart, ?_, ?_, ?_⟩
    · rw [(hopen s').1]
      rfl
    · rw [(hopen s').2]
      rfl
    · exact ⟨congrArg Clausal.pending hkept, congrArg Clausal.hasDefault hkept,
        congrArg Clausal.defaultValue hkept⟩
  · rw [bind_error hr] at h
    cases h

lemma enterDefinition_alone_error {e : ResolveError}
    (h : enterDefinition rules t { column := { name }, table := some u } = .error e s) :
    enterDefinition rules t { column := { name } } = .error e (s.beside none) := by
  have hb : resolveType rules t { column := { name } } =
      endBeside none (resolveType rules t { column := { name }, table := some u }) :=
    (reads_resolveType rules t).beside none { column := { name }, table := some u }
  rw [enterDefinition_new] at h
  rcases hr : resolveType rules t { column := { name }, table := some u } with ⟨⟨⟩, s'⟩ | ⟨e', s'⟩
  · rw [bind_ok hr] at h
    cases h
  · rw [hr] at hb
    rw [bind_error hr] at h
    cases h
    rw [enterDefinition_new, bind_error hb]

end Resolver

/-! ### Definitions -/

open Resolver

variable {rules : Rules} {name : String} {d : ColumnDefinition} {u : TableDraft}

lemma resolveColumn_alone_of_ok {s : Resolver}
    (h : enterDefinition rules d.type { column := { name }, table := some u } = .ok () s) :
    (resolveColumn rules name d).result =
        (resolveColumn rules name d (some u)).result.map Column.withoutDefault ∧
      (resolveColumn rules name d).diagnostics =
        (resolveColumn rules name d (some u)).diagnostics.map
          fun x => { x with table := none } := by
  obtain ⟨r, hr, hbare, hdiagnostics, hnone⟩ := enterDefinition_alone_ok rules h
  have hrAgrees : r.Agrees := fun _ => (enterDefinition_ok hr).nullability
  have hsAgrees : s.Agrees := fun _ => (enterDefinition_ok h).nullability
  have hcolumn : (d.constraints.foldl (clause rules) r).close.column =
      (d.constraints.foldl (clause rules) s).close.column.withoutDefault := by
    rw [← (hnone.clauses rules d.constraints).close (agrees_clauses rules hrAgrees d.constraints),
      withoutDefault_close (agrees_clauses rules hrAgrees d.constraints),
      withoutDefault_close (agrees_clauses rules hsAgrees d.constraints),
      bare_clauses rules hbare d.constraints]
  rw [resolveColumn_of_ok h, resolveColumn_of_ok hr]
  refine ⟨congrArg Except.ok hcolumn, ?_⟩
  simp only [diagnostics_close, diagnostics_clauses]
  exact hdiagnostics

/-- **With a table and without**: a definition fails alike, or has the same column but for the
default, which is left open where there is no table. The lengths that were cut are the same, and the
table named with them is the one at hand. What else a table holds makes no difference. -/
theorem resolveColumn_alone (rules : Rules) (name : String) (d : ColumnDefinition)
    (u : TableDraft) :
    let alone := resolveColumn rules name d
    let beside := resolveColumn rules name d (some u)
    alone.result = beside.result.map Column.withoutDefault ∧
      alone.diagnostics = beside.diagnostics.map (fun x => { x with table := none }) ∧
      ∀ u', (resolveColumn rules name d (some u')).result = beside.result := by
  intro alone beside
  have hpair : alone.result = beside.result.map Column.withoutDefault ∧
      alone.diagnostics = beside.diagnostics.map fun x => { x with table := none } := by
    rcases h : enterDefinition rules d.type { column := { name }, table := some u } with
      ⟨⟨⟩, s⟩ | ⟨e, s⟩
    · exact resolveColumn_alone_of_ok h
    · show (resolveColumn rules name d).result = _ ∧ (resolveColumn rules name d).diagnostics = _
      rw [resolveColumn_of_error (enterDefinition_alone_error rules h)]
      show _ = (resolveColumn rules name d (some u)).result.map _ ∧
        _ = (resolveColumn rules name d (some u)).diagnostics.map _
      rw [resolveColumn_of_error h]
      exact ⟨rfl, rfl⟩
  exact ⟨hpair.1, hpair.2, fun u' => resolveColumn_beside u' u⟩

end TableSchema
