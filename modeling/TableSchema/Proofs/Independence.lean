import TableSchema.Proofs.Clauses
import TableSchema.Proofs.Typing

/-!
Columns that do not depend on the table they are put into.

The column of a definition is the same beside every table. What the definition does to its table is
to add that column and, in some cases, to make it the key: see `resolveColumn_beside` and
`resolveColumn_table`.
-/

namespace TableSchema

/-- Whether a definition makes its column unique, by a clause or by its type. -/
def ColumnDefinition.isUnique (rules : Rules) (d : ColumnDefinition) : Bool :=
  Text.upperString (rules.resolveType d.type).name = "SERIAL" ||
    d.constraints.any Constraint.isUnique

lemma ColumnDefinition.isUnique_eq_true_iff {rules : Rules} {d : ColumnDefinition} :
    d.isUnique rules = true ↔ .uniqueKey ∈ d.constraints ∨ .serialDefault ∈ d.constraints ∨
      Text.upperString (rules.resolveType d.type).name = "SERIAL" := by
  have hclause : d.constraints.any Constraint.isUnique ↔
      .uniqueKey ∈ d.constraints ∨ .serialDefault ∈ d.constraints := by
    rw [List.any_eq_true]
    constructor
    · rintro ⟨c, hc, hu⟩
      cases c with
      | uniqueKey => exact .inl hc
      | serialDefault => exact .inr hc
      | _ => cases hu
    · rintro (hc | hc)
      · exact ⟨_, hc, rfl⟩
      · exact ⟨_, hc, rfl⟩
  rw [isUnique, Bool.or_eq_true, decide_eq_true_iff, hclause, or_comm, or_assoc]

def ColumnDefinition.keyAfter (rules : Rules) (name : String) (d : ColumnDefinition)
    (key : List String) : List String :=
  if .primaryKey ∈ d.constraints then [name]
  else if d.isUnique rules ∧ key = [] then [name]
  else key

namespace Resolver

variable (rules : Rules) (r : Resolver) (table : Option TableDraft)

/-! ### Apart from tables -/

lemma beside_none_beside : (r.beside table).beside none = r.beside none := by
  simp [beside]

lemma clause_beside_none (c : Constraint) :
    (r.beside none).clause rules c = (r.clause rules c).beside none := by
  cases c with
  | default value =>
    have hp : (r.beside none).pending = r.pending := rfl
    unfold clause notice
    rw [hp]
    rcases r.pending with _ | d <;> rfl
  | comment literal =>
    obtain ⟨text, h⟩ := clause_comment rules literal
    rw [h, h]
    rfl
  | _ => rfl

lemma clauses_beside_none (cs : List Constraint) :
    cs.foldl (clause rules) (r.beside none) = (cs.foldl (clause rules) r).beside none :=
  List.foldl_hom (beside none) fun r c => clause_beside_none rules r c

lemma close_beside_none : (r.beside none).close = r.close.beside none := by
  have hnull : (r.beside none).settleNull = r.settleNull.beside none := by
    unfold settleNull
    have ho : (r.beside none).observed = r.observed := rfl
    rw [ho]
    split_ifs <;> rfl
  have hpromote : ∀ s : Resolver, (s.beside none).promote = s.promote.beside none := by
    intro s
    have hno : (s.beside none).promote = s.beside none := by simp [promote, beside]
    rw [hno]
    unfold promote
    split_ifs <;> rfl
  have hdefault : ∀ s : Resolver, (s.beside none).settleDefault = s.settleDefault.beside none := by
    intro s
    have hp : (s.beside none).pending = s.pending := rfl
    unfold settleDefault
    rw [hp]
    rcases s.pending with _ | d <;> rfl
  unfold close
  rw [hnull, hpromote, hdefault]

/-- Two states that are equal apart from their tables make the same column. -/
lemma column_eq_of_beside {r s : Resolver} (h : r.beside none = s.beside none)
    (cs : List Constraint) :
    (cs.foldl (clause rules) r).close.column = (cs.foldl (clause rules) s).close.column := by
  have hcolumn : ∀ q : Resolver, (q.beside none).column = q.column := fun _ => rfl
  have hq : ∀ q : Resolver, (cs.foldl (clause rules) q).close.column =
      (cs.foldl (clause rules) (q.beside none)).close.column := by
    intro q
    rw [clauses_beside_none, close_beside_none, hcolumn]
  rw [hq r, hq s, h]

end Resolver

/-! ### Definitions -/

open Resolver

variable {rules : Rules} {name : String} {d : ColumnDefinition}

/-- **Independence**: what comes of a definition is the same beside every table. -/
theorem resolveColumn_beside (u u' : TableDraft) :
    (resolveColumn rules name d (some u)).result =
      (resolveColumn rules name d (some u')).result := by
  have hb := enterDefinition_beside rules d.type name u u'
  rcases h : enterDefinition rules d.type { column := { name }, table := some u } with
    ⟨⟨⟩, s⟩ | ⟨e, s⟩
  · -- apart from tables, both definitions go on from the same state
    rw [h] at hb
    rw [resolveColumn_of_ok h, resolveColumn_of_ok hb]
    have hs : s.beside none = (s.beside (some u')).beside none :=
      (beside_none_beside s (some u')).symm
    exact congrArg Except.ok (column_eq_of_beside rules hs d.constraints)
  · rw [h] at hb
    rw [resolveColumn_of_error h, resolveColumn_of_error hb]

lemma resolveColumn_ok {table : Option TableDraft} {c : Column}
    (h : (resolveColumn rules name d table).result = .ok c) :
    ∃ s, Entered (decide (Text.upperString (rules.resolveType d.type).name = "SERIAL")) name table
        s ∧ (d.constraints.foldl (clause rules) s).close.column = c ∧
      (resolveColumn rules name d table).table =
        (d.constraints.foldl (clause rules) s).close.table.map (·.add c) := by
  rcases he : enterDefinition rules d.type { column := { name }, table } with ⟨⟨⟩, s⟩ | ⟨e, s⟩
  · rw [resolveColumn_of_ok he] at h ⊢
    obtain rfl := Except.ok.inj h
    exact ⟨s, enterDefinition_ok he, rfl, rfl⟩
  · rw [resolveColumn_of_error he] at h
    cases h

lemma resolveColumn_name {table : Option TableDraft} {c : Column}
    (h : (resolveColumn rules name d table).result = .ok c) : c.name = name := by
  obtain ⟨s, hs, rfl, -⟩ := resolveColumn_ok h
  rw [name_close, name_clauses, hs.name]

/-- Of the clauses that say whether null is admitted the last one decides. -/
lemma resolveColumn_nullability {table : Option TableDraft} {c : Column} {n : Nullability}
    (h : (resolveColumn rules name d table).result = .ok c)
    (hn : d.constraints.reverse.findSome? Constraint.nullability? = some n) :
    c.nullability = n := by
  obtain ⟨s, hs, rfl, -⟩ := resolveColumn_ok h
  have hagrees : s.Agrees := fun _ => hs.nullability
  rw [nullability_close (agrees_clauses rules hagrees d.constraints), observed_clauses rules hn]

theorem resolveColumn_table {t : TableDraft} {c : Column}
    (h : (resolveColumn rules name d (some t)).result = .ok c) :
    (resolveColumn rules name d (some t)).table =
      some { t.add c with primaryKey := d.keyAfter rules name t.primaryKey } := by
  have hname : c.name = name := resolveColumn_name h
  obtain ⟨s, hs, -, htable⟩ := resolveColumn_ok h
  have hstart : Draws name t t.primaryKey s := ⟨hs.name, t, hs.table, .refl name t, rfl⟩
  have hclauses := hstart.clauses rules d.constraints
  obtain ⟨u, hu, hcovers, hkey⟩ := hclauses.close.drawn
  have hmark : (d.constraints.foldl (clause rules) s).promotable = d.isUnique rules := by
    rw [promotable_clauses, hs.promotable, ColumnDefinition.isUnique]
  have hafter : u.primaryKey = d.keyAfter rules name t.primaryKey := by
    rw [hkey, hmark, ColumnDefinition.keyAfter]
    by_cases hp : .primaryKey ∈ d.constraints
    · simp [hp]
    · simp [hp]
  rw [htable, hu, Option.map_some, hcovers c hname, hafter]

end TableSchema
