import TableSchema.Proofs.Visit
import Mathlib.Data.List.Induction

/-!
What the clauses of a definition come to.

The name of the column stays. Each clause may put the column into the table ahead of time, and it
may say whether null is admitted: of clauses that say so the last one decides. A table that holds
the column ahead of time differs from the table before in what stands under that one name, which is
settled when the definition ends.
-/

namespace TableSchema

namespace DefaultDecision

variable (force : Bool) (o : Nullability) (d : DefaultDecision) (c : Column)

lemma name_settle : (d.settle force o c).2.name = c.name := by
  unfold settle give
  split_ifs <;> rcases d.seen with _ | value <;> rfl

lemma nullability_settle :
    (d.settle force o c).2.nullability = c.nullability ∨
      o ≠ .unspecified ∧ (d.settle force o c).2.nullability = o := by
  unfold settle give
  split_ifs with hs ho hf
  · exact .inl rfl
  · rcases d.seen with _ | value <;> exact .inl rfl
  · exact .inl rfl
  · rcases d.seen with _ | value <;> exact .inr ⟨ho, rfl⟩

end DefaultDecision

def Constraint.isUnique : Constraint → Bool
  | .uniqueKey | .serialDefault => true
  | _ => false

/-- What a clause says about null on its own. -/
def Constraint.nullability? : Constraint → Option Nullability
  | .null mark => some (if mark.notNull then .notNull else .nullable)
  | .primaryKey => some .notNull
  | _ => none

lemma Constraint.nullability?_ne {c : Constraint} {n : Nullability} (h : c.nullability? = some n) :
    n ≠ .unspecified := by
  rintro rfl
  cases c with
  | null mark =>
    obtain ⟨notNull⟩ := mark
    cases notNull <;> cases h
  | _ => cases h

namespace Resolver

variable (rules : Rules) (r : Resolver)

/-! ### Single steps -/

lemma clause_comment (literal : Option String) :
    ∃ text : Option String → Option String, ∀ r, clause rules r (.comment literal) =
      r.onColumn fun c => { c with comment := text c.comment } := by
  rcases literal with _ | literal
  · exact ⟨id, fun _ => rfl⟩
  · by_cases h : rules.skipComments
    · exact ⟨id, fun _ => if_pos h⟩
    · exact ⟨fun _ => some (Text.unquoted literal), fun _ => if_neg h⟩

/-- Taking note of a part changes the pending default and the column, but not its name, and what
the column says about null only once that is known. -/
lemma notice_eq (n : Node) :
    ∃ pending column, r.notice n = { r with pending, column } ∧
      column.name = r.column.name ∧
      (r.observed = .unspecified → column.nullability = r.column.nullability) := by
  unfold notice DefaultDecision.notice
  rcases r.pending with _ | d
  · exact ⟨_, _, rfl, rfl, fun _ => rfl⟩
  · cases n with
    | defaultText t =>
      refine ⟨_, _, rfl, DefaultDecision.name_settle .., fun ho => ?_⟩
      exact (DefaultDecision.nullability_settle ..).resolve_right fun hne => hne.1 ho
    | _ => exact ⟨_, _, rfl, rfl, fun _ => rfl⟩

@[simp] lemma name_settleNull : r.settleNull.column.name = r.column.name := by
  unfold settleNull
  split_ifs <;> rfl

@[simp] lemma observed_settleNull : r.settleNull.observed = r.observed := by
  unfold settleNull
  split_ifs <;> rfl

@[simp] lemma promotable_settleNull : r.settleNull.promotable = r.promotable := by
  unfold settleNull
  split_ifs <;> rfl

@[simp] lemma table_settleNull : r.settleNull.table = r.table := by
  unfold settleNull
  split_ifs <;> rfl

@[simp] lemma column_promote : r.promote.column = r.column := by
  unfold promote
  split_ifs <;> rfl

@[simp] lemma observed_promote : r.promote.observed = r.observed := by
  unfold promote
  split_ifs <;> rfl

@[simp] lemma name_settleDefault : r.settleDefault.column.name = r.column.name := by
  unfold settleDefault
  split
  · rfl
  · exact DefaultDecision.name_settle ..

@[simp] lemma table_settleDefault : r.settleDefault.table = r.table := by
  unfold settleDefault
  split <;> rfl

/-! ### The name and the mark -/

lemma name_clause (c : Constraint) : (r.clause rules c).column.name = r.column.name := by
  cases c with
  | default value =>
    obtain ⟨pending, column, h, hname, -⟩ := notice_eq r (.defaultText value)
    rw [clause, h]
    exact hname
  | comment literal =>
    obtain ⟨text, h⟩ := clause_comment rules literal
    rw [h]
    rfl
  | _ => rfl

lemma promotable_clause (c : Constraint) :
    (r.clause rules c).promotable = (r.promotable || c.isUnique) := by
  cases c with
  | default value =>
    obtain ⟨pending, column, h, -⟩ := notice_eq r (.defaultText value)
    rw [clause, h]
    exact (Bool.or_false _).symm
  | comment literal =>
    obtain ⟨text, h⟩ := clause_comment rules literal
    rw [h]
    exact (Bool.or_false _).symm
  | _ => simp [clause, onColumn, keyed, makeSerial, Constraint.isUnique]

lemma name_clauses (cs : List Constraint) :
    (cs.foldl (clause rules) r).column.name = r.column.name := by
  induction cs generalizing r with
  | nil => rfl
  | cons c cs ih => rw [List.foldl_cons, ih, name_clause]

lemma promotable_clauses (cs : List Constraint) :
    (cs.foldl (clause rules) r).promotable = (r.promotable || cs.any Constraint.isUnique) := by
  induction cs generalizing r with
  | nil => simp
  | cons c cs ih => rw [List.foldl_cons, ih, promotable_clause, List.any_cons, Bool.or_assoc]

lemma name_close : r.close.column.name = r.column.name := by
  unfold close
  simp

/-! ### Null -/

/-- A column says nothing about null as long as nothing was observed. -/
def Agrees : Prop := r.observed = .unspecified → r.column.nullability = .unspecified

variable {r}

lemma agrees_clause (h : r.Agrees) (c : Constraint) : (r.clause rules c).Agrees := by
  cases c with
  | null mark =>
    intro ho
    obtain ⟨notNull⟩ := mark
    cases notNull <;> cases ho
  | default value =>
    obtain ⟨pending, column, heq, -, hnull⟩ := notice_eq r (.defaultText value)
    rw [clause, heq]
    exact fun ho => (hnull ho).trans (h ho)
  | primaryKey => exact fun ho => by cases ho
  | comment literal =>
    obtain ⟨text, heq⟩ := clause_comment rules literal
    rw [heq]
    exact h
  | serialDefault =>
    intro ho
    simp only [clause, makeSerial] at ho
    split_ifs at ho with hr
    exact absurd ho hr
  | autoIncrement | uniqueKey => exact h

lemma agrees_clauses (h : r.Agrees) (cs : List Constraint) :
    (cs.foldl (clause rules) r).Agrees := by
  induction cs generalizing r with
  | nil => exact h
  | cons c cs ih => exact ih (agrees_clause rules h c)

lemma nullability_close (h : r.Agrees) : r.close.column.nullability = r.observed := by
  have hnull : r.settleNull.column.nullability = r.observed := by
    unfold settleNull
    split_ifs with ho
    · rw [h ho, ho]
    · rfl
  unfold close settleDefault
  split
  · rw [column_promote, hnull]
  · next d _ =>
    rcases d.nullability_settle true r.settleNull.promote.observed
      r.settleNull.promote.column with hs | ⟨-, hs⟩
    · rw [hs, column_promote, hnull]
    · rw [hs, observed_promote, observed_settleNull]

lemma observed_clause_some {c : Constraint} {n : Nullability} (h : c.nullability? = some n) :
    (r.clause rules c).observed = n := by
  cases c with
  | null mark => exact Option.some.inj h
  | primaryKey => exact Option.some.inj h
  | _ => cases h

lemma observed_clause_none {c : Constraint} (h : c.nullability? = none)
    (hr : r.observed ≠ .unspecified) : (r.clause rules c).observed = r.observed := by
  cases c with
  | null mark => cases h
  | primaryKey => cases h
  | default value =>
    obtain ⟨pending, column, heq, -⟩ := notice_eq r (.defaultText value)
    rw [clause, heq]
  | serialDefault => exact if_neg hr
  | comment literal =>
    obtain ⟨text, heq⟩ := clause_comment rules literal
    rw [heq]
    rfl
  | autoIncrement | uniqueKey => rfl

/-- Of clauses that say whether null is admitted the last one decides. -/
lemma observed_clauses {cs : List Constraint} {n : Nullability}
    (h : cs.reverse.findSome? Constraint.nullability? = some n) :
    (cs.foldl (clause rules) r).observed = n := by
  induction cs using List.reverseRecOn with
  | nil => cases h
  | append_singleton cs c ih =>
    rw [List.reverse_append, List.reverse_singleton, List.singleton_append,
      List.findSome?_cons] at h
    rw [List.foldl_append, List.foldl_cons, List.foldl_nil]
    rcases hc : c.nullability? with _ | m
    · rw [hc] at h
      have hn : n ≠ .unspecified := by
        obtain ⟨c', -, hc'⟩ := List.exists_of_findSome?_eq_some h
        exact Constraint.nullability?_ne hc'
      rw [observed_clause_none rules hc (by rwa [ih h]), ih h]
    · rw [hc] at h
      rw [observed_clause_some rules hc]
      exact Option.some.inj h

/-! ### The table -/

/-- `u` is `t` but for the key and for what stands under a name. -/
def Covers (name : String) (t u : TableDraft) : Prop :=
  ∀ c : Column, c.name = name → u.add c = { t.add c with primaryKey := u.primaryKey }

lemma Covers.refl (name : String) (t : TableDraft) : Covers name t t := fun _ _ => rfl

lemma Covers.keyed {name : String} {t u : TableDraft} (h : Covers name t u) {c : Column}
    (hc : c.name = name) (key : List String) :
    Covers name t { u.add c with primaryKey := key } := by
  intro d hd
  have hkey : c.key = d.key := by rw [Column.key, Column.key, hc, hd]
  have hid : (u.add d).id = t.id := by rw [h d hd]; rfl
  have hcolumns : (u.add d).columns = (t.add d).columns := by rw [h d hd]
  have habsorb : (({ u.add c with primaryKey := key } : TableDraft).add d).columns =
      (u.add d).columns := TableDraft.placeColumn_placeColumn hkey 0 u.columns
  -- what was placed ahead of time gives way to `d`, and what is left is `u`
  rw [hcolumns] at habsorb
  exact congrArg₂ (fun id columns => TableDraft.mk id columns key) hid habsorb

/-- The column in the making has a name, and its table is `t` but for what stands there and for
the key. -/
structure Draws (name : String) (t : TableDraft) (key : List String) (r : Resolver) : Prop where
  named : r.column.name = name
  drawn : ∃ u, r.table = some u ∧ Covers name t u ∧ u.primaryKey = key

variable {name : String} {t : TableDraft} {key : List String}

lemma Draws.keyed (h : Draws name t key r) : Draws name t [name] r.keyed := by
  obtain ⟨u, hu, hcovers, -⟩ := h.drawn
  have htable : r.keyed.table = some { u.add r.column with primaryKey := [name] } := by
    simp only [Resolver.keyed, hu, h.named, Option.map_some]
  exact ⟨h.named, _, htable, hcovers.keyed h.named [name], rfl⟩

/-- A change that is not one of the table. -/
lemma Draws.of_eq (h : Draws name t key r) {s : Resolver} (hn : s.column.name = r.column.name)
    (ht : s.table = r.table) : Draws name t key s :=
  ⟨hn.trans h.named, ht ▸ h.drawn⟩

lemma table_clause {c : Constraint} (h : c ≠ .primaryKey) :
    (r.clause rules c).table = r.table := by
  cases c with
  | primaryKey => exact absurd rfl h
  | default value =>
    obtain ⟨pending, column, heq, -⟩ := notice_eq r (.defaultText value)
    rw [clause, heq]
  | comment literal =>
    obtain ⟨text, heq⟩ := clause_comment rules literal
    rw [heq]
    rfl
  | _ => rfl

lemma Draws.clause (h : Draws name t key r) (c : Constraint) :
    Draws name t (if c = .primaryKey then [name] else key) (r.clause rules c) := by
  split_ifs with hc
  · subst hc
    have hseen : Draws name t key { r with
        observed := .notNull, column := { r.column with nullability := .notNull } } :=
      h.of_eq rfl rfl
    exact hseen.keyed
  · exact h.of_eq (name_clause rules r c) (table_clause rules hc)

lemma Draws.clauses (h : Draws name t key r) (cs : List Constraint) :
    Draws name t (if .primaryKey ∈ cs then [name] else key)
      (cs.foldl (Resolver.clause rules) r) := by
  induction cs generalizing r key with
  | nil => exact h
  | cons c cs ih =>
    have hcs := ih (h.clause rules c)
    rw [List.foldl_cons]
    convert hcs using 1
    -- once the key is the name, no later clause makes it another one
    by_cases hc : c = .primaryKey
    · simp [hc]
    · simp [hc, Ne.symm hc]

lemma Draws.close (h : Draws name t key r) :
    Draws name t (if r.promotable ∧ key = [] then [name] else key) r.close := by
  have hnull : Draws name t key r.settleNull := h.of_eq (name_settleNull r) (table_settleNull r)
  have hpromote : Draws name t (if r.promotable ∧ key = [] then [name] else key)
      r.settleNull.promote := by
    obtain ⟨u, hu, -, hkey⟩ := hnull.drawn
    have hcond : (r.settleNull.promotable && r.settleNull.table.any (!·.hasPrimaryKey)) = true ↔
        r.promotable ∧ key = [] := by
      rw [hu, promotable_settleNull]
      simp [TableDraft.hasPrimaryKey, hkey]
    unfold promote
    rw [if_congr hcond rfl rfl]
    split_ifs
    · exact hnull.keyed
    · exact hnull
  exact hpromote.of_eq (name_settleDefault _) (table_settleDefault _)

end Resolver
end TableSchema
