import TableSchema.Proofs.Independence

/-!
The order of clauses.

What a clause comes to can be said of the finished column alone, field by field. Clauses of
different kinds speak of different fields, save for null: `NULL`, `NOT NULL` and a clause for the
key go by what they say, and `SERIAL DEFAULT VALUE` speaks only where nothing else is said. So the
order matters at most between clauses of one kind, and between a clause for the key and a `NULL`:
see `resolveColumn_perm`.
-/

namespace TableSchema

/-- The kinds of clauses. `NULL` and `NOT NULL` are of one kind. -/
inductive ClauseKind where
  | null
  | default
  | autoIncrement
  | primaryKey
  | uniqueKey
  | comment
  | serialDefault
  deriving DecidableEq, Repr

namespace Constraint

variable (rules : Rules) (beside : Bool)

def kind : Constraint → ClauseKind
  | null _ => .null
  | default _ => .default
  | autoIncrement => .autoIncrement
  | primaryKey => .primaryKey
  | uniqueKey => .uniqueKey
  | comment _ => .comment
  | serialDefault => .serialDefault

/-! ### What a clause says -/

/-- Whether the column admits null after a clause, by what was known before. -/
def nullAfter (n : Nullability) (c : Constraint) : Nullability :=
  c.nullability?.getD (if c = serialDefault ∧ n = .unspecified then .notNull else n)

def comment? : Constraint → Option String
  | comment (some literal) => if rules.skipComments then none else some (Text.unquoted literal)
  | _ => none

/-- The default that a clause gives to a column beside a table. -/
def default? : Constraint → Option (Option String)
  | default value => if beside then some (defaultExpression value.text) else none
  | _ => none

def numbers : Constraint → Bool
  | autoIncrement | serialDefault => true
  | _ => false

/-- What a clause makes of a finished column, field by field. -/
def amend (column : Column) (c : Constraint) : Column :=
  { column with
    nullability := c.nullAfter column.nullability
    unique := column.unique || c = serialDefault
    autoIncremented := column.autoIncremented || c.numbers
    generated := column.generated || c.numbers
    comment := (c.comment? rules).or column.comment
    hasDefault := column.hasDefault || (c.default? beside).isSome
    defaultValue := (c.default? beside).getD column.defaultValue }

/-! ### Clauses of different kinds -/

/-- A clause for the key and a `NULL`, of which the last one decides. -/
def Clash (x y : Constraint) : Prop :=
  x = primaryKey ∧ y = null ⟨false⟩ ∨ x = null ⟨false⟩ ∧ y = primaryKey

variable {rules beside} {x y : Constraint}

lemma kind_of_comment? {s : String} (h : x.comment? rules = some s) : x.kind = .comment := by
  cases x with
  | comment => rfl
  | _ => cases h

lemma kind_of_default? {v : Option String} (h : x.default? beside = some v) :
    x.kind = .default := by
  cases x with
  | default => rfl
  | _ => cases h

/-- Two clauses of different kinds that both speak of null say the same, unless they clash. -/
lemma nullability?_unique (hk : x.kind ≠ y.kind) (hc : ¬ Clash x y) {m n : Nullability}
    (hx : x.nullability? = some m) (hy : y.nullability? = some n) : m = n := by
  cases x with
  | null mark =>
    cases y with
    | null => exact absurd rfl hk
    | primaryKey =>
      obtain ⟨_ | _⟩ := mark
      · exact absurd (.inr ⟨rfl, rfl⟩) hc
      · exact Option.some.inj (hx.symm.trans hy)
    | _ => cases hy
  | primaryKey =>
    cases y with
    | null mark =>
      obtain ⟨_ | _⟩ := mark
      · exact absurd (.inl ⟨rfl, rfl⟩) hc
      · exact Option.some.inj (hx.symm.trans hy)
    | primaryKey => exact absurd rfl hk
    | _ => cases hy
  | _ => cases hx

lemma nullAfter_comm (hk : x.kind ≠ y.kind) (hc : ¬ Clash x y) (n : Nullability) :
    y.nullAfter (x.nullAfter n) = x.nullAfter (y.nullAfter n) := by
  have hserial : ¬ (x = serialDefault ∧ y = serialDefault) := fun h => hk (by rw [h.1, h.2])
  unfold nullAfter
  rcases hx : x.nullability? with _ | m <;> rcases hy : y.nullability? with _ | m'
  · -- neither says anything by itself, and at most one is serial
    simp only [Option.getD_none]
    by_cases h : x = serialDefault
    · have h' : y ≠ serialDefault := fun h' => hserial ⟨h, h'⟩
      simp [h, h']
    · simp [h]
  · simp [Constraint.nullability?_ne hy]
  · simp [Constraint.nullability?_ne hx]
  · exact (nullability?_unique hk hc hx hy).symm

lemma comment?_comm (hk : x.kind ≠ y.kind) (s : Option String) :
    (y.comment? rules).or ((x.comment? rules).or s) =
      (x.comment? rules).or ((y.comment? rules).or s) := by
  rcases hx : x.comment? rules with _ | a <;> rcases hy : y.comment? rules with _ | b
  all_goals try rfl
  exact absurd ((kind_of_comment? hx).trans (kind_of_comment? hy).symm) hk

lemma default?_comm (hk : x.kind ≠ y.kind) (s : Option String) :
    (y.default? beside).getD ((x.default? beside).getD s) =
      (x.default? beside).getD ((y.default? beside).getD s) := by
  rcases hx : x.default? beside with _ | a <;> rcases hy : y.default? beside with _ | b
  all_goals try rfl
  exact absurd ((kind_of_default? hx).trans (kind_of_default? hy).symm) hk

lemma amend_comm (hk : x.kind ≠ y.kind) (hc : ¬ Clash x y) (column : Column) :
    amend rules beside (amend rules beside column x) y =
      amend rules beside (amend rules beside column y) x := by
  simp only [amend, nullAfter_comm hk hc, comment?_comm hk, default?_comm hk, Bool.or_right_comm]

end Constraint

namespace Resolver

open Constraint

variable (rules : Rules) {r : Resolver} {c : Constraint}

/-! ### The finished column -/

/-- A default that was seen and is given to the column at the end. -/
def due? (r : Resolver) : Option (Option String) :=
  r.pending.bind fun d => if d.settled then none else d.seen

def Undecided (r : Resolver) : Prop := ∀ d, r.pending = some d → d = {}

lemma pending_settleNull : r.settleNull.pending = r.pending := by
  unfold settleNull
  split_ifs <;> rfl

lemma pending_promote : r.promote.pending = r.pending := by
  unfold promote
  split_ifs <;> rfl

lemma column_settleNull (h : r.Agrees) :
    r.settleNull.column = { r.column with nullability := r.observed } := by
  unfold settleNull
  split_ifs with ho
  · rw [ho, ← h ho]
  · rfl

lemma column_close (h : r.Agrees) :
    r.close.column = { r.column with
      nullability := r.observed
      hasDefault := r.column.hasDefault || r.due?.isSome
      defaultValue := r.due?.getD r.column.defaultValue } := by
  have hpending : r.settleNull.promote.pending = r.pending := by
    rw [pending_promote, pending_settleNull]
  have hcolumn : r.settleNull.promote.column = { r.column with nullability := r.observed } := by
    rw [column_promote, column_settleNull h]
  unfold close settleDefault due?
  rw [hpending, hcolumn, observed_promote, observed_settleNull]
  rcases r.pending with _ | ⟨seen, _ | _⟩
  · simpa using hcolumn
  · rcases seen with _ | value
    all_goals
      simp only [DefaultDecision.settle, DefaultDecision.give]
      split_ifs <;> simp_all
  · simp [DefaultDecision.settle]

lemma pending_clause (h : c.kind ≠ .default) : (r.clause rules c).pending = r.pending := by
  cases c with
  | default => exact absurd rfl h
  | comment literal =>
    obtain ⟨text, heq⟩ := clause_comment rules literal
    rw [heq]
    rfl
  | _ => rfl

lemma isSome_pending_clause : (r.clause rules c).pending.isSome = r.pending.isSome := by
  by_cases h : c.kind = .default
  · cases c with
    | default value =>
      rw [clause, notice]
      rcases hp : r.pending with _ | d
      · rw [hp]
      · rfl
    | _ => cases h
  · rw [pending_clause rules h]

/-- **One clause**: what it makes of a definition is what it makes of the finished column. -/
lemma column_close_clause (ha : r.Agrees) (hu : c.kind = .default → r.Undecided) :
    (r.clause rules c).close.column = amend rules r.pending.isSome r.close.column c := by
  rw [column_close (agrees_clause rules ha c), column_close ha]
  by_cases hd : c.kind = .default
  · cases c with
    | default value =>
      rw [clause, notice]
      rcases hp : r.pending with _ | d
      · simp [due?, hp, amend, nullAfter, comment?, default?, numbers, nullability?]
      · -- the default is given now or at the end, which makes no difference to the finished column
        obtain rfl := hu rfl d hp
        by_cases ho : r.observed = .unspecified
        · simp [due?, hp, ho, amend, nullAfter, comment?, default?, numbers, nullability?,
            DefaultDecision.notice, DefaultDecision.settle]
        · simp [due?, hp, ho, amend, nullAfter, comment?, default?, numbers, nullability?,
            DefaultDecision.notice, DefaultDecision.settle, DefaultDecision.give]
    | _ => cases hd
  · have hdue : (r.clause rules c).due? = r.due? := by rw [due?, pending_clause rules hd, due?]
    rw [hdue]
    cases c with
    | default value => exact absurd rfl hd
    | comment literal =>
      rcases literal with _ | literal
      · simp [clause, amend, nullAfter, comment?, default?, numbers, nullability?]
      · by_cases h : rules.skipComments
        · simp [clause, h, amend, nullAfter, comment?, default?, numbers, nullability?]
        · simp [clause, h, amend, nullAfter, comment?, default?, numbers, nullability?, onColumn]
    | serialDefault =>
      simp [clause, amend, nullAfter, comment?, default?, numbers, nullability?, makeSerial]
    | _ =>
      simp [clause, amend, nullAfter, comment?, default?, numbers, nullability?, onColumn, keyed]

lemma column_close_clauses {cs : List Constraint} (ha : r.Agrees)
    (hn : (cs.map kind).Nodup) (hu : .default ∈ cs.map kind → r.Undecided) :
    (cs.foldl (clause rules) r).close.column =
      cs.foldl (amend rules r.pending.isSome) r.close.column := by
  induction cs generalizing r with
  | nil => rfl
  | cons c cs ih =>
    rw [List.map_cons, List.nodup_cons] at hn
    have hstep := column_close_clause rules ha fun h => hu (by rw [List.map_cons, h]; simp)
    have hrest : .default ∈ cs.map kind → (r.clause rules c).Undecided := by
      intro h
      have hc : c.kind ≠ .default := fun hc => hn.1 (hc ▸ h)
      unfold Undecided
      rw [pending_clause rules hc]
      exact hu (List.mem_cons_of_mem _ h)
    rw [List.foldl_cons, List.foldl_cons, ih (agrees_clause rules ha c) hn.2 hrest, hstep,
      isSome_pending_clause]

/-! ### What clauses leave alone -/

lemma diagnostics_clauses (cs : List Constraint) :
    (cs.foldl (clause rules) r).diagnostics = r.diagnostics := by
  induction cs generalizing r with
  | nil => rfl
  | cons c cs ih =>
    rw [List.foldl_cons, ih]
    cases c with
    | default value =>
      obtain ⟨pending, column, h, -⟩ := notice_eq r (.defaultText value)
      rw [clause, h]
    | comment literal =>
      obtain ⟨text, h⟩ := clause_comment rules literal
      rw [h]
      rfl
    | _ => rfl

lemma diagnostics_close : r.close.diagnostics = r.diagnostics := by
  have hnull : r.settleNull.diagnostics = r.diagnostics := by
    unfold settleNull
    split_ifs <;> rfl
  have hpromote : ∀ s : Resolver, s.promote.diagnostics = s.diagnostics := by
    intro s
    unfold promote
    split_ifs <;> rfl
  unfold close settleDefault
  split <;> rw [hpromote, hnull]

lemma table_close_none (h : r.table = none) (cs : List Constraint) :
    (cs.foldl (clause rules) r).close.table = none := by
  induction cs generalizing r with
  | nil =>
    have hno : ¬ (r.settleNull.promotable && r.settleNull.table.any (!·.hasPrimaryKey)) = true := by
      simp [h]
    rw [List.foldl_nil, close, table_settleDefault, promote, if_neg hno, table_settleNull, h]
  | cons c cs ih =>
    refine ih ?_
    by_cases hc : c = .primaryKey
    · simp [hc, clause, keyed, h]
    · rw [table_clause rules hc, h]

end Resolver

/-! ### Definitions -/

open Resolver Constraint

variable {rules : Rules} {name : String} {type : ColumnType} {cs cs' : List Constraint}
  {table : Option TableDraft}

lemma keyAfter_perm (h : cs.Perm cs') (key : List String) :
    ColumnDefinition.keyAfter rules name ⟨type, cs⟩ key =
      ColumnDefinition.keyAfter rules name ⟨type, cs'⟩ key := by
  have hunique : ColumnDefinition.isUnique rules ⟨type, cs⟩ =
      ColumnDefinition.isUnique rules ⟨type, cs'⟩ := by
    rw [ColumnDefinition.isUnique, ColumnDefinition.isUnique, h.any_eq]
  unfold ColumnDefinition.keyAfter
  rw [hunique, if_congr h.mem_iff rfl rfl]

/-- Clauses that are all of different kinds and do not clash make the same column in any order. -/
lemma foldl_amend_perm {beside : Bool} (h : cs.Perm cs') (hk : (cs.map kind).Nodup)
    (hn : ¬ (.primaryKey ∈ cs ∧ .null ⟨false⟩ ∈ cs)) (column : Column) :
    cs.foldl (amend rules beside) column = cs'.foldl (amend rules beside) column := by
  refine h.foldl_eq' (fun x hx y hy column => ?_) column
  by_cases hxy : x = y
  · rw [hxy]
  · have hkind : x.kind ≠ y.kind := fun e => hxy (List.inj_on_of_nodup_map hk hx hy e)
    refine amend_comm hkind (fun hc => hn ?_) column
    rcases hc with ⟨rfl, rfl⟩ | ⟨rfl, rfl⟩
    · exact ⟨hx, hy⟩
    · exact ⟨hy, hx⟩

attribute [ext] Resolution

/-- Beside a table too the order does not matter, since it gets the finished column and the key
that some clause asks for. -/
lemma table_perm (h : cs.Perm cs')
    (hr : (resolveColumn rules name ⟨type, cs⟩ table).result =
      (resolveColumn rules name ⟨type, cs'⟩ table).result) {column : Column}
    (hok : (resolveColumn rules name ⟨type, cs⟩ table).result = .ok column) :
    (resolveColumn rules name ⟨type, cs⟩ table).table =
      (resolveColumn rules name ⟨type, cs'⟩ table).table := by
  rcases table with _ | t
  · obtain ⟨s, hs, -, htable⟩ := resolveColumn_ok hok
    obtain ⟨s', hs', -, htable'⟩ := resolveColumn_ok (hr ▸ hok)
    rw [htable, htable', table_close_none rules hs.table, table_close_none rules hs'.table]
  · rw [resolveColumn_table hok, resolveColumn_table (hr ▸ hok), keyAfter_perm h]

/-- **Order**: where no two clauses are of one kind, and no `NULL` stands beside a clause for the
key, a definition comes to the same in every order of its clauses: the column or the failure, the
table and the lengths that were cut. -/
theorem resolveColumn_perm (h : cs.Perm cs') (hk : (cs.map Constraint.kind).Nodup)
    (hn : ¬ (.primaryKey ∈ cs ∧ .null ⟨false⟩ ∈ cs)) :
    resolveColumn rules name ⟨type, cs⟩ table = resolveColumn rules name ⟨type, cs'⟩ table := by
  rcases he : enterDefinition rules type { column := { name }, table } with ⟨⟨⟩, s⟩ | ⟨e, s⟩
  · have hs := enterDefinition_ok he
    have hagrees : s.Agrees := fun _ => hs.nullability
    have hundecided : s.Undecided := by
      intro d hd
      rw [hs.pending, Option.map_eq_some_iff] at hd
      obtain ⟨-, -, rfl⟩ := hd
      rfl
    have hcolumn : (cs.foldl (clause rules) s).close.column =
        (cs'.foldl (clause rules) s).close.column := by
      rw [column_close_clauses rules hagrees hk fun _ => hundecided,
        column_close_clauses rules hagrees ((h.map kind).nodup_iff.mp hk) fun _ => hundecided,
        foldl_amend_perm h hk hn]
    have hresult : (resolveColumn rules name ⟨type, cs⟩ table).result =
        (resolveColumn rules name ⟨type, cs'⟩ table).result := by
      rw [resolveColumn_of_ok he, resolveColumn_of_ok he]
      exact congrArg Except.ok hcolumn
    have hdiagnostics : (resolveColumn rules name ⟨type, cs⟩ table).diagnostics =
        (resolveColumn rules name ⟨type, cs'⟩ table).diagnostics := by
      rw [resolveColumn_of_ok he, resolveColumn_of_ok he]
      simp only [diagnostics_close, diagnostics_clauses]
    have htable := table_perm h hresult (by rw [resolveColumn_of_ok he])
    exact Resolution.ext hresult htable hdiagnostics
  · rw [resolveColumn_of_error he, resolveColumn_of_error he]

def sixClauses : List Constraint :=
  [.default ⟨"'x'"⟩, .serialDefault, .null ⟨true⟩, .primaryKey, .comment (some "'key'"), .uniqueKey]

theorem resolveColumn_perm_reverse :
    sixClauses.Perm sixClauses.reverse ∧ (sixClauses.map Constraint.kind).Nodup ∧
      ¬ (.primaryKey ∈ sixClauses ∧ .null ⟨false⟩ ∈ sixClauses) ∧
      resolveColumn {} "a" ⟨.string "CHAR" (some ⟨"9999999999"⟩) none none, sixClauses⟩
          (some { id := { table := "t" } }) =
        resolveColumn {} "a" ⟨.string "CHAR" (some ⟨"9999999999"⟩) none none, sixClauses.reverse⟩
          (some { id := { table := "t" } }) := by
  have hperm : sixClauses.Perm sixClauses.reverse := sixClauses.reverse_perm.symm
  have hkinds : (sixClauses.map Constraint.kind).Nodup := by decide
  have hnull : ¬ (.primaryKey ∈ sixClauses ∧ .null ⟨false⟩ ∈ sixClauses) := by decide
  exact ⟨hperm, hkinds, hnull, resolveColumn_perm hperm hkinds hnull⟩

end TableSchema
