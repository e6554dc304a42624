import TableSchema.Proofs.Alone

/-!
Serial columns.

A column is made serial by its type or by a clause. Either way it is unique, numbers itself and has
something to say of null, and no clause takes any of this back: see `IsSerial.clause`. So a column
is made serial once, and whatever would do so again changes nothing. Main statement:
`resolveColumn_serial`.
-/

namespace TableSchema

namespace Resolver

variable {rules : Rules} {r : Resolver}

/-- A column that was made serial, whatever else was said of it since. -/
structure IsSerial (r : Resolver) : Prop where
  known : r.observed ≠ .unspecified
  promotable : r.promotable = true
  unique : r.column.unique = true
  autoIncremented : r.column.autoIncremented = true
  generated : r.column.generated = true

lemma isSerial_makeSerial (r : Resolver) : r.makeSerial.IsSerial where
  known := by
    unfold makeSerial
    dsimp only
    split_ifs with h
    · exact nofun
    · exact h
  promotable := rfl
  unique := rfl
  autoIncremented := rfl
  generated := rfl

lemma IsSerial.makeSerial_eq (h : r.IsSerial) : r.makeSerial = r := by
  obtain ⟨hknown, hpromotable, hunique, hauto, hgenerated⟩ := h
  rcases r with ⟨column, table, diagnostics, observed, promotable, pending⟩
  cases column
  simp_all [makeSerial]

/-- **One clause** leaves a serial column serial. -/
lemma IsSerial.clause (h : r.IsSerial) (c : Constraint) : (r.clause rules c).IsSerial := by
  -- what is known of null may change, but does not become unknown
  have hknown : (r.clause rules c).observed ≠ .unspecified := by
    rcases hc : c.nullability? with _ | n
    · rw [observed_clause_none rules hc h.known]
      exact h.known
    · rw [observed_clause_some rules hc]
      exact Constraint.nullability?_ne hc
  cases c with
  | null mark => exact ⟨hknown, h.promotable, h.unique, h.autoIncremented, h.generated⟩
  | default value =>
    obtain ⟨k, -, heq⟩ := notice_eq_after (.defaultText value) r
    rw [Resolver.clause, heq]
    exact ⟨h.known, h.promotable, h.unique, h.autoIncremented, h.generated⟩
  | autoIncrement => exact ⟨hknown, h.promotable, h.unique, rfl, rfl⟩
  | primaryKey => exact ⟨hknown, h.promotable, h.unique, h.autoIncremented, h.generated⟩
  | uniqueKey => exact ⟨hknown, rfl, h.unique, h.autoIncremented, h.generated⟩
  | comment literal =>
    obtain ⟨text, heq⟩ := clause_comment rules literal
    rw [heq]
    exact ⟨h.known, h.promotable, h.unique, h.autoIncremented, h.generated⟩
  | serialDefault => exact isSerial_makeSerial r

/-- Of a serial column only the other clauses count. -/
lemma IsSerial.clauses_eq (h : r.IsSerial) (cs : List Constraint) :
    cs.foldl (Resolver.clause rules) r =
      (cs.filter (· ≠ .serialDefault)).foldl (Resolver.clause rules) r := by
  induction cs generalizing r with
  | nil => rfl
  | cons c cs ih =>
    by_cases hc : c = .serialDefault
    · subst hc
      have hsame : r.clause rules .serialDefault = r := h.makeSerial_eq
      rw [List.foldl_cons, hsame, ih h, List.filter_cons_of_neg (by simp)]
    · rw [List.foldl_cons, ih (h.clause c), List.filter_cons_of_pos (by simpa using hc),
        List.foldl_cons]

lemma makeSerial_openDefault (r : Resolver) :
    (openDefault r).makeSerial = openDefault r.makeSerial := by
  unfold openDefault
  have htable : r.makeSerial.table = r.table := rfl
  rw [htable]
  split_ifs <;> rfl

end Resolver

open Resolver

def serialType : ColumnType := .simple "SERIAL" false false

def bigintType : ColumnType := .dimensioned "BIGINT" none none none true false

variable {skipComments : Bool} {name : String} {table : Option TableDraft}

def bigintStart (name : String) (table : Option TableDraft) : Resolver :=
  { column := { name, typeName := "BIGINT UNSIGNED", typeCode := TypeCode.bigInt }, table }

/-- A column of type `SERIAL` once its type is entered. -/
def serialStart (name : String) (table : Option TableDraft) : Resolver :=
  openDefault (bigintStart name table).makeSerial

lemma isSerial_serialStart : (serialStart name table).IsSerial := by
  unfold serialStart
  rw [← makeSerial_openDefault]
  exact isSerial_makeSerial _

lemma resolveType_bigint :
    resolveType { skipComments } bigintType { column := { name }, table } =
      .ok () (bigintStart name table) := by
  have htype : ({ skipComments } : Rules).resolveType bigintType =
      ⟨"BIGINT UNSIGNED", TypeCode.bigInt, none, none⟩ := by
    show bigintType.resolve = _
    decide +kernel
  unfold resolveType
  rw [htype]
  rfl

lemma resolveType_serial :
    resolveType { skipComments } serialType { column := { name }, table } =
      .ok () (bigintStart name table).makeSerial := by
  have htype : ({ skipComments } : Rules).resolveType serialType =
      ⟨"SERIAL", TypeCode.bigInt, none, none⟩ := by
    show serialType.resolve = _
    decide +kernel
  unfold resolveType
  rw [htype]
  rfl

lemma enterDefinition_bigint :
    enterDefinition { skipComments } bigintType { column := { name }, table } =
      .ok () (openDefault (bigintStart name table)) := by
  rw [enterDefinition_new, bind_ok resolveType_bigint, modify_apply]

lemma enterDefinition_serial :
    enterDefinition { skipComments } serialType { column := { name }, table } =
      .ok () (serialStart name table) := by
  rw [enterDefinition_new, bind_ok resolveType_serial, modify_apply]
  rfl

/-- A column of type `SERIAL` is made serial before its clauses. -/
lemma resolveColumn_serialType (cs : List Constraint) :
    resolveColumn { skipComments } name ⟨serialType, cs⟩ table =
      let r := (cs.foldl (clause { skipComments }) (serialStart name table)).close
      ⟨.ok r.column, r.table.map (·.add r.column), r.diagnostics⟩ :=
  resolveColumn_of_ok (d := ⟨serialType, cs⟩) enterDefinition_serial

/-- It may as well be the first clause that makes the column serial. -/
lemma resolveColumn_serialDefault (cs : List Constraint) :
    resolveColumn { skipComments } name ⟨bigintType, .serialDefault :: cs⟩ table =
      resolveColumn { skipComments } name ⟨serialType, cs⟩ table := by
  have hstart : clause { skipComments } (openDefault (bigintStart name table)) .serialDefault =
      serialStart name table := makeSerial_openDefault _
  rw [resolveColumn_serialType,
    resolveColumn_of_ok (d := ⟨bigintType, .serialDefault :: cs⟩) enterDefinition_bigint]
  dsimp only
  rw [List.foldl_cons, hstart]

/-- Only the clauses that do not make the column serial count. -/
lemma resolveColumn_serialType_congr {cs cs' : List Constraint}
    (h : cs'.filter (· ≠ .serialDefault) = cs.filter (· ≠ .serialDefault)) :
    resolveColumn { skipComments } name ⟨serialType, cs'⟩ table =
      resolveColumn { skipComments } name ⟨serialType, cs⟩ table := by
  rw [resolveColumn_serialType, resolveColumn_serialType]
  dsimp only
  rw [isSerial_serialStart.clauses_eq cs', h, ← isSerial_serialStart.clauses_eq cs]

/-- **Serial columns**: to make a column serial twice is to do it once. A column of type `SERIAL` is
never refused, and is the same as one of type `BIGINT UNSIGNED` with `SERIAL DEFAULT VALUE` before
all other clauses, with the same table and the same diagnostics. From there on clauses
`SERIAL DEFAULT VALUE` do not count, wherever they stand. -/
theorem resolveColumn_serial (skipComments : Bool) (name : String) (cs : List Constraint)
    (table : Option TableDraft) :
    let resolve := fun type cs => resolveColumn { skipComments } name ⟨type, cs⟩ table
    (∀ r : Resolver, r.makeSerial.makeSerial = r.makeSerial) ∧
      (∃ c, (resolve serialType cs).result = .ok c) ∧
      resolve serialType cs = resolve bigintType (.serialDefault :: cs) ∧
      ∀ cs', cs'.filter (· ≠ .serialDefault) = cs.filter (· ≠ .serialDefault) →
        resolve serialType cs' = resolve serialType cs ∧
          resolve bigintType (.serialDefault :: cs') =
            resolve bigintType (.serialDefault :: cs) := by
  intro resolve
  refine ⟨fun r => (isSerial_makeSerial r).makeSerial_eq,
    ⟨_, congrArg Resolution.result (resolveColumn_serialType cs)⟩,
    (resolveColumn_serialDefault cs).symm, fun cs' h => ?_⟩
  have hsame : resolve serialType cs' = resolve serialType cs := resolveColumn_serialType_congr h
  refine ⟨hsame, ?_⟩
  calc resolve bigintType (.serialDefault :: cs')
      = resolve serialType cs' := resolveColumn_serialDefault cs'
    _ = resolve serialType cs := hsame
    _ = resolve bigintType (.serialDefault :: cs) := (resolveColumn_serialDefault cs).symm

/-- Clauses that say more of null and of keys, and others among them that make the column serial. -/
def serialClauses : List Constraint :=
  [.serialDefault, .null {}, .serialDefault, .primaryKey, .uniqueKey, .serialDefault]

def serialDraft : TableDraft where
  id := { table := "t" }

theorem resolveColumn_serial_repeated :
    resolveColumn {} "id" ⟨bigintType, .serialDefault :: serialClauses⟩ (some serialDraft) =
      resolveColumn {} "id" ⟨serialType, [.null {}, .primaryKey, .uniqueKey]⟩
        (some serialDraft) := by
  obtain ⟨-, -, hclause, hrepeated⟩ :=
    resolveColumn_serial false "id" [.null {}, .primaryKey, .uniqueKey] (some serialDraft)
  exact (hrepeated serialClauses (by decide)).2.trans hclause.symm

end TableSchema
