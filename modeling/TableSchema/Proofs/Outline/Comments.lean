import TableSchema.Proofs.Order
import TableSchema.Proofs.Outline.Build

/-!
Comments left out.

With comments left out an outline comes to the same table, without the comments. A state without its
comment and its table goes through a clause as the state itself does, see `clause_silent`. From that
follow single definitions, runs of them and whole outlines.
-/

namespace TableSchema

def Column.withoutComment (c : Column) : Column := { c with comment := none }

def Table.withoutComments (t : Table) : Table :=
  { t with columns := t.columns.map Column.withoutComment }

def TableDraft.withoutComments (t : TableDraft) : TableDraft :=
  { t with columns := t.columns.map Column.withoutComment }

abbrev Rules.silent (rules : Rules) : Rules := { rules with skipComments := true }

namespace Resolver

variable (rules : Rules) (r : Resolver)

/-! ### Clauses -/

/-- A state without its table and its comment. -/
def silent : Resolver :=
  { r.beside none with column := r.column.withoutComment }

lemma notice_silent (n : Node) : r.silent.notice n = (r.notice n).silent := by
  have hpending : r.silent.pending = r.pending := rfl
  unfold notice
  rw [hpending]
  rcases r.pending with _ | d
  · rfl
  · cases n with
    | defaultText t =>
      have hobserved : r.silent.observed = r.observed := rfl
      simp only [DefaultDecision.notice, DefaultDecision.settle, DefaultDecision.give, hobserved]
      split_ifs <;> rfl
    | _ => rfl

/-- **One clause**: a comment makes no difference to a state without one. -/
lemma clause_silent (c : Constraint) :
    clause rules.silent r.silent c = (clause rules r c).silent := by
  cases c with
  | default value => exact notice_silent r (.defaultText value)
  | comment literal =>
    obtain ⟨text, h⟩ := clause_comment rules literal
    rw [h]
    cases literal <;> rfl
  | _ => rfl

lemma clauses_silent (cs : List Constraint) :
    cs.foldl (clause rules.silent) r.silent = (cs.foldl (clause rules) r).silent :=
  List.foldl_hom silent fun r c => clause_silent rules r c

variable {r} in
lemma column_close_silent (h : r.Agrees) :
    r.silent.close.column = r.close.column.withoutComment := by
  have hs : r.silent.Agrees := h
  rw [column_close hs, column_close h]
  rfl

variable {r} in
/-- From a state without a comment, the column is made as it is with comments, without the
comment. -/
lemma column_clauses_silent (ha : r.Agrees) (hc : r.column.comment = none)
    (cs : List Constraint) :
    (cs.foldl (clause rules.silent) r).close.column =
      (cs.foldl (clause rules) r).close.column.withoutComment := by
  have hstart : r.beside none = r.silent.beside none := by
    have hcolumn : r.column.withoutComment = r.column := by rw [Column.withoutComment, ← hc]
    rw [silent, hcolumn]
    exact (beside_none_beside r none).symm
  calc (cs.foldl (clause rules.silent) r).close.column
    _ = (cs.foldl (clause rules.silent) r.silent).close.column :=
      column_eq_of_beside rules.silent hstart cs
    _ = (cs.foldl (clause rules) r).silent.close.column := by rw [clauses_silent]
    _ = _ := column_close_silent (agrees_clauses rules ha cs)

lemma comment_enterDefinition {t : ColumnType} {name : String} {table : Option TableDraft}
    {s : Resolver} (h : enterDefinition rules t { column := { name }, table } = .ok () s) :
    s.column.comment = none := by
  rw [enterDefinition_new] at h
  rcases hr : resolveType rules t { column := { name }, table } with ⟨⟨⟩, s'⟩ | ⟨e, s'⟩
  · rw [bind_ok hr, modify_apply] at h
    cases h
    have hkept : s'.clausal = clausal { column := { name }, table } := by
      have h := (reads_resolveType rules t).clausal_ending { column := { name }, table }
      rwa [hr] at h
    have hopen : (openDefault s').column = s'.column := by
      unfold openDefault
      split_ifs <;> rfl
    rw [hopen]
    exact congrArg Clausal.comment hkept
  · rw [bind_error hr] at h
    cases h

end Resolver

open Resolver

variable {rules : Rules} {t u : TableDraft}

/-! ### Definitions -/

/-- Beside another table the same lengths are cut, and they are reported with its name. -/
lemma resolveColumn_diagnostics (name : String) (d : ColumnDefinition) (t u : TableDraft) :
    (resolveColumn rules name d (some u)).diagnostics =
      (resolveColumn rules name d (some t)).diagnostics.map fun x => { x with table := u.id } := by
  have hb := enterDefinition_beside rules d.type name t u
  rcases h : enterDefinition rules d.type { column := { name }, table := some t } with
    ⟨⟨⟩, s⟩ | ⟨e, s⟩
  · rw [h] at hb
    rw [resolveColumn_of_ok h, resolveColumn_of_ok hb]
    simp only [diagnostics_close, diagnostics_clauses]
    rfl
  · rw [h] at hb
    rw [resolveColumn_of_error h, resolveColumn_of_error hb]
    rfl

lemma resolveColumn_diagnostics_of_id {name : String} {d : ColumnDefinition} (h : t.id = u.id) :
    (resolveColumn rules name d (some t)).diagnostics =
      (resolveColumn rules name d (some u)).diagnostics := by
  rw [resolveColumn_diagnostics name d t u, ← h]
  exact resolveColumn_diagnostics name d t t

/-- **One definition**: with comments left out it fails alike, or has the same column without the
comment, whatever the comments of the table. -/
lemma resolveColumn_silent (rules : Rules) (name : String) (d : ColumnDefinition)
    (t : TableDraft) :
    (resolveColumn rules.silent name d (some t.withoutComments)).result =
        (resolveColumn rules name d (some t)).result.map Column.withoutComment ∧
      (resolveColumn rules.silent name d (some t.withoutComments)).diagnostics =
        (resolveColumn rules name d (some t)).diagnostics := by
  have hid : t.withoutComments.id = t.id := rfl
  rw [resolveColumn_beside t.withoutComments t, resolveColumn_diagnostics_of_id hid]
  have hsame : enterDefinition rules.silent d.type = enterDefinition rules d.type := rfl
  rcases h : enterDefinition rules d.type { column := { name }, table := some t } with
    ⟨⟨⟩, s⟩ | ⟨e, s⟩
  · have hagrees : s.Agrees := fun _ => (enterDefinition_ok h).nullability
    rw [resolveColumn_of_ok h, resolveColumn_of_ok (hsame ▸ h)]
    refine ⟨congrArg Except.ok ?_, ?_⟩
    · exact column_clauses_silent rules hagrees (comment_enterDefinition rules h) d.constraints
    · simp only [diagnostics_close, diagnostics_clauses]
  · rw [resolveColumn_of_error h, resolveColumn_of_error (hsame ▸ h)]
    exact ⟨rfl, rfl⟩

namespace TableDraft

lemma placeColumn_withoutComment (c : Column) (n : Nat) (cs : List Column) :
    placeColumn c.withoutComment n (cs.map Column.withoutComment) =
      (placeColumn c n cs).map Column.withoutComment := by
  induction cs generalizing n with
  | nil => rfl
  | cons x xs ih =>
    have hname : ∀ x : Column, x.withoutComment.name = x.name := fun _ => rfl
    simp only [List.map_cons, placeColumn, hname]
    split_ifs
    · rfl
    · rw [ih, List.map_cons]

lemma withoutComments_extend (t : TableDraft) (d : String × ColumnDefinition) (c : Column) :
    t.withoutComments.extend rules.silent d c.withoutComment =
      (t.extend rules d c).withoutComments := by
  unfold extend withoutComments add
  rw [placeColumn_withoutComment]
  rfl

lemma diagnostics_define_cons_of_ok {rest : List (String × ColumnDefinition)}
    {d : String × ColumnDefinition} {c : Column}
    (hc : (resolveColumn rules d.1 d.2 (some t)).result = .ok c) :
    (t.define rules (d :: rest)).diagnostics =
      (resolveColumn rules d.1 d.2 (some t)).diagnostics ++
        ((t.extend rules d c).define rules rest).diagnostics := by
  rw [define, hc, resolveColumn_table hc]
  rfl

lemma diagnostics_define_cons_of_error {rest : List (String × ColumnDefinition)}
    {d : String × ColumnDefinition} {e : ResolveError}
    (he : (resolveColumn rules d.1 d.2 (some t)).result = .error e) :
    (t.define rules (d :: rest)).diagnostics =
      (resolveColumn rules d.1 d.2 (some t)).diagnostics := by
  rw [define, he]

lemma define_silent (rules : Rules) (t : TableDraft) (ds : List (String × ColumnDefinition)) :
    (t.withoutComments.define rules.silent ds).result =
        (t.define rules ds).result.map withoutComments ∧
      (t.withoutComments.define rules.silent ds).diagnostics =
        (t.define rules ds).diagnostics := by
  induction ds generalizing t with
  | nil => exact ⟨rfl, rfl⟩
  | cons d ds ih =>
    obtain ⟨hresult, hdiagnostics⟩ := resolveColumn_silent rules d.1 d.2 t
    rcases hc : (resolveColumn rules d.1 d.2 (some t)).result with e | c
    · rw [hc] at hresult
      rw [define_cons_of_error hresult, define_cons_of_error hc,
        diagnostics_define_cons_of_error hresult, diagnostics_define_cons_of_error hc]
      exact ⟨rfl, hdiagnostics⟩
    · rw [hc] at hresult
      rw [define_cons_of_ok hresult, define_cons_of_ok hc, diagnostics_define_cons_of_ok hresult,
        diagnostics_define_cons_of_ok hc, withoutComments_extend, hdiagnostics]
      exact ⟨(ih _).1, congrArg _ (ih _).2⟩

/-! ### Keys -/

lemma findColumn?_withoutComment (cs : List Column) (name : String) :
    findColumn? (cs.map Column.withoutComment) name =
      (findColumn? cs name).map Column.withoutComment := by
  unfold findColumn?
  rw [List.find?_map]
  rfl

lemma setKey_withoutComments (t : TableDraft) (names : List String) :
    t.withoutComments.setKey names = (t.setKey names).map withoutComments := by
  have hfind : ∀ name, (t.withoutComments.find? name).isNone = (t.find? name).isNone := by
    intro name
    unfold find? withoutComments
    rw [findColumn?_withoutComment, Option.isNone_map]
  unfold setKey
  simp only [hfind]
  rcases names.find? fun name => (t.find? name).isNone with _ | name <;> rfl

lemma setTableKey_withoutComments (t : TableDraft) (names : List String) :
    t.withoutComments.setTableKey names = (t.setTableKey names).map withoutComments := by
  have hrequire : ∀ c : Column,
      requireValue names c.withoutComment = (requireValue names c).withoutComment := by
    intro c
    unfold requireValue
    split_ifs <;> first | rfl | contradiction
  unfold setTableKey
  rw [setKey_withoutComments]
  rcases t.setKey names with e | u
  · rfl
  · have hcolumns : (u.columns.map Column.withoutComment).map (requireValue names) =
        (u.columns.map (requireValue names)).map Column.withoutComment := by
      rw [List.map_map, List.map_map]
      exact List.map_congr_left fun c _ => hrequire c
    exact congrArg (fun columns => Except.ok { u with columns }) hcolumns

lemma setTableKeys_withoutComments (t : TableDraft) (keys : List (List String)) :
    t.withoutComments.setTableKeys keys = (t.setTableKeys keys).map withoutComments := by
  induction keys generalizing t with
  | nil => rfl
  | cons names keys ih =>
    have hnames := setTableKey_withoutComments t names
    rcases hk : t.setTableKey names with e | u
    · rw [hk] at hnames
      rw [setTableKeys_cons_of_error hnames, setTableKeys_cons_of_error hk]
      rfl
    · rw [hk] at hnames
      rw [setTableKeys_cons_of_ok hnames, setTableKeys_cons_of_ok hk, ih]

end TableDraft

/-! ### Outlines -/

/-- **Comments**: with comments left out an outline fails alike, or makes the same table without its
comments. The lengths that are cut are the same. -/
theorem Outline.build_skipComments (resolveType : ColumnType → DataType) (o : Outline) :
    let kept := o.build { skipComments := false, resolveType }
    let skipped := o.build { skipComments := true, resolveType }
    skipped.result = kept.result.map Table.withoutComments ∧
      skipped.diagnostics = kept.diagnostics ∧
      ∀ t, skipped.result = .ok t → ∀ c ∈ t.columns, c.comment = none := by
  intro kept skipped
  obtain ⟨hresult, hdiagnostics⟩ :=
    TableDraft.define_silent { skipComments := false, resolveType } { id := o.id }
      o.columns
  have htable : skipped.result = kept.result.map Table.withoutComments := by
    rcases hd : (TableDraft.define { skipComments := false, resolveType } { id := o.id }
      o.columns).result with e | u
    · rw [hd] at hresult
      show (o.build _).result = (o.build _).result.map _
      rw [build_of_define_error hresult, build_of_define_error hd]
      rfl
    · rw [hd] at hresult
      show (o.build _).result = (o.build _).result.map _
      rw [build_of_define hresult, build_of_define hd, TableDraft.setTableKeys_withoutComments]
      rcases u.setTableKeys o.keys with e | u' <;> rfl
  refine ⟨htable, hdiagnostics, fun t ht c hc => ?_⟩
  rw [htable] at ht
  rcases hk : kept.result with e | t'
  · rw [hk] at ht
    cases ht
  · rw [hk] at ht
    obtain rfl := Except.ok.inj ht
    obtain ⟨x, -, rfl⟩ := List.mem_map.mp hc
    rfl

end TableSchema
