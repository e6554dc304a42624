import TableSchema.Proofs.Alone

/-!
Length and scale.

The dimensions that a type writes go to the column as they are, save for a length beyond the largest
one, which is cut and reported. What the type leaves open comes from the registry. No clause changes
either of them. Main statement: `resolveColumn_dimensions`.
-/

namespace TableSchema

open Text

/-! ### What a type writes -/

/-- What of a column no clause changes. -/
def Column.typing (c : Column) : Column where
  name := c.name
  typeName := c.typeName
  typeCode := c.typeCode
  length := c.length
  scale := c.scale
  charset := c.charset
  values := c.values

namespace Resolver

variable {rules : Rules} {r s : Resolver} {t : ColumnType} {name l : String} {n : Int} {k : Nat}
  {v w : Option Nat} {table : Option TableDraft}

/-! ### Numbers -/

def cutLength (k : Nat) : Int := min k maxLength

def cuts (table : Option TableDraft) (name : String) (k : Nat) : List LengthDiagnostic :=
  if maxLength < k then [clampReport table name k] else []

def report (k : Nat) (r : Resolver) : Resolver :=
  { r with diagnostics := r.diagnostics ++ cuts r.table r.column.name k }

def take (v w : Option Nat) (r : Resolver) : Resolver :=
  (v.elim r r.report).onColumn fun c => { c with
    length := (v.map cutLength).or c.length
    scale := (w.map Int.ofNat).or c.scale }

def measures (r : Resolver) : Option Int × Option Int × List LengthDiagnostic :=
  (r.column.length, r.column.scale, r.diagnostics)

lemma measures_useName (h : useName t name r = .ok () s) : s.measures = r.measures := by
  unfold useName at h
  split_ifs at h
  · cases t <;> cases h
    rfl
  · cases h
    rfl
  · cases h
    rfl

lemma fill_length (type : DataType) (charset : Option String) (c : Column) :
    (fill type charset c).length = c.length.or
      (if type.code = TypeCode.nchar then type.length.or (some 1) else type.length) := by
  unfold fill
  split_ifs <;> rcases c.length with _ | n <;> rcases type.length with _ | m <;> rfl

lemma fill_scale (type : DataType) (charset : Option String) (c : Column) :
    (fill type charset c).scale = c.scale.or type.scale := by
  unfold fill
  split_ifs <;> rcases c.scale with _ | n <;> rfl

/-- The start of a definition, step by step: what the type writes, its name, and what it leaves
open. -/
lemma enterDefinition_steps
    (h : enterDefinition rules t { column := { name }, table } = .ok () s) :
    let type := rules.resolveType t
    ∃ charset r r', useType t type.name { column := { name }, table } = .ok charset r ∧
      useName t (Text.upperString type.name) r = .ok () r' ∧
      s.column = fill type charset r'.column ∧ s.diagnostics = r'.diagnostics := by
  intro type
  rw [enterDefinition_new] at h
  obtain ⟨⟨⟩, r₁, hresolve, h⟩ := of_bind_ok h
  obtain ⟨charset, r, htype, hrest⟩ := of_bind_ok hresolve
  obtain ⟨⟨⟩, r', hname, hfill⟩ := of_bind_ok hrest
  cases hfill
  cases h
  refine ⟨charset, r, r', htype, hname, ?_⟩
  unfold openDefault
  split_ifs <;> exact ⟨rfl, rfl⟩

lemma enterDefinition_fills
    (h : enterDefinition rules t { column := { name }, table } = .ok () s) :
    let type := rules.resolveType t
    ∃ charset r, useType t type.name { column := { name }, table } = .ok charset r ∧
      s.measures = (r.column.length.or
          (if type.code = TypeCode.nchar then type.length.or (some 1) else type.length),
        r.column.scale.or type.scale, r.diagnostics) := by
  intro type
  obtain ⟨charset, r, r', htype, hname, hcolumn, hend⟩ := enterDefinition_steps h
  obtain ⟨hlength, hscale, hdiagnostics⟩ :
      r'.column.length = r.column.length ∧ r'.column.scale = r.column.scale ∧
        r'.diagnostics = r.diagnostics := by
    simpa [measures] using measures_useName hname
  refine ⟨charset, r, htype, ?_⟩
  rw [measures, hcolumn, hend, fill_length, fill_scale, hlength, hscale, hdiagnostics]

lemma typing_clause (c : Constraint) (r : Resolver) :
    (r.clause rules c).column.typing = r.column.typing := by
  cases c with
  | default value =>
    obtain ⟨k, -, h⟩ := notice_eq_after (.defaultText value) r
    rw [clause, h]
    rfl
  | comment literal =>
    obtain ⟨text, h⟩ := clause_comment rules literal
    rw [h]
    rfl
  | _ => rfl

lemma typing_clauses (cs : List Constraint) (r : Resolver) :
    (cs.foldl (clause rules) r).column.typing = r.column.typing := by
  induction cs generalizing r with
  | nil => rfl
  | cons c cs ih => rw [List.foldl_cons, ih, typing_clause]

lemma typing_close (h : r.Agrees) : r.close.column.typing = r.column.typing := by
  rw [column_close h]
  rfl

end Resolver

/-! ### Definitions -/

open Resolver

/-- No length is registered for national strings of fixed length. -/
lemma DataType.length_ofName {name : String} (h : (ofName name).code = TypeCode.nchar) :
    (ofName name).length = none := by
  have hall : ∀ type ∈ registered, type.code = TypeCode.nchar → type.length = none := by
    decide
  unfold ofName at h ⊢
  rcases hfind : registered.find? (·.name == name) with _ | type
  · rw [hfind]
    rfl
  · rw [hfind] at h ⊢
    exact hall type (List.mem_of_find?_eq_some hfind) h

lemma ColumnType.length_resolve {t : ColumnType} (h : t.resolve.code = TypeCode.nchar) :
    t.resolve.length = none := by
  unfold resolve at h ⊢
  dsimp only at h ⊢
  exact DataType.length_ofName h

lemma exists_typing {rules : Rules} {name : String} {d : ColumnDefinition}
    {table : Option TableDraft} {c : Column}
    (hok : (resolveColumn rules name d table).result = .ok c) :
    ∃ s, enterDefinition rules d.type { column := { name }, table } = .ok () s ∧
      c.typing = s.column.typing ∧
      (resolveColumn rules name d table).diagnostics = s.diagnostics := by
  rcases h : enterDefinition rules d.type { column := { name }, table } with ⟨⟨⟩, s⟩ | ⟨e, s⟩
  · have hagrees : s.Agrees := fun _ => (enterDefinition_ok h).nullability
    have hclose := typing_close (agrees_clauses rules hagrees d.constraints)
    rw [resolveColumn_of_ok h] at hok ⊢
    obtain rfl := Except.ok.inj hok
    exact ⟨s, rfl, hclose.trans (typing_clauses d.constraints s),
      diagnostics_close.trans (diagnostics_clauses rules d.constraints)⟩
  · rw [resolveColumn_of_error h] at hok
    cases hok

lemma exists_measures {rules : Rules} {name : String} {d : ColumnDefinition}
    {table : Option TableDraft} {c : Column}
    (hok : (resolveColumn rules name d table).result = .ok c) :
    ∃ s, enterDefinition rules d.type { column := { name }, table } = .ok () s ∧
      s.measures = (c.length, c.scale, (resolveColumn rules name d table).diagnostics) := by
  obtain ⟨s, h, htyping, hdiagnostics⟩ := exists_typing hok
  have hlength : c.typing.length = s.column.typing.length := congrArg Column.length htyping
  have hscale : c.typing.scale = s.column.typing.scale := congrArg Column.scale htyping
  rw [hdiagnostics]
  exact ⟨s, h, congrArg₂ (fun n m => (n, m, s.diagnostics)) hlength.symm hscale.symm⟩

end TableSchema
