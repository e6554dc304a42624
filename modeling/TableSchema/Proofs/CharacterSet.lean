import TableSchema.Proofs.DefaultText
import TableSchema.Proofs.Dimensions
import TableSchema.Proofs.Failure

/-!
Character sets.

A column has the character set that its type names, except that national strings have one of their
own. A string type names it by a text, with quotes or without; an enumeration or a set names it as
it is written. So the two agree on texts without quotes only: see `resolveColumn_charset`.
-/

namespace TableSchema

open Text

def ColumnType.charset? : ColumnType → Option String
  | .string _ _ charset collation | .longVarchar _ charset collation => charsetOf charset collation
  | .collection _ _ charset => charset
  | .nationalString .. | .nationalVarying .. | .dimensioned .. | .simple .. => none

/-- A string type that names a character set by a text, and perhaps a collation. -/
inductive ColumnType.Spells (charset : String) : ColumnType → Prop
  | string {name : String} {length : Option OneDimension} {collation : Option String} :
    Spells charset (.string name length (some charset) collation)
  | longVarchar {name : String} {collation : Option String} :
    Spells charset (.longVarchar name (some charset) collation)

variable {charset : String} {t : ColumnType}

lemma ColumnType.Spells.charset?_eq (h : t.Spells charset) (hne : charset ≠ "") :
    t.charset? = some (unquoted charset) := by
  have hkept : (some charset).filter (· ≠ "") = some charset := by simpa using hne
  cases h <;> rw [charset?, charsetOf, hkept]

lemma unquoted_eq_self_iff : unquoted charset = charset ↔ ¬ Quoted charset.toList := by
  rw [unquoted, ← String.toList_inj, String.toList_ofList, withoutQuotes_eq_self_iff]

namespace Resolver

variable {r s : Resolver} {name : String}

lemma charset_useType {charset : Option String} (h : useType t name r = .ok charset s) :
    charset = t.charset? := by
  cases t with
  | string | nationalString | nationalVarying | dimensioned =>
    obtain ⟨⟨⟩, r', -, h⟩ := of_bind_ok h
    cases h
    rfl
  | collection n values charset =>
    unfold useType at h
    dsimp only at h
    split_ifs at h
    · cases h
      rfl
    · cases h
      rfl
    · cases h
  | longVarchar | simple =>
    cases h
    rfl

lemma charset_fill (type : DataType) (charset : Option String) (c : Column) :
    (fill type charset c).charset =
      if type.code = TypeCode.nchar ∨ type.code = TypeCode.nvarchar then some "utf8"
      else charset := by
  unfold fill
  dsimp only
  split_ifs <;> simp_all

end Resolver

open Resolver

/-- **The character set of a column** is settled by its type alone. -/
lemma charset_resolveColumn {rules : Rules} {name : String} {d : ColumnDefinition}
    {table : Option TableDraft} {c : Column}
    (hok : (resolveColumn rules name d table).result = .ok c) :
    let type := rules.resolveType d.type
    c.charset = if type.code = TypeCode.nchar ∨ type.code = TypeCode.nvarchar then some "utf8"
      else d.type.charset? := by
  intro type
  obtain ⟨s, h, htyping, -⟩ := exists_typing hok
  obtain ⟨charset, r, r', htype, -, hcolumn, -⟩ := enterDefinition_steps h
  have hcharset : c.typing.charset = s.column.typing.charset := congrArg Column.charset htyping
  calc c.charset = s.column.charset := hcharset
    _ = _ := by rw [hcolumn, charset_fill, charset_useType htype]

/-- Enumerations and sets have the code of plain strings. -/
lemma code_resolve_collection {name : String} {values : ValueList} {charset : Option String}
    (h : (ColumnType.collection name values charset).resolve.name ∈ ["ENUM", "SET"]) :
    (ColumnType.collection name values charset).resolve.code = TypeCode.char := by
  have hcode : ∀ n ∈ ["ENUM", "SET"], (DataType.ofName n).code = TypeCode.char := by
    decide
  have hsuffix : (ColumnType.collection name values charset).suffix = "" := rfl
  rw [ColumnType.resolve_name, hsuffix, String.append_empty] at h
  unfold ColumnType.resolve
  dsimp only
  exact hcode _ h

/-- **Character sets named by a text**: an enumeration or a set always has a column, whose character
set is the text as written. A string type that is not national has the text without the quotes
around it, whatever the collation. The two are the same exactly if the text is not quoted. -/
theorem resolveColumn_charset {skipComments skipComments' : Bool} {name name' typeName : String}
    {values : ValueList} {cs cs' : List Constraint} {table table' : Option TableDraft}
    {charset : String} {t : ColumnType} {c' : Column} (hne : charset ≠ "")
    (hvalues : (ColumnType.collection typeName values (some charset)).resolve.name ∈
      ["ENUM", "SET"])
    (ht : t.Spells charset) (hcode : t.resolve.code ∉ [TypeCode.nchar, TypeCode.nvarchar])
    (hok : (resolveColumn { skipComments := skipComments' } name' ⟨t, cs'⟩ table').result =
      .ok c') :
    ∃ c, (resolveColumn { skipComments } name
        ⟨.collection typeName values (some charset), cs⟩ table).result = .ok c ∧
      c.charset = some charset ∧ c'.charset = some (unquoted charset) ∧
      (c.charset = c'.charset ↔ ¬ Quoted charset.toList) := by
  have hliterals : ¬ (ColumnType.collection typeName values (some charset)).BadLiteral := by
    simp [ColumnType.BadLiteral, ColumnType.lengthLiterals, ColumnType.scaleLiterals]
  have hshape : ¬ (ColumnType.collection typeName values (some charset)).Mismatch
      (ColumnType.collection typeName values (some charset)).resolve.name := by
    rw [ColumnType.mismatch_resolve_iff]
    rintro (⟨-, h⟩ | ⟨h, -⟩)
    · exact h hvalues
    · exact h trivial
  obtain ⟨c, hc⟩ : ∃ c, (resolveColumn { skipComments } name
      ⟨.collection typeName values (some charset), cs⟩ table).result = .ok c :=
    exists_resolveColumn_ok hliterals hshape
  have hcollection : c.charset = some charset := by
    refine (charset_resolveColumn hc).trans (if_neg ?_)
    rw [show Rules.resolveType { skipComments } _ = ColumnType.resolve _ from rfl,
      code_resolve_collection hvalues]
    decide
  have hstring : c'.charset = some (unquoted charset) := by
    refine (charset_resolveColumn hok).trans ((if_neg ?_).trans (ht.charset?_eq hne))
    simpa using hcode
  refine ⟨c, hc, hcollection, hstring, ?_⟩
  rw [hcollection, hstring, Option.some_inj, eq_comm, unquoted_eq_self_iff]

lemma exists_ok_of_map {β : Type} {x : Except ResolveError Column} {f : Column → β} {b : β}
    (h : x.toOption.map f = some b) : ∃ c, x = .ok c ∧ f c = b := by
  cases x with
  | error e => cases h
  | ok c => exact ⟨c, rfl, Option.some.inj h⟩

def enumIn (charset : String) : ColumnDefinition where
  type := .collection "enum" ⟨["x", "y"]⟩ (some charset)

/-- A string in a character set, with a collation of another one. -/
def varcharIn (charset : String) : ColumnDefinition where
  type := .string "VARCHAR" (some ⟨"10"⟩) (some charset) (some "latin1_bin")

theorem resolveColumn_charset_plain :
    (enumIn "utf8mb4").type.resolve.name = "ENUM" ∧
      (varcharIn "utf8mb4").type.resolve.code = TypeCode.varchar ∧
      ∃ c c', (resolveColumn {} "a" (enumIn "utf8mb4")).result = .ok c ∧
        (resolveColumn {} "b" (varcharIn "utf8mb4")).result = .ok c' ∧
        c.charset = some "utf8mb4" ∧ c.charset = c'.charset := by
  have hname : (enumIn "utf8mb4").type.resolve.name = "ENUM" := by decide +kernel
  have hcode : (varcharIn "utf8mb4").type.resolve.code = TypeCode.varchar := by decide +kernel
  have hplain : ¬ Quoted "utf8mb4".toList := unquoted_eq_self_iff.mp (by decide +kernel)
  have hvalues : (enumIn "utf8mb4").type.resolve.name ∈ ["ENUM", "SET"] := by
    rw [hname]
    decide
  have hnational : (varcharIn "utf8mb4").type.resolve.code ∉
      [TypeCode.nchar, TypeCode.nvarchar] := by
    rw [hcode]
    decide
  have hok : (resolveColumn {} "b" (varcharIn "utf8mb4")).result.toOption.map Column.name =
      some "b" := by
    decide +kernel
  obtain ⟨c', hc', -⟩ := exists_ok_of_map hok
  obtain ⟨c, hc, hcharset, -, hsame⟩ :=
    resolveColumn_charset (by decide) hvalues .string hnational hc'
  exact ⟨hname, hcode, c, c', hc, hc', hcharset, hsame.mpr hplain⟩

/-- An enumeration keeps the quotes. -/
theorem quoted_charset_kept :
    ¬ ∀ (charset name name' : String) (d d' : ColumnDefinition) (c c' : Column), charset ≠ "" →
      d.type.IsCollection → d.type.charset? = some charset → d'.type.Spells charset →
      d'.type.resolve.code ∉ [TypeCode.nchar, TypeCode.nvarchar] →
      (resolveColumn {} name d).result = .ok c → (resolveColumn {} name' d').result = .ok c' →
      c.charset = c'.charset := by
  intro h
  have hcode : (varcharIn "'utf8mb4'").type.resolve.code ∉
      [TypeCode.nchar, TypeCode.nvarchar] := by
    decide +kernel
  have hkept : (resolveColumn {} "c" (enumIn "'utf8mb4'")).result.toOption.map Column.charset =
      some (some "'utf8mb4'") := by
    decide +kernel
  have htaken : (resolveColumn {} "c" (varcharIn "'utf8mb4'")).result.toOption.map Column.charset =
      some (some "utf8mb4") := by
    decide +kernel
  obtain ⟨c, hc, hquoted⟩ := exists_ok_of_map hkept
  obtain ⟨c', hc', hplain⟩ := exists_ok_of_map htaken
  have hsame := h "'utf8mb4'" "c" "c" (enumIn "'utf8mb4'") (varcharIn "'utf8mb4'") c c' (by decide)
    trivial rfl .string hcode hc hc'
  rw [hquoted, hplain] at hsame
  exact absurd hsame (by decide)

end TableSchema
