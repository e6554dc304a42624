import TableSchema.Ddl
import TableSchema.Proofs.DefaultText
import TableSchema.Proofs.Outline.Build
import TableSchema.Proofs.Source.Literal

/-!
Strings in a definition.

A string can stand in three places of a column: among the values of its type, as its default and as
its comment. The first takes the text that the string holds. The other two take the written form of
that text without the quotes around it, where a quote inside is still doubled and some control
characters are escaped.

What is asked of an engine for that is no more than `Sql.Engine.ReadsString` says, and the standard
one does it. Main statements: `Ddl.table_of_readsString`, `Ddl.table_strings`.
-/

namespace TableSchema

open Source (doubled literal)

variable {v : List Char}

/-! ### Tokens -/

namespace Sql.Lexer

variable {rest : List Char} {fuel : Nat} {ts : List Token}

lemma readString_end (escapes : Bool) (hr : rest.head? ≠ some '\'') :
    readString escapes '\'' ('\'' :: rest) = some ([], rest) := by
  cases rest with
  | nil => rfl
  | cons d rest =>
    have hd : d ≠ '\'' := by simpa using hr
    simp [readString, hd]

lemma readString_cons {c : Char} (hq : c ≠ '\'') (hb : c ≠ '\\') (escapes : Bool)
    (cs : List Char) :
    readString escapes '\'' (c :: cs) =
      (readString escapes '\'' cs).map fun r => (c :: r.1, r.2) := by
  rw [readString.eq_def]
  simp [hq, hb]

lemma readString_doubled (escapes : Bool) (hb : '\\' ∉ v) (hr : rest.head? ≠ some '\'') :
    readString escapes '\'' (doubled v ++ '\'' :: rest) = some (v, rest) := by
  induction v with
  | nil => exact readString_end escapes hr
  | cons c v ih =>
    have hc : c ≠ '\\' := fun e => hb (e ▸ List.mem_cons_self)
    have ih := ih fun h => hb (List.mem_cons_of_mem _ h)
    by_cases h : c = '\''
    · subst h
      simp [Source.doubled_cons, readString, ih]
    · have hd : doubled (c :: v) = c :: doubled v := by simp [Source.doubled_cons, h]
      rw [hd, List.cons_append, readString_cons h hc, ih]
      rfl

lemma readFrom_literal (hb : '\\' ∉ v) (hr : rest.head? ≠ some '\'')
    (h : readFrom .mysql fuel rest = .ok ts) :
    readFrom .mysql (fuel + 1) (literal v ++ rest) = .ok (.string (String.ofList v) :: ts) := by
  have happend : literal v ++ rest = '\'' :: (doubled v ++ '\'' :: rest) := by simp [literal]
  have hblank : Text.isBlank '\'' = false := by decide
  have hdigit : Text.isDigit '\'' = false := by decide
  have hfirst : first .mysql '\'' (doubled v ++ '\'' :: rest) =
      .ok (.string (String.ofList v), rest) := by
    simp [first, hdigit, nameQuote, isStringQuote, readString_doubled true hb hr]
  rw [happend]
  unfold readFrom
  rw [hblank, if_neg (by decide)]
  split
  · next hdash _ => exact absurd hdash (by decide)
  · next hslash _ => exact absurd hslash (by decide)
  · rw [if_neg (by decide), hfirst]
    dsimp only
    rw [h]
    rfl

end Sql.Lexer

/-! ### Written forms -/

lemma unquoted_enclosed (w : String) : Text.unquoted ("'" ++ w ++ "'") = w := by
  have hw : ("'" ++ w ++ "'").toList = '\'' :: (w.toList ++ ['\'']) := by simp
  rw [Text.unquoted, hw, withoutQuotes_of_isQuote rfl, String.ofList_toList]

/-- A text between quotes is neither null nor the current time. -/
lemma defaultExpression_enclosed (w : String) : defaultExpression ("'" ++ w ++ "'") = some w := by
  have hblank : Text.isBlank '\'' = false := by decide
  have hw : Text.trim ("'" ++ w ++ "'").toList = '\'' :: (w.toList ++ ['\'']) := by
    simp [Text.trim, hblank]
  rw [StandsFor.eq (.quoted rfl) hw, String.ofList_toList]

section Spelling

variable {f : Char → List Char}

lemma length_le_flatMap (hf : ∀ c, f c = [c] ∨ (f c).length = 2) (cs : List Char) :
    cs.length ≤ (cs.flatMap f).length := by
  induction cs with
  | nil => simp
  | cons c cs ih =>
    rw [List.flatMap_cons, List.length_append, List.length_cons]
    rcases hf c with h | h
    · rw [h, List.length_singleton]
      omega
    · omega

/-- A text in which some characters are spelled with two is the same only if it has none of them. -/
lemma flatMap_eq_self_iff (hf : ∀ c, f c = [c] ∨ (f c).length = 2) (cs : List Char) :
    cs.flatMap f = cs ↔ ∀ c ∈ cs, f c = [c] := by
  induction cs with
  | nil => simp
  | cons c cs ih =>
    rw [List.flatMap_cons, List.forall_mem_cons, ← ih]
    rcases hf c with h | h
    · simp [h]
    · have hlength := length_le_flatMap hf cs
      have hne : f c ≠ [c] := fun e => by simp [e] at h
      refine iff_of_false (fun e => ?_) fun e => hne e.1
      have := congrArg List.length e
      rw [List.length_append, List.length_cons] at this
      omega

end Spelling

lemma doubled_eq_iff : doubled v = v ↔ '\'' ∉ v := by
  unfold doubled
  rw [flatMap_eq_self_iff fun c => by split_ifs <;> simp]
  constructor
  · intro h hq
    simpa using h _ hq
  · intro h c hc
    have hne : c ≠ '\'' := ne_of_mem_of_not_mem hc h
    exact if_neg hne

/-- A text as it is written between the quotes of a string. -/
def written (v : String) : String := String.ofList (v.toList.flatMap Sql.Expr.escapeChar)

lemma quote_eq (v : String) : Sql.Expr.quote v = "'" ++ written v ++ "'" := by
  rw [← String.toList_inj]
  simp [Sql.Expr.quote, written]

/-- The characters other than a backslash that are escaped in a string. -/
def escapes : List Char := ['\'', '\n', '\t', '\r', '\x08', '\x07', '\x0c', '\x0b']

lemma escapeChar_cases (c : Char) :
    Sql.Expr.escapeChar c = [c] ∨ (Sql.Expr.escapeChar c).length = 2 := by
  unfold Sql.Expr.escapeChar
  split_ifs <;> simp

lemma escapeChar_eq_iff {c : Char} (hb : c ≠ '\\') :
    Sql.Expr.escapeChar c = [c] ↔ c ∉ escapes := by
  unfold Sql.Expr.escapeChar escapes
  split_ifs <;> simp_all

lemma written_eq_iff {v : String} (hb : '\\' ∉ v.toList) :
    written v = v ↔ ∀ c ∈ v.toList, c ∉ escapes := by
  rw [written, ← String.toList_inj, String.toList_ofList, flatMap_eq_self_iff escapeChar_cases]
  refine forall₂_congr fun c hc => escapeChar_eq_iff fun e => hb (e ▸ hc)

/-! ### One string in three places -/

def stringOf (v : String) : String := String.ofList (literal v.toList)

/-- A column whose only value is also its default and its comment. -/
def stringStatement (v : String) : String :=
  "CREATE TABLE t (c ENUM(" ++ stringOf v ++ ") DEFAULT " ++ stringOf v ++ " COMMENT " ++
    stringOf v ++ ")"

lemma toList_stringStatement (v : String) :
    (stringStatement v).toList = "CREATE TABLE t (c ENUM(".toList ++ literal v.toList ++
      (") DEFAULT ".toList ++ literal v.toList ++
        (" COMMENT ".toList ++ literal v.toList ++ ")".toList)) := by
  have happend : ∀ a b c d s : String, (a ++ s ++ b ++ s ++ c ++ s ++ d).toList =
      a.toList ++ s.toList ++ (b.toList ++ s.toList ++ (c.toList ++ s.toList ++ d.toList)) := by
    intro a b c d s
    simp only [String.toList_append, List.append_assoc]
  have hstring : (stringOf v).toList = literal v.toList := String.toList_ofList
  have h := happend "CREATE TABLE t (c ENUM(" ") DEFAULT " " COMMENT " ")" (stringOf v)
  rw [hstring] at h
  exact h

lemma rewrite_stringStatement {v : String} (hb : '\\' ∉ v.toList) :
    Source.rewrite (stringStatement v).toList = (stringStatement v).toList := by
  have hopening : Source.rewritePlain "CREATE TABLE t (c ENUM(".toList =
    "CREATE TABLE t (c ENUM(".toList := rfl
  have hdefault : Source.rewritePlain ") DEFAULT ".toList = ") DEFAULT ".toList := rfl
  have hcomment : Source.rewritePlain " COMMENT ".toList = " COMMENT ".toList := rfl
  have hclosing : Source.rewritePlain ")".toList = ")".toList := rfl
  rw [toList_stringStatement,
    Source.rewrite_append_literal (by decide) hb (by simp),
    Source.rewrite_append_literal (by decide) hb (by simp),
    Source.rewrite_append_literal (by decide) hb (by simp),
    Source.rewrite_plain (by decide), hopening, hdefault, hcomment, hclosing]

/-- The definition of the column, where the string is written as `w` between quotes. -/
def stringDefinition (v w : String) : ColumnDefinition where
  type := .collection "ENUM" ⟨[v]⟩ none
  constraints := [.default ⟨"'" ++ w ++ "'"⟩, .comment (some ("'" ++ w ++ "'"))]

namespace Sql

def stringTokens (v : String) : List Token :=
  [.word "CREATE", .word "TABLE", .word "t", .symbol "(", .word "c", .word "ENUM", .symbol "(",
    .string v, .symbol ")", .word "DEFAULT", .string v, .word "COMMENT", .string v, .symbol ")"]

open Lexer in
lemma lex_stringStatement {v : String} (hb : '\\' ∉ v.toList) :
    read .mysql (stringStatement v).toList = .ok (stringTokens v) := by
  obtain ⟨fuel, hfuel⟩ : ∃ fuel, (stringStatement v).toList.length = fuel + 22 := by
    refine ⟨(stringStatement v).toList.length - 22, ?_⟩
    have hlength : 23 ≤ (stringStatement v).toList.length := by
      rw [toList_stringStatement, List.length_append, List.length_append]
      exact Nat.le_add_right_of_le (Nat.le_add_right 23 _)
    omega
  have hclosing : readFrom .mysql (fuel + 1) ")".toList = .ok [.symbol ")"] := by
    cases fuel <;> rfl
  have hcomment : ∀ n rest, readFrom .mysql (n + 3) (" COMMENT ".toList ++ rest) =
      (readFrom .mysql n rest).map (.word "COMMENT" :: ·) := fun _ _ => rfl
  have hdefault : ∀ n rest, readFrom .mysql (n + 4) (") DEFAULT ".toList ++ rest) =
      ((readFrom .mysql n rest).map (.word "DEFAULT" :: ·)).map (.symbol ")" :: ·) := fun _ _ => rfl
  have hopening : ∀ n rest, readFrom .mysql (n + 11)
      ("CREATE TABLE t (c ENUM(".toList ++ (literal v.toList ++ rest)) =
      (((((((readFrom .mysql n (literal v.toList ++ rest)).map (.symbol "(" :: ·)).map
        (.word "ENUM" :: ·)).map (.word "c" :: ·)).map (.symbol "(" :: ·)).map
        (.word "t" :: ·)).map (.word "TABLE" :: ·)).map (.word "CREATE" :: ·) := fun _ _ => rfl
  -- from the last string back to the first
  have h₃ := readFrom_literal hb (by simp) hclosing
  have h₂ := readFrom_literal hb (by simp) ((hcomment _ _).trans (congrArg _ h₃))
  have h₁ := readFrom_literal hb (by simp) ((hdefault _ _).trans (congrArg _ (congrArg _ h₂)))
  have hall := hopening (fuel + 11) (") DEFAULT ".toList ++ (literal v.toList ++
    (" COMMENT ".toList ++ (literal v.toList ++ ")".toList))))
  rw [h₁] at hall
  rw [Lexer.read, hfuel, toList_stringStatement]
  simp only [List.append_assoc]
  rw [hall, String.ofList_toList]
  rfl

/-- The column with an expression in the three places. -/
def stringTable (e : Expr) : Statement :=
  .createTable { table := "t" } [.column {
    name := "c"
    type := some { name := .known "ENUM", parameters := [.value e] }
    clauses := [.default e, .comment e] }]

lemma readStatement_of {d : Dialect} {cs : List Char} {ts : List Token} {s : Statement}
    (ht : Lexer.read d cs = .ok ts) (hs : Statement.read? d ts = some s) :
    readStatement d cs = .ok s := by
  simp [readStatement, ht, hs]

/-- What an engine does with a string: it reads the same expression in the three places, the plain
text of that is what the string holds, and it is written as `w` between quotes. -/
structure Engine.ReadsString (engine : Engine) (v : String) (e : Expr) (w : String) : Prop where
  read : engine.read .mysql (stringStatement v).toList = .ok (stringTable e)
  plain : engine.plain e = v
  render : engine.render e = "'" ++ w ++ "'"

lemma Engine.standard_readsString {v : String} (hb : '\\' ∉ v.toList) :
    Engine.standard.ReadsString v (.string v) (written v) where
  read := by
    have hstatement : Statement.read? .mysql (stringTokens v) = some (stringTable (.string v)) :=
      rfl
    have hread : Engine.standard.read = readStatement := rfl
    rw [hread]
    exact readStatement_of (lex_stringStatement hb) hstatement
  plain := rfl
  render := quote_eq v

variable {engine : Engine} {e : Expr}

lemma outline_stringStatement {v w : String} (hb : '\\' ∉ v.toList)
    (h : engine.ReadsString v e w) : outline engine .mysql (stringStatement v) =
      .ok { outline := { id := { table := "t" }, columns := [("c", stringDefinition v w)] } } := by
  have hcolumn : (stringTable e).outline engine.toRenderer = .ok { outline := {
      id := { table := "t" }
      columns := [("c", {
        type := .collection "ENUM" ⟨[engine.plain e]⟩ none
        constraints := [.default ⟨engine.render e⟩, .comment (some (engine.render e))] })] } } :=
    rfl
  rw [h.plain, h.render] at hcolumn
  rw [outline, rewrite_stringStatement hb, h.read]
  exact hcolumn

end Sql

open Resolver in
lemma resolveType_enum (v : String) (r : Resolver) :
    resolveType {} (.collection "ENUM" ⟨[v]⟩ none) r =
      .ok () (r.onColumn fun c => fill ⟨"ENUM", TypeCode.char, none, none⟩ none
        { c with typeName := "ENUM", length := some 1, values := [v] }) := by
  have hname : DataType.ofName (DataType.canonicalName "ENUM") =
      ⟨"ENUM", TypeCode.char, none, none⟩ := by decide +kernel
  have htype : ({} : Rules).resolveType (.collection "ENUM" ⟨[v]⟩ none) =
      ⟨"ENUM", TypeCode.char, none, none⟩ := by
    show ColumnType.resolve (.collection "ENUM" ⟨[v]⟩ none) = _
    rw [ColumnType.resolve, ColumnType.name, hname]
    rfl
  unfold resolveType
  rw [htype]
  rfl

def stringColumn (v w : String) : Column where
  name := "c"
  typeName := "ENUM"
  typeCode := TypeCode.char
  length := some 1
  values := [v]
  comment := some w
  hasDefault := true
  defaultValue := some w

def stringEntered (v : String) (u : TableDraft) : Resolver where
  column := {
    name := "c", typeName := "ENUM", typeCode := TypeCode.char, length := some 1, values := [v] }
  table := some u
  pending := some {}

open Resolver in
lemma enterDefinition_string (v w : String) (u : TableDraft) :
    enterDefinition {} (stringDefinition v w).type { column := { name := "c" }, table := some u } =
      .ok () (stringEntered v u) := by
  rw [stringDefinition, enterDefinition_new, bind_ok (resolveType_enum v _), modify_apply]
  rfl

lemma resolveColumn_stringDefinition (v w : String) (u : TableDraft) :
    (resolveColumn {} "c" (stringDefinition v w) (some u)).result = .ok (stringColumn v w) := by
  have hcolumn : ∀ d m : String, ([Constraint.default ⟨d⟩, .comment (some m)].foldl
      (Resolver.clause {}) (stringEntered v u)).close.column =
      { stringColumn v w with
        comment := some (Text.unquoted m), defaultValue := defaultExpression d } := fun _ _ => rfl
  rw [resolveColumn_of_ok (enterDefinition_string v w u)]
  exact congrArg Except.ok ((hcolumn _ _).trans (by
    rw [unquoted_enclosed, defaultExpression_enclosed]
    rfl))

lemma build_stringDefinition (v w : String) :
    ∃ t, (Outline.build {} {
      id := { table := "t" }, columns := [("c", stringDefinition v w)] }).result = .ok t ∧
      t.columns = [stringColumn v w] := by
  have hcolumn := resolveColumn_stringDefinition v w { id := { table := "t" } }
  have hdefine : (TableDraft.define {} { id := { table := "t" } }
      [("c", stringDefinition v w)]).result =
      .ok (TableDraft.extend {} { id := { table := "t" } } ("c", stringDefinition v w)
        (stringColumn v w)) := TableDraft.define_cons_of_ok hcolumn
  exact ⟨_, Outline.build_of_define hdefine, rfl⟩

namespace Ddl

variable {s : Settings}

/-- The table of the statement, for any engine that reads the string. -/
theorem table_of_readsString {engine : Sql.Engine} {e : Sql.Expr} {v w : String}
    (hs : s.skips = false) (hd : Sql.Dialect.choose s.dialect = .ok .mysql)
    (hb : '\\' ∉ v.toList) (h : engine.ReadsString v e w) :
    ∃ t, (table s (stringStatement v) "sql" engine).result = .ok t ∧
      t.columns = [stringColumn v w] := by
  have hsql : isSql "sql" = true := rfl
  have hrules : rules s = {} := by rw [rules, hs]
  have houtline : outline s (stringStatement v) engine =
      (Sql.outline engine .mysql (stringStatement v)).mapError .outline := by rw [outline, hd]
  obtain ⟨t, ht, hcolumns⟩ := build_stringDefinition v w
  refine ⟨t, ?_, hcolumns⟩
  unfold table
  rw [houtline, Sql.outline_stringStatement hb h]
  simp [hsql, Except.mapError, build, hrules, ht]

/-- Where a string is written by doubling its quotes and nothing else, the default and the comment
are the text of the string exactly if it has no quote. -/
theorem table_of_doubling {engine : Sql.Engine} {e : Sql.Expr} {v w : String}
    (hs : s.skips = false) (hd : Sql.Dialect.choose s.dialect = .ok .mysql)
    (hb : '\\' ∉ v.toList) (hw : w.toList = doubled v.toList) (h : engine.ReadsString v e w) :
    ∃ t c, (table s (stringStatement v) "sql" engine).result = .ok t ∧ t.columns = [c] ∧
      c.values = [v] ∧ c.hasDefault = true ∧ (c.defaultValue = some v ↔ '\'' ∉ v.toList) ∧
      (c.comment = some v ↔ '\'' ∉ v.toList) := by
  obtain ⟨t, ht, hcolumns⟩ := table_of_readsString hs hd hb h
  have hsame : some w = some v ↔ '\'' ∉ v.toList := by
    rw [Option.some_inj, ← String.toList_inj, hw, doubled_eq_iff]
  exact ⟨t, stringColumn v w, ht, hcolumns, rfl, rfl, hsame, hsame⟩

/-- **One string in three places**: its text is the value of the column, and its written form is the
default and the comment, so the three agree exactly if nothing in the text is escaped. -/
theorem table_strings (hs : s.skips = false) (hd : Sql.Dialect.choose s.dialect = .ok .mysql)
    {v : String} (hb : '\\' ∉ v.toList) :
    ∃ t c, (table s (stringStatement v)).result = .ok t ∧ t.columns = [c] ∧ c.values = [v] ∧
      c.hasDefault = true ∧ c.defaultValue = some (written v) ∧ c.comment = some (written v) ∧
      (written v = v ↔ ∀ x ∈ v.toList, x ∉ escapes) := by
  obtain ⟨t, ht, hcolumns⟩ := table_of_readsString hs hd hb (Sql.Engine.standard_readsString hb)
  exact ⟨t, stringColumn v (written v), ht, hcolumns, rfl, rfl, rfl, rfl, written_eq_iff hb⟩

theorem table_strings_apostrophe :
    ({} : Settings).skips = false ∧ Sql.Dialect.choose ({} : Settings).dialect = .ok .mysql ∧
      '\\' ∉ "it's".toList ∧
      ∃ t c, (table {} (stringStatement "it's")).result = .ok t ∧ t.columns = [c] ∧
        c.values = ["it's"] ∧ c.defaultValue = some "it''s" ∧ c.comment = some "it''s" := by
  have hbackslash : '\\' ∉ "it's".toList := by decide
  have hwritten : written "it's" = "it''s" := by decide
  obtain ⟨t, c, ht, hcolumns, hvalues, -, hdefault, hcomment, -⟩ :=
    table_strings (s := {}) rfl rfl hbackslash
  exact ⟨rfl, rfl, hbackslash, t, c, ht, hcolumns, hvalues, hwritten ▸ hdefault,
    hwritten ▸ hcomment⟩

/-- A string with a quote is not the default or the comment that it writes. -/
theorem quoted_string_differs :
    ¬ ∀ v : String, '\\' ∉ v.toList → ∃ t c, (table {} (stringStatement v)).result = .ok t ∧
      t.columns = [c] ∧ c.values = [v] ∧ c.defaultValue = some v ∧ c.comment = some v := by
  intro h
  have hbackslash : '\\' ∉ "it's".toList := by decide
  obtain ⟨t, c, ht, hcolumns, -, hdefault, -⟩ := h "it's" hbackslash
  have hwritten : (written "it's").toList = doubled "it's".toList := by decide
  obtain ⟨t', c', ht', hcolumns', -, -, hsame, -⟩ := table_of_doubling (s := {}) rfl rfl hbackslash
    hwritten (Sql.Engine.standard_readsString hbackslash)
  -- both are the one table of the statement
  obtain rfl : t = t' := Except.ok.inj (ht.symm.trans ht')
  obtain rfl : c = c' := by simpa [hcolumns] using hcolumns'
  exact absurd (hsame.mp hdefault) (by decide)

end Ddl
end TableSchema
