import TableSchema.Proofs.Reading
import TableSchema.Proofs.Text.Integer

/-!
Reading a type: when it fails, and what is known after it.

A type is at fault when one of its literals writes no number or too large a one, and when its shape
does not go with the name it resolves to. Nothing else makes the start of a definition fail, and a
start that fails has done nothing to the table. Main statements: `reads_resolveType`, and for the
start of a definition `enterDefinition_error`, `enterDefinition_ok` and `enterDefinition_beside`.
-/

namespace TableSchema

/-! ### The faults of a type -/

/-- A literal that writes no number, or one beyond all limits. -/
def Unreadable (literal : String) : Prop :=
  (∀ n, ¬ Text.Writes literal.toList n) ∨ ∃ n, Text.Writes literal.toList n ∧ maxLiteral < n

/-- A literal that writes a number beyond the limit of a scale. -/
def Oversized (literal : String) : Prop := ∃ n, Text.Writes literal.toList n ∧ maxLength < n

/-- What counts of the first of one or two dimensions: of a fraction its whole part, if any. -/
def wholePart? (literal : String) : Option String :=
  if literal.toList.contains '.' then
    let whole := String.ofList (literal.toList.takeWhile (· ≠ '.'))
    if whole = "" then none else some whole
  else some literal

namespace ColumnType

def lengthLiterals : ColumnType → List String
  | .string _ length _ _ | .nationalString _ length | .nationalVarying _ length =>
    (length.map OneDimension.literal).toList
  | .dimensioned _ one two oneOrTwo _ _ =>
    (one.map OneDimension.literal).toList ++ (two.map TwoDimensions.first).toList ++
      (oneOrTwo.bind fun d => wholePart? d.first).toList
  | .longVarchar .. | .collection .. | .simple .. => []

def scaleLiterals : ColumnType → List String
  | .dimensioned _ _ two oneOrTwo _ _ =>
    (two.map TwoDimensions.second).toList ++ (oneOrTwo.bind OneOrTwoDimensions.second).toList
  | _ => []

/-- `ENUM` and `SET` as written, whatever their name resolves to. -/
def IsCollection : ColumnType → Prop
  | .collection .. => True
  | _ => False

/-- A literal of the type writes no number, or one beyond its limit. -/
def BadLiteral (t : ColumnType) : Prop :=
  (∃ l ∈ t.lengthLiterals, Unreadable l) ∨ ∃ l ∈ t.scaleLiterals, Unreadable l ∨ Oversized l

/-- The shape of the type does not go with the name it resolves to. -/
def Mismatch (t : ColumnType) (name : String) : Prop :=
  t.IsCollection ∧ Text.upperString name ∉ ["ENUM", "SET"] ∨
    ¬ t.IsCollection ∧ Text.upperString name ∈ ["ENUM", "SET"]

end ColumnType

namespace Resolver

/-! ### Numbers -/

lemma readNumber_cases (literal : String) (r : Resolver) :
    (∃ n, readNumber literal r = .ok n r ∧ Text.Writes literal.toList n ∧
        ¬ Unreadable literal) ∨
      ∃ e, readNumber literal r = .error e r ∧ e.kind = .grammarInvariant ∧ Unreadable literal := by
  unfold readNumber number
  rcases h : Text.integer? literal.toList with _ | n
  · refine .inr ⟨_, rfl, rfl, .inl fun n hn => ?_⟩
    rw [Text.integer?_eq_some_iff.mpr hn] at h
    cases h
  · have hn := Text.integer?_eq_some_iff.mp h
    by_cases hlarge : n > maxLiteral
    · exact .inr ⟨.numberTooLarge literal r.column.name, by simp [hlarge], rfl,
        .inr ⟨n, hn, hlarge⟩⟩
    · refine .inl ⟨n, by simp [hlarge], hn, ?_⟩
      rintro (hno | ⟨m, hm, hlt⟩)
      · exact hno n hn
      · exact hlarge (hm.unique hn ▸ hlt)

lemma writes_of_readNumber {literal : String} {r s : Resolver} {n : Int}
    (h : readNumber literal r = .ok n s) :
    Text.Writes literal.toList n ∧ ¬ Unreadable literal := by
  rcases readNumber_cases literal r with ⟨m, hm, hw, hr⟩ | ⟨e, he, -⟩
  · rw [hm] at h
    cases h
    exact ⟨hw, hr⟩
  · rw [he] at h
    cases h

lemma reads_readNumber (literal : String) :
    Reads (Unreadable literal) false (readNumber literal) where
  keeps r := by
    rcases readNumber_cases literal r with ⟨n, h, -⟩ | ⟨e, h, -⟩ <;> rw [h] <;> exact Keeps.refl r
  marks {r n s} h := by
    rcases readNumber_cases literal r with ⟨m, hm, -⟩ | ⟨e, he, -⟩
    · rw [hm] at h
      cases h
      exact Marks.refl _
    · rw [he] at h
      cases h
  beside table r := by
    unfold readNumber
    have hname : (r.beside table).column.name = r.column.name := rfl
    rw [hname]
    rcases number r.column.name literal with e | n <;> rfl
  after k r := by
    unfold readNumber
    have hname : (r.after k).column.name = r.column.name := rfl
    rw [hname]
    rcases number r.column.name literal with e | n <;> rfl
  fails_iff r := by
    rcases readNumber_cases literal r with ⟨n, h, -, hr⟩ | ⟨e, h, -, hr⟩
    · rw [h]
      simpa using hr
    · exact ⟨fun _ => hr, fun _ => ⟨e, r, h⟩⟩
  fault {r e s} h := by
    rcases readNumber_cases literal r with ⟨m, hm, -⟩ | ⟨e', he, hf, -⟩
    · rw [hm] at h
      cases h
    · rw [he] at h
      cases h
      exact hf

lemma reads_readLength (literal : String) :
    Reads (Unreadable literal) false (readLength literal) := by
  unfold readLength
  refine (Reads.bind (Q := False) (reads_readNumber literal) fun n => ?_).congr (or_false _).to_iff
  split_ifs
  · refine (Reads.bind (.of_modify (fun r => ?_) (fun r => ?_) (fun table r => ?_)
      fun _ _ => rfl) fun _ => .of_pure _).congr (or_false _).to_iff
    · exact ⟨rfl, rfl, rfl, rfl⟩
    · exact ⟨(Marks.refl r).observed, rfl⟩
    · unfold beside
      rw [List.map_append]
      rfl
  · exact .of_pure _

lemma reads_readScale (literal : String) :
    Reads (Unreadable literal ∨ Oversized literal) false (readScale literal) := by
  unfold readScale
  refine Reads.bind_of (Q := fun n => n > maxLength) (reads_readNumber literal) (fun n => ?_) ?_
  · split_ifs with h
    · exact (Reads.of_throw (e := .scaleTooLarge literal) fun _ => rfl).congr (by simp [h])
    · exact (Reads.of_pure n).congr (by simp [h])
  · intro r n s hn
    have hw := (writes_of_readNumber hn).1
    exact ⟨fun h => ⟨n, hw, h⟩, fun ⟨m, hm, h⟩ => hw.unique hm ▸ h⟩

lemma reads_readFirst (literal : String) :
    Reads (∃ l, wholePart? literal = some l ∧ Unreadable l) false (readFirst literal) := by
  unfold readFirst wholePart?
  dsimp only
  split_ifs with hdot hempty
  · exact (Reads.of_pure _).congr (by simp)
  · -- the whole part is read twice, and the second time it is known to be a number
    generalize String.ofList (literal.toList.takeWhile (· ≠ '.')) = whole
    refine (Reads.bind_of (Q := fun n => n ≠ 0 ∧ Unreadable whole) (R := False)
      (reads_readNumber whole) (fun n => ?_) ?_).congr (by simp)
    · split_ifs with h
      · exact (Reads.of_pure _).congr (by simp [h])
      · exact (reads_readLength whole).congr (by simp [h])
    · intro r n s hn
      have hreadable : ¬ Unreadable whole := (writes_of_readNumber hn).2
      simp [hreadable]
  · exact (reads_readLength literal).congr (by simp)

/-! ### Types -/

lemma reads_setLength (n : Int) : Reads False false (setLength n) :=
  .of_onColumn (fun _ => rfl) fun _ _ => rfl

lemma reads_useLength (d : Option OneDimension) :
    Reads (∃ l ∈ (d.map OneDimension.literal).toList, Unreadable l) false (useLength d) := by
  unfold useLength
  cases d with
  | none => exact (Reads.of_pure ()).congr (by simp)
  | some d =>
    exact ((reads_readLength d.literal).bind fun n => reads_setLength n).congr (by simp)

def readOne : Option OneDimension → Resolving (Option Int)
  | none => return none
  | some d => return some (← readLength d.literal)

def readTwo : Option TwoDimensions → Option Int → Resolving (Option Int × Option Int)
  | none, length => return (length, none)
  | some d, _ => return (some (← readLength d.first), some (← readScale d.second))

def readOneOrTwo :
    Option OneOrTwoDimensions → Option Int × Option Int → Resolving (Option Int × Option Int)
  | none, found => return found
  | some ⟨first, none⟩, found => return (some (← readFirst first), found.2)
  | some ⟨first, some second⟩, _ => return (some (← readFirst first), some (← readScale second))

lemma readDimensions_eq (one : Option OneDimension) (two : Option TwoDimensions)
    (oneOrTwo : Option OneOrTwoDimensions) :
    readDimensions one two oneOrTwo =
      readOne one >>= fun length => readTwo two length >>= readOneOrTwo oneOrTwo := by
  rcases one with _ | d <;> rcases two with _ | d₂ <;> rcases oneOrTwo with _ | ⟨first, _ | second⟩
  all_goals simp [readDimensions, readOne, readTwo, readOneOrTwo]

lemma reads_readOne (one : Option OneDimension) :
    Reads (∃ l ∈ (one.map OneDimension.literal).toList, Unreadable l) false (readOne one) := by
  cases one with
  | none => exact (Reads.of_pure none).congr (by simp)
  | some d =>
    exact ((reads_readLength d.literal).bind fun n => .of_pure (some n)).congr (by simp)

lemma reads_readTwo (two : Option TwoDimensions) (length : Option Int) :
    Reads ((∃ l ∈ (two.map TwoDimensions.first).toList, Unreadable l) ∨
      ∃ l ∈ (two.map TwoDimensions.second).toList, Unreadable l ∨ Oversized l) false
      (readTwo two length) := by
  cases two with
  | none => exact (Reads.of_pure _).congr (by simp)
  | some d =>
    have hscale := fun n : Int => (reads_readScale d.second).bind fun m => .of_pure (some n, some m)
    exact ((reads_readLength d.first).bind hscale).congr (by simp)

lemma reads_readOneOrTwo (oneOrTwo : Option OneOrTwoDimensions) (found : Option Int × Option Int) :
    Reads ((∃ l ∈ (oneOrTwo.bind fun d => wholePart? d.first).toList, Unreadable l) ∨
      ∃ l ∈ (oneOrTwo.bind OneOrTwoDimensions.second).toList, Unreadable l ∨ Oversized l) false
      (readOneOrTwo oneOrTwo found) := by
  rcases oneOrTwo with _ | ⟨first, _ | second⟩
  · exact (Reads.of_pure _).congr (by simp)
  · exact ((reads_readFirst first).bind fun n => .of_pure (some n, found.2)).congr (by simp)
  · have hscale := fun n : Int => (reads_readScale second).bind fun m => .of_pure (some n, some m)
    exact ((reads_readFirst first).bind hscale).congr (by simp)

def setFound (found : Option Int × Option Int) : Resolving Unit := do
  let (length, scale) := found
  if let some n := length then setLength n
  if let some n := scale then modify (onColumn fun c => { c with scale := some n })

lemma reads_setFound (found : Option Int × Option Int) :
    Reads False false (setFound found) := by
  have hscale := fun n : Int => Reads.of_onColumn (f := fun c => { c with scale := some n })
    (fun _ => rfl) fun _ _ => rfl
  obtain ⟨_ | length, _ | scale⟩ := found
  · exact .of_pure ()
  · exact hscale scale
  · exact reads_setLength length
  · exact ((reads_setLength length).bind fun _ => hscale scale).congr (or_false _).to_iff

lemma reads_useDimensions (one : Option OneDimension) (two : Option TwoDimensions)
    (oneOrTwo : Option OneOrTwoDimensions) (name : String) (u z : Bool) :
    Reads ((∃ l ∈ (ColumnType.dimensioned name one two oneOrTwo u z).lengthLiterals,
        Unreadable l) ∨
      ∃ l ∈ (ColumnType.dimensioned name one two oneOrTwo u z).scaleLiterals,
        Unreadable l ∨ Oversized l) false (useDimensions one two oneOrTwo) := by
  have h : useDimensions one two oneOrTwo =
      (readOne one >>= fun length => readTwo two length >>= readOneOrTwo oneOrTwo) >>=
        setFound := by
    rw [← readDimensions_eq]
    rfl
  rw [h]
  refine (((reads_readOne one).bind fun length => (reads_readTwo two length).bind
    fun found => reads_readOneOrTwo oneOrTwo found).bind reads_setFound).congr ?_
  simp only [ColumnType.lengthLiterals, ColumnType.scaleLiterals, List.mem_append, or_and_right,
    exists_or, or_false]
  refine iff_of_eq ?_
  ac_rfl

lemma reads_useType (t : ColumnType) (name : String) :
    Reads (t.BadLiteral ∨ t.IsCollection ∧ Text.upperString name ∉ ["ENUM", "SET"]) false
      (useType t name) := by
  cases t with
  | string n length charset collation =>
    refine ((reads_useLength length).bind fun _ => .of_pure (charsetOf charset collation)).congr ?_
    simp [ColumnType.BadLiteral, ColumnType.lengthLiterals, ColumnType.scaleLiterals,
      ColumnType.IsCollection]
  | nationalString n length | nationalVarying n length =>
    refine ((reads_useLength length).bind fun _ => .of_pure none).congr ?_
    simp [ColumnType.BadLiteral, ColumnType.lengthLiterals, ColumnType.scaleLiterals,
      ColumnType.IsCollection]
  | dimensioned n one two oneOrTwo u z =>
    refine ((reads_useDimensions one two oneOrTwo n u z).bind fun _ => .of_pure none).congr ?_
    simp [ColumnType.BadLiteral, ColumnType.IsCollection]
  | collection n values charset =>
    have hlength := fun m : Int => (reads_setLength m).bind fun _ => Reads.of_pure charset
    have hbad : ¬ (ColumnType.collection n values charset).BadLiteral := by
      simp [ColumnType.BadLiteral, ColumnType.lengthLiterals, ColumnType.scaleLiterals]
    unfold useType
    dsimp only
    split_ifs with hset henum
    · exact (hlength _).congr (by simp [hbad, hset])
    · exact (hlength 1).congr (by simp [hbad, henum])
    · rw [← bind_assoc]
      refine Reads.congr (Reads.bind (Q := False)
        (.of_throw (e := fun column => .notACollection column name) fun _ => rfl)
        fun _ => .of_pure charset) ?_
      simp [hset, henum, ColumnType.IsCollection]
  | longVarchar | simple =>
    refine (Reads.of_pure _).congr ?_
    simp [ColumnType.BadLiteral, ColumnType.lengthLiterals, ColumnType.scaleLiterals,
      ColumnType.IsCollection]

lemma reads_useName (t : ColumnType) (name : String) :
    Reads (¬ t.IsCollection ∧ name ∈ ["ENUM", "SET"]) (decide (name = "SERIAL"))
      (useName t name) := by
  unfold useName
  split_ifs with hvalues hserial
  · have hne : decide (name = "SERIAL") = false := by
      rcases hvalues with rfl | rfl <;> rfl
    rw [hne]
    cases t with
    | collection n values charset =>
      refine Reads.congr (P := False) (.of_onColumn ?_ ?_) ?_
      · exact fun _ => rfl
      · exact fun _ _ => rfl
      · simp [ColumnType.IsCollection]
    | _ =>
      refine Reads.congr (.of_throw (e := .noValueList name) fun _ => rfl) ?_
      simpa [ColumnType.IsCollection] using hvalues
  · rw [decide_eq_true hserial]
    refine Reads.congr (P := False ∨ False) (.bind (.of_onColumn ?_ ?_)
      fun _ => .of_modify ?_ ?_ ?_ ?_) ?_
    · exact fun _ => rfl
    · exact fun _ _ => rfl
    · exact fun _ => ⟨rfl, rfl, rfl, rfl⟩
    · exact fun _ => ⟨by simp [makeSerial], rfl⟩
    · exact fun _ _ => rfl
    · exact fun _ _ => rfl
    · simp [hvalues]
  · rw [decide_eq_false hserial]
    refine Reads.congr (P := False) (.of_onColumn ?_ ?_) ?_
    · exact fun _ => rfl
    · exact fun _ _ => rfl
    · simp [hvalues]

/-- Reading a type fails just where a literal is bad or the shape does not go with the name. -/
lemma reads_resolveType (rules : Rules) (t : ColumnType) :
    Reads (t.BadLiteral ∨ t.Mismatch (rules.resolveType t).name)
      (decide (Text.upperString (rules.resolveType t).name = "SERIAL"))
      (resolveType rules t) := by
  have hfill : ∀ charset, Reads False false
      (modify (onColumn (fill (rules.resolveType t) charset)) : Resolving Unit) := by
    intro charset
    refine .of_onColumn (fun c => ?_) fun k r => ?_
    · unfold fill
      split_ifs <;> rfl
    · unfold onColumn fill
      split_ifs <;> rfl
  refine ((reads_useType t _).bind fun charset => (reads_useName t _).bind_plain
    fun _ => hfill charset).congr ?_
  rw [or_false, or_assoc]
  rfl

/-! ### The start of a definition -/

variable {rules : Rules} {t : ColumnType} {name : String} {table : Option TableDraft}

/-- What is known when the type of a new column is read. -/
structure Entered (serial : Bool) (name : String) (table : Option TableDraft) (s : Resolver) :
    Prop where
  name : s.column.name = name
  nullability : s.column.nullability = .unspecified
  pending : s.pending = table.map fun _ => {}
  table : s.table = table
  observed : s.observed = if serial then .notNull else .unspecified
  promotable : s.promotable = serial

/-- Beside a table a default is to be decided. -/
def openDefault (r : Resolver) : Resolver :=
  if r.table.isSome then { r with pending := some {} } else r

lemma enterDefinition_new :
    enterDefinition rules t { column := { name }, table } =
      (resolveType rules t >>= fun _ => modify openDefault) { column := { name }, table } := rfl

variable (rules t name table) in
lemma enterDefinition_fails_iff :
    (∃ e s, enterDefinition rules t { column := { name }, table } = .error e s) ↔
      t.BadLiteral ∨ t.Mismatch (rules.resolveType t).name := by
  rw [enterDefinition_new, ← (reads_resolveType rules t).fails_iff { column := { name }, table }]
  rcases h : resolveType rules t { column := { name }, table } with ⟨⟨⟩, s⟩ | ⟨e, s⟩
  · simp [bind_ok h, modify_apply]
  · simp [bind_error h]

lemma enterDefinition_error {e : ResolveError} {s : Resolver}
    (h : enterDefinition rules t { column := { name }, table } = .error e s) :
    e.kind = .grammarInvariant ∧ s.table = table := by
  rw [enterDefinition_new] at h
  rcases hr : resolveType rules t { column := { name }, table } with ⟨⟨⟩, s'⟩ | ⟨e', s'⟩
  · rw [bind_ok hr] at h
    cases h
  · rw [bind_error hr] at h
    cases h
    have hk := (reads_resolveType rules t).keeps { column := { name }, table }
    rw [hr] at hk
    exact ⟨(reads_resolveType rules t).fault hr, hk.table⟩

lemma enterDefinition_ok {s : Resolver}
    (h : enterDefinition rules t { column := { name }, table } = .ok () s) :
    Entered (decide (Text.upperString (rules.resolveType t).name = "SERIAL")) name table s := by
  rw [enterDefinition_new] at h
  rcases hr : resolveType rules t { column := { name }, table } with ⟨⟨⟩, s'⟩ | ⟨e, s'⟩
  · have hk := (reads_resolveType rules t).keeps { column := { name }, table }
    have hm := (reads_resolveType rules t).marks hr
    rw [hr] at hk
    rw [bind_ok hr, modify_apply] at h
    cases h
    have hname : s'.column.name = name := hk.name
    have htable : s'.table = table := hk.table
    have hpending : (openDefault s').pending = table.map fun _ => {} := by
      rw [openDefault, htable]
      rcases table with _ | u
      · exact hk.pending
      · rfl
    unfold openDefault at hpending ⊢
    split_ifs at hpending ⊢
    all_goals exact ⟨hname, hk.nullability, hpending, htable, by simp [hm.observed],
      by simp [hm.promotable]⟩
  · rw [bind_error hr] at h
    cases h

variable (rules t name) in
/-- Beside another table a definition would start the same way. -/
lemma enterDefinition_beside (u u' : TableDraft) :
    enterDefinition rules t { column := { name }, table := some u' } =
      endBeside (some u')
        (enterDefinition rules t { column := { name }, table := some u }) := by
  have hb : resolveType rules t { column := { name }, table := some u' } = endBeside (some u')
      (resolveType rules t { column := { name }, table := some u }) :=
    (reads_resolveType rules t).beside (some u') { column := { name }, table := some u }
  have hk := (reads_resolveType rules t).keeps { column := { name }, table := some u }
  rw [enterDefinition_new, enterDefinition_new]
  rcases hr : resolveType rules t { column := { name }, table := some u } with ⟨⟨⟩, s⟩ | ⟨e, s⟩
  · rw [hr] at hb hk
    have hs : s.table = some u := hk.table
    have hopen : openDefault (s.beside (some u')) = (openDefault s).beside (some u') := by
      simp [openDefault, Resolver.beside, hs]
    rw [bind_ok hr, bind_ok hb, modify_apply, modify_apply, hopen]
    rfl
  · rw [hr] at hb
    rw [bind_error hr, bind_error hb]
    rfl

end Resolver
end TableSchema
