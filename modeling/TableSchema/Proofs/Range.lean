import TableSchema.Proofs.Dimensions
import TableSchema.Proofs.TypeName

/-!
The range of lengths and scales.

A length or scale that a column has is never beyond the largest one, save for the length of a set
with very many values. It is negative where a literal writes a negative number, which the numbers of
a type are not checked for; a length of -1 counts as none. Main statement:
`resolveColumn_inRange_iff`.
-/

namespace TableSchema

open Text (Writes)

def InRange (n : Int) : Prop := 0 ≤ n ∧ n ≤ maxLength

instance (n : Int) : Decidable (InRange n) := inferInstanceAs (Decidable (_ ∧ _))

namespace ColumnType

/-- The literal that the length of a type goes by. Of several dimensions the last kind counts, and
of a fraction its whole part. -/
def lengthLiteral? : ColumnType → Option String
  | .string _ length _ _ | .nationalString _ length | .nationalVarying _ length =>
    length.map OneDimension.literal
  | .dimensioned _ one two oneOrTwo _ _ =>
    oneOrTwo.elim ((two.map TwoDimensions.first).or (one.map OneDimension.literal))
      fun d => wholePart? d.first
  | .longVarchar .. | .collection .. | .simple .. => none

def scaleLiteral? : ColumnType → Option String
  | .dimensioned _ _ two oneOrTwo _ _ =>
    (oneOrTwo.bind OneOrTwoDimensions.second).or (two.map TwoDimensions.second)
  | _ => none

def values : ColumnType → List String
  | .collection _ values _ => values.values
  | _ => []

end ColumnType

namespace Resolver

variable {rules : Rules} {r s : Resolver} {t : ColumnType} {type l : String} {n : Int}
  {length scale : Option Int} {first second literal : Option String}

/-! ### Numbers -/

/-- A number goes by a literal, if there is one: it is not too large, and it is negative just where
the literal writes a negative number, which it then is. -/
structure GoesBy (literal : Option String) (n : Option Int) : Prop where
  negative_iff : ∀ k < 0, n = some k ↔ ∃ l ∈ literal, Writes l.toList k
  le : ∀ k ∈ n, k ≤ maxLength

lemma goesBy_none : GoesBy none none := ⟨by simp, by simp⟩

lemma goesBy_min (h : Writes l.toList n) : GoesBy (some l) (some (min n maxLength)) where
  negative_iff k hk := by
    have hmax : (0 : Int) ≤ maxLength := by decide
    constructor
    · intro hn
      obtain rfl : n = k := by have := Option.some.inj hn; omega
      exact ⟨l, rfl, h⟩
    · rintro ⟨_, ⟨⟩, hw⟩
      rw [hw.unique h] at hk ⊢
      rw [Int.min_eq_left (by omega)]
  le k hk := by
    cases hk
    exact Int.min_le_right _ _

lemma goesBy_fractionLength (h : ∀ l ∈ literal, Writes l.toList 0) :
    GoesBy literal (some fractionLength) where
  negative_iff k hk := by
    constructor
    · rintro ⟨⟩
      exact absurd hk (by decide)
    · rintro ⟨l, hl, hw⟩
      rw [hw.unique (h l hl)] at hk
      exact absurd hk (by decide)
  le k hk := by
    cases hk
    decide

lemma readNumber_ok (h : readNumber l r = .ok n s) : Writes l.toList n ∧ s = r := by
  rcases readNumber_cases l r with ⟨m, hm, hw, -⟩ | ⟨e, he, -⟩
  · rw [hm] at h
    cases h
    exact ⟨hw, rfl⟩
  · rw [he] at h
    cases h

lemma readLength_goesBy (hr : readLength l r = .ok n s) :
    GoesBy (some l) (some n) ∧ s.column = r.column := by
  obtain ⟨m, r', hm, h⟩ := of_bind_ok hr
  obtain ⟨hw, rfl⟩ := readNumber_ok hm
  have hgoes := goesBy_min hw
  split_ifs at h with hlarge
  · cases h
    rw [Int.min_eq_right (Int.le_of_lt hlarge)] at hgoes
    exact ⟨hgoes, rfl⟩
  · cases h
    rw [Int.min_eq_left (Int.not_lt.mp hlarge)] at hgoes
    exact ⟨hgoes, rfl⟩

lemma readScale_goesBy (hr : readScale l r = .ok n s) :
    GoesBy (some l) (some n) ∧ s.column = r.column := by
  obtain ⟨m, r', hm, h⟩ := of_bind_ok hr
  obtain ⟨hw, rfl⟩ := readNumber_ok hm
  have hgoes := goesBy_min hw
  split_ifs at h with hlarge
  · cases h
  · cases h
    rw [Int.min_eq_left (Int.not_lt.mp hlarge)] at hgoes
    exact ⟨hgoes, rfl⟩

lemma readFirst_goesBy (hr : readFirst l r = .ok n s) :
    GoesBy (wholePart? l) (some n) ∧ s.column = r.column := by
  unfold readFirst at hr
  unfold wholePart?
  dsimp only at hr ⊢
  split_ifs at hr ⊢ with hpoint hempty
  · cases hr
    exact ⟨goesBy_fractionLength (by simp), rfl⟩
  · generalize String.ofList (l.toList.takeWhile (· ≠ '.')) = whole at hr ⊢
    obtain ⟨m, r', hm, h⟩ := of_bind_ok hr
    obtain ⟨hw, rfl⟩ := readNumber_ok hm
    split_ifs at h with hzero
    · cases h
      exact ⟨goesBy_fractionLength (by rintro _ ⟨⟩; exact hzero ▸ hw), rfl⟩
    · exact readLength_goesBy h
  · exact readLength_goesBy hr

/-! ### Dimensions -/

lemma readOne_goesBy {one : Option OneDimension} (h : readOne one r = .ok length s) :
    GoesBy (one.map OneDimension.literal) length ∧ s.column = r.column := by
  cases one with
  | none =>
    cases h
    exact ⟨goesBy_none, rfl⟩
  | some d =>
    obtain ⟨n, r', hn, h⟩ := of_bind_ok h
    cases h
    exact readLength_goesBy hn

lemma readTwo_goesBy {two : Option TwoDimensions} {found : Option Int × Option Int}
    (hlength : GoesBy literal length) (h : readTwo two length r = .ok found s) :
    GoesBy ((two.map TwoDimensions.first).or literal) found.1 ∧
      GoesBy (two.map TwoDimensions.second) found.2 ∧ s.column = r.column := by
  cases two with
  | none =>
    cases h
    exact ⟨hlength, goesBy_none, rfl⟩
  | some d =>
    obtain ⟨n, r₁, hn, h⟩ := of_bind_ok h
    obtain ⟨m, r₂, hm, h⟩ := of_bind_ok h
    cases h
    obtain ⟨hfirst, hr⟩ := readLength_goesBy hn
    obtain ⟨hsecond, hs⟩ := readScale_goesBy hm
    exact ⟨hfirst, hsecond, hs.trans hr⟩

lemma readOneOrTwo_goesBy {oneOrTwo : Option OneOrTwoDimensions}
    {found found' : Option Int × Option Int} (hlength : GoesBy first found.1)
    (hscale : GoesBy second found.2) (h : readOneOrTwo oneOrTwo found r = .ok found' s) :
    GoesBy (oneOrTwo.elim first fun d => wholePart? d.first) found'.1 ∧
      GoesBy ((oneOrTwo.bind OneOrTwoDimensions.second).or second) found'.2 ∧
      s.column = r.column := by
  rcases oneOrTwo with _ | ⟨l, _ | m⟩
  · cases h
    exact ⟨hlength, hscale, rfl⟩
  · obtain ⟨n, r₁, hn, h⟩ := of_bind_ok h
    cases h
    obtain ⟨hfirst, hr⟩ := readFirst_goesBy hn
    exact ⟨hfirst, hscale, hr⟩
  · obtain ⟨n, r₁, hn, h⟩ := of_bind_ok h
    obtain ⟨k, r₂, hk, h⟩ := of_bind_ok h
    cases h
    obtain ⟨hfirst, hr⟩ := readFirst_goesBy hn
    obtain ⟨hsecond, hs⟩ := readScale_goesBy hk
    exact ⟨hfirst, hsecond, hs.trans hr⟩

/-! ### Types -/

/-- What a type gives to a column without length and scale. A set may be wider than the largest
length, and a length of -1 counts as none. -/
structure Gives (t : ColumnType) (type : String) (length : Option Int) (c : Column) : Prop where
  length_eq : c.length = length.bind Column.lengthOf
  negative_iff : ∀ k < 0, length = some k ↔ ∃ l ∈ t.lengthLiteral?, Writes l.toList k
  le_iff : (∀ k ∈ length, k ≤ maxLength) ↔
    (Text.upperString type = "SET" → t.values.length ≤ 0x40000000)
  scale : GoesBy t.scaleLiteral? c.scale

lemma Gives.of_goesBy {c : Column} (ht : t.values = []) (hlength : GoesBy t.lengthLiteral? length)
    (hscale : GoesBy t.scaleLiteral? scale)
    (hc : c.length = length.bind Column.lengthOf ∧ c.scale = scale) : Gives t type length c where
  length_eq := hc.1
  negative_iff := hlength.negative_iff
  le_iff := iff_of_true hlength.le fun _ => by simp [ht]
  scale := hc.2 ▸ hscale

lemma Gives.of_collection {c : Column} {name : String} {list : ValueList} {charset : Option String}
    (hn : 0 ≤ n)
    (hle : n ≤ maxLength ↔ (Text.upperString type = "SET" → list.values.length ≤ 0x40000000))
    (hlength : c.length = Column.lengthOf n) (hscale : c.scale = none) :
    Gives (.collection name list charset) type (some n) c where
  length_eq := hlength
  negative_iff k hk := by
    have hne : n ≠ k := by omega
    simp [ColumnType.lengthLiteral?, hne]
  le_iff := by simpa [ColumnType.values] using hle
  scale := hscale ▸ goesBy_none

/-- A set has at most this many values, if its width is not beyond the largest length. -/
lemma setWidth_le_iff (values : List String) :
    setWidth values ≤ maxLength ↔ values.length ≤ 0x40000000 := by
  unfold setWidth maxLength
  omega

lemma useLength_goesBy {d : Option OneDimension} (hr : r.column.length = none)
    (h : useLength d r = .ok () s) :
    ∃ length, GoesBy (d.map OneDimension.literal) length ∧
      s.column.length = length.bind Column.lengthOf ∧ s.column.scale = r.column.scale := by
  cases d with
  | none =>
    cases h
    exact ⟨none, goesBy_none, hr, rfl⟩
  | some d =>
    obtain ⟨n, r', hn, h⟩ := of_bind_ok h
    obtain ⟨hgoes, hcolumn⟩ := readLength_goesBy hn
    cases h
    have hscale : r'.column.scale = r.column.scale := congrArg Column.scale hcolumn
    exact ⟨some n, hgoes, rfl, hscale⟩

lemma setFound_fresh {found : Option Int × Option Int} (hlength : r.column.length = none)
    (hscale : r.column.scale = none) (h : setFound found r = .ok () s) :
    s.column.length = found.1.bind Column.lengthOf ∧ s.column.scale = found.2 := by
  obtain ⟨_ | n, _ | m⟩ := found <;> cases h <;> simp [onColumn, hlength, hscale]

lemma useType_gives {charset : Option String} (hlength : r.column.length = none)
    (hscale : r.column.scale = none) (h : useType t type r = .ok charset s) :
    ∃ length, Gives t type length s.column := by
  cases t with
  | string | nationalString | nationalVarying =>
    obtain ⟨⟨⟩, r', hl, h⟩ := of_bind_ok h
    cases h
    obtain ⟨length, hgoes, hlen, hsc⟩ := useLength_goesBy hlength hl
    exact ⟨length, .of_goesBy rfl hgoes goesBy_none ⟨hlen, hsc.trans hscale⟩⟩
  | dimensioned name one two oneOrTwo unsigned zerofill =>
    obtain ⟨⟨⟩, r', hd, h⟩ := of_bind_ok h
    cases h
    obtain ⟨found, r₃, hfound, hset⟩ := of_bind_ok
      (show (readDimensions one two oneOrTwo >>= setFound) r = .ok () s from hd)
    rw [readDimensions_eq] at hfound
    -- each kind of dimension is read on top of what the one before it found
    obtain ⟨length, r₁, hone, hfound⟩ := of_bind_ok hfound
    obtain ⟨found', r₂, htwo, hfound⟩ := of_bind_ok hfound
    obtain ⟨hgoes, hr₁⟩ := readOne_goesBy hone
    obtain ⟨hfirst, hsecond, hr₂⟩ := readTwo_goesBy hgoes htwo
    obtain ⟨hlen, hsc, hr₃⟩ := readOneOrTwo_goesBy hfirst hsecond hfound
    have hcolumn : r₃.column = r.column := (hr₃.trans hr₂).trans hr₁
    exact ⟨found.1, .of_goesBy rfl hlen hsc
      (setFound_fresh (hcolumn ▸ hlength) (hcolumn ▸ hscale) hset)⟩
  | collection name values charset =>
    unfold useType at h
    dsimp only at h
    split_ifs at h with hset henum
    · cases h
      refine ⟨some (setWidth values.values), .of_collection (Int.le_max_left _ _) ?_ rfl hscale⟩
      rw [setWidth_le_iff]
      exact ⟨fun h _ => h, fun h => h hset⟩
    · cases h
      refine ⟨some 1, .of_collection (by decide) ?_ rfl hscale⟩
      exact iff_of_true (by decide) fun h => absurd h hset
    · cases h
  | longVarchar | simple =>
    cases h
    exact ⟨none, .of_goesBy rfl goesBy_none goesBy_none ⟨hlength, hscale⟩⟩

end Resolver

/-! ### Definitions -/

open Resolver

lemma DataType.inRange_ofName (name : String) :
    (∀ n ∈ (ofName name).length, InRange n) ∧ ∀ n ∈ (ofName name).scale, InRange n := by
  have hall : ∀ type ∈ registered,
      (∀ n ∈ type.length, InRange n) ∧ ∀ n ∈ type.scale, InRange n := by
    decide
  unfold ofName
  rcases hfind : registered.find? (·.name == name) with _ | type
  · rw [hfind]
    simp
  · rw [hfind]
    exact hall type (List.mem_of_find?_eq_some hfind)

lemma ColumnType.inRange_resolve (t : ColumnType) :
    (∀ n ∈ t.resolve.length, InRange n) ∧ ∀ n ∈ t.resolve.scale, InRange n := by
  unfold resolve
  dsimp only
  exact DataType.inRange_ofName _

namespace Resolver

variable {literal : Option String} {scale length registered : Option Int} {t : ColumnType}
  {type l : String} {c : Column} {n : Int}

/-- A scale is in range unless its literal writes a negative number. -/
lemma GoesBy.inRange_iff (h : GoesBy literal scale) (hr : ∀ n ∈ registered, InRange n) :
    (∀ n ∈ scale.or registered, InRange n) ↔
      ∀ l ∈ literal, ∀ n, Writes l.toList n → 0 ≤ n := by
  constructor
  · intro hin l hl n hw
    by_contra hneg
    have hscale := (h.negative_iff n (by omega)).mpr ⟨l, hl, hw⟩
    exact hneg (hin n (by rw [hscale]; rfl)).1
  · intro hliteral n hn
    rcases Option.or_eq_some_iff.mp hn with hscale | ⟨-, hregistered⟩
    · refine ⟨?_, h.le n hscale⟩
      by_contra hneg
      obtain ⟨l, hl, hw⟩ := (h.negative_iff n (by omega)).mp hscale
      exact hneg (hliteral l hl n hw)
    · exact hr n hregistered

/-- A length of -1 counts as none. -/
lemma bind_lengthOf_eq_some_iff :
    length.bind Column.lengthOf = some n ↔ length = some n ∧ n ≠ -1 := by
  rcases length with _ | m
  · simp
  · rw [Option.bind_some, Column.lengthOf, Column.openLength, Option.some.injEq]
    split_ifs with hopen
    · subst hopen
      exact iff_of_false nofun fun h => h.2 h.1.symm
    · rw [Option.some.injEq]
      exact ⟨fun h => ⟨h, h ▸ hopen⟩, And.left⟩

/-- A length is in range unless its literal writes a number below -1 or a set has too many
values. -/
lemma Gives.inRange_iff (h : Gives t type length c) (hr : ∀ n ∈ registered, InRange n) :
    (∀ n ∈ c.length.or registered, InRange n) ↔
      (∀ l ∈ t.lengthLiteral?, ∀ n, Writes l.toList n → -1 ≤ n) ∧
        (Text.upperString type = "SET" → t.values.length ≤ 0x40000000) := by
  rw [← h.le_iff, h.length_eq]
  constructor
  · intro hin
    have hgiven : ∀ n, length = some n → n ≠ -1 → InRange n := fun n hn hne =>
      hin n (by rw [bind_lengthOf_eq_some_iff.mpr ⟨hn, hne⟩]; rfl)
    refine ⟨fun l hl n hw => ?_, fun n hn => ?_⟩
    · by_contra hneg
      have hlength := (h.negative_iff n (by omega)).mpr ⟨l, hl, hw⟩
      exact absurd (hgiven n hlength (by omega)).1 (by omega)
    · -- as -1 counts as none, the column does not show it
      by_cases hopen : n = -1
      · rw [hopen]
        decide
      · exact (hgiven n hn hopen).2
  · rintro ⟨hliteral, hle⟩ n hn
    rcases Option.or_eq_some_iff.mp hn with hlength | ⟨-, hregistered⟩
    · obtain ⟨hlength, hopen⟩ := bind_lengthOf_eq_some_iff.mp hlength
      refine ⟨?_, hle n hlength⟩
      by_contra hneg
      obtain ⟨l, hl, hw⟩ := (h.negative_iff n (by omega)).mp hlength
      have := hliteral l hl n hw
      omega
    · exact hr n hregistered

/-- A negative length is kept, and -1 counts as none. -/
lemma Gives.length_or (h : Gives t type length c) (hl : l ∈ t.lengthLiteral?) (hn : n < 0)
    (hw : Writes l.toList n) (registered : Option Int) :
    c.length.or registered = if n ≠ -1 then some n else registered := by
  have hlength := (h.negative_iff n hn).mpr ⟨l, hl, hw⟩
  rw [h.length_eq, hlength, Option.bind_some, Column.lengthOf, Column.openLength]
  by_cases hopen : n = -1
  · simp [hopen]
  · simp [hopen]

/-- What a column has is what its type gives, or what is registered. -/
lemma exists_gives {skipComments : Bool} {name : String} {d : ColumnDefinition}
    {table : Option TableDraft}
    (hok : (resolveColumn { skipComments } name d table).result = .ok c) :
    let type := d.type.resolve
    ∃ length given, Gives d.type type.name length given ∧
      c.length = given.length.or
        (if type.code = TypeCode.nchar then some 1 else type.length) ∧
      c.scale = given.scale.or type.scale := by
  intro type
  obtain ⟨s, hs, hmeasures⟩ := exists_measures hok
  obtain ⟨charset, r, htype, hfill⟩ := enterDefinition_fills hs
  obtain ⟨length, hgives⟩ := useType_gives rfl rfl htype
  obtain ⟨hlength, hscale, -⟩ := (Prod.mk.inj (hmeasures.symm.trans hfill)).imp_right Prod.mk.inj
  have hregistered : (if type.code = TypeCode.nchar then type.length.or (some 1) else type.length) =
      if type.code = TypeCode.nchar then some 1 else type.length := by
    split_ifs with hcode
    · rw [ColumnType.length_resolve hcode, Option.none_or]
    · rfl
  exact ⟨length, r.column, hgives, hlength.trans (congrArg r.column.length.or hregistered), hscale⟩

end Resolver

/-- **Range**: the length of a column is in range exactly if the literal it goes by, if there is
one, writes no number below -1, and the type is no set of too many values. The scale is in range
exactly if its literal writes no negative number. No negative number is refused: as a length, -1
counts as none, and all others are the length or the scale of the column. -/
theorem resolveColumn_inRange_iff {skipComments : Bool} {name : String} {d : ColumnDefinition}
    {table : Option TableDraft} {c : Column}
    (hok : (resolveColumn { skipComments } name d table).result = .ok c) :
    let type := d.type.resolve
    ((∀ n ∈ c.length, InRange n) ↔
        (∀ l ∈ d.type.lengthLiteral?, ∀ n, Writes l.toList n → -1 ≤ n) ∧
          (type.name = "SET" → d.type.values.length ≤ 0x40000000)) ∧
      ((∀ n ∈ c.scale, InRange n) ↔
        ∀ l ∈ d.type.scaleLiteral?, ∀ n, Writes l.toList n → 0 ≤ n) ∧
      (∀ l ∈ d.type.lengthLiteral?, ∀ n < 0, Writes l.toList n →
        c.length = if n ≠ -1 then some n
          else if type.code = TypeCode.nchar then some 1 else type.length) ∧
      ∀ l ∈ d.type.scaleLiteral?, ∀ n < 0, Writes l.toList n → c.scale = some n := by
  intro type
  obtain ⟨length, given, hgives, hlength, hscale⟩ := exists_gives hok
  obtain ⟨hinLength, hinScale⟩ := d.type.inRange_resolve
  have hin : ∀ n ∈ (if type.code = TypeCode.nchar then some 1 else type.length), InRange n := by
    split_ifs
    · rintro _ ⟨⟩
      decide
    · exact hinLength
  have hset : Text.upperString type.name = "SET" ↔ type.name = "SET" :=
    d.type.upperString_resolve_name_iff (by decide)
  rw [hlength, hscale, hgives.inRange_iff hin, hgives.scale.inRange_iff hinScale, hset]
  refine ⟨Iff.rfl, Iff.rfl, fun l hl n hn hw => hgives.length_or hl hn hw _,
    fun l hl n hn hw => ?_⟩
  rw [(hgives.scale.negative_iff n hn).mpr ⟨l, hl, hw⟩, Option.some_or]

/-- A length that counts as none, and a scale that is kept. -/
def negativeDefinition : ColumnDefinition where
  type := .dimensioned "DECIMAL" none none (some ⟨"-1", some "-3"⟩) false false

theorem resolveColumn_inRange_iff_negative :
    ∃ c, (resolveColumn {} "a" negativeDefinition).result = .ok c ∧
      c.length = some 10 ∧ (∀ n ∈ c.length, InRange n) ∧
      c.scale = some (-3) ∧ ¬ ∀ n ∈ c.scale, InRange n := by
  have hone : Writes "-1".toList (-1) := Text.integer?_eq_some_iff.mp (by decide +kernel)
  have hthree : Writes "-3".toList (-3) := Text.integer?_eq_some_iff.mp (by decide +kernel)
  have hten : negativeDefinition.type.resolve.code ≠ TypeCode.nchar ∧
      negativeDefinition.type.resolve.length = some 10 := by decide +kernel
  have hok : (resolveColumn {} "a" negativeDefinition).result.isOk = true := by decide +kernel
  rcases hc : (resolveColumn {} "a" negativeDefinition).result with e | c
  · rw [hc] at hok
    cases hok
  · obtain ⟨-, hscale, hlengthOf, hscaleOf⟩ := resolveColumn_inRange_iff hc
    have hlength : c.length = some 10 := by
      rw [hlengthOf "-1" rfl (-1) (by decide) hone, if_neg (by decide), if_neg hten.1, hten.2]
    refine ⟨c, rfl, hlength, ?_, hscaleOf "-3" rfl (-3) (by decide) hthree, ?_⟩
    · rw [hlength]
      rintro _ ⟨⟩
      decide
    · rw [hscale]
      exact fun h => absurd (h "-3" rfl (-3) hthree) (by decide)

def negativeString : ColumnDefinition where
  type := .string "VARCHAR" (some ⟨"-5"⟩) none none

/-- A negative length is not refused. -/
theorem negative_length_kept :
    ¬ ∀ (skipComments : Bool) (name : String) (d : ColumnDefinition) (table : Option TableDraft)
      (c : Column), (resolveColumn { skipComments } name d table).result = .ok c →
        (∀ n ∈ c.length, InRange n) ∧ ∀ n ∈ c.scale, InRange n := by
  intro h
  have hok : (resolveColumn {} "c" negativeString).result.toOption.map Column.length =
      some (some (-5)) := by decide +kernel
  rcases hc : (resolveColumn {} "c" negativeString).result with e | c
  · rw [hc] at hok
    cases hok
  · rw [hc] at hok
    have hlength : c.length = some (-5) := Option.some.inj hok
    exact absurd ((h false "c" negativeString none c hc).1 (-5) hlength) (by decide)

end TableSchema
