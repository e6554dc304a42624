import TableSchema.Proofs.Text.Casing
import TableSchema.Proofs.Visit

/-!
The spelling of type names.

A type goes by its canonical name alone, which is in upper case and has one space between the words.
So the letter case of a name does not matter, nor do the blanks around its words. Main statement:
`resolveColumn_respelled`.
-/

namespace TableSchema

namespace Text

variable {cs ds bs : List Char} {c d : Char}

/-- **The same spelling**, but for the letter case of ASCII and the blanks between the words and
around them. -/
inductive SameSpelling : List Char → List Char → Prop
  | letter (front back : List Char) {c d : Char} (h : c.toLower = d.toLower) :
    SameSpelling (front ++ c :: back) (front ++ d :: back)
  | gap (front back : List Char) {bs bs' : List Char} (hne : bs ≠ []) (hne' : bs' ≠ [])
    (hbs : ∀ b ∈ bs, isBlank b = true) (hbs' : ∀ b ∈ bs', isBlank b = true) :
    SameSpelling (front ++ bs ++ back) (front ++ bs' ++ back)
  | before {bs : List Char} (hbs : ∀ b ∈ bs, isBlank b = true) (cs : List Char) :
    SameSpelling (bs ++ cs) cs
  | after {bs : List Char} (hbs : ∀ b ∈ bs, isBlank b = true) (cs : List Char) :
    SameSpelling (cs ++ bs) cs
  | refl (cs : List Char) : SameSpelling cs cs
  | symm {cs ds : List Char} : SameSpelling cs ds → SameSpelling ds cs
  | trans {cs ds es : List Char} : SameSpelling cs ds → SameSpelling ds es → SameSpelling cs es

/-! ### Upper case -/

lemma upper_append (cs ds : List Char) : upper (cs ++ ds) = upper cs ++ upper ds :=
  List.flatMap_append

/-- Letters that differ in their case only, within ASCII, have one upper case. -/
lemma upperChar_eq_of_toLower (h : c.toLower = d.toLower) : upperChar c = upperChar d := by
  have hbeyond : ∀ x : Char, ¬ x.toNat < 0x80 → x.toLower = x := fun x hx =>
    toLower_of_not_upper fun hu => hx (Nat.lt_of_le_of_lt (isUpper_iff.mp hu).2 (by decide))
  have hwithin : ∀ x : Char, x.toNat < 0x80 → x.toLower.toNat < 0x80 := fun x hx =>
    ascii_induction (by decide) x hx
  by_cases hc : c.toNat < 0x80
  · have hd : d.toNat < 0x80 := by
      by_contra hd
      rw [hbeyond d hd] at h
      exact hd (h ▸ hwithin c hc)
    have hupper : c.toUpper = d.toUpper := by
      rw [← (toLower_toUpper_ascii hc).2, h, (toLower_toUpper_ascii hd).2]
    rw [upperChar, upperChar, if_pos hc, if_pos hd, hupper]
  · have hd : ¬ d.toNat < 0x80 := fun hd => by
      rw [hbeyond c hc] at h
      exact hc (h ▸ hwithin d hd)
    rw [← hbeyond c hc, h, hbeyond d hd]

lemma blankRanges_apart : ∀ r ∈ blankRanges, (∀ p ∈ upperExpansions, p.1 < r.1 ∨ r.2 < p.1) ∧
    ∀ run ∈ upperRuns, run.last < r.1 ∨ r.2 < run.first := by
  decide +kernel

lemma toUpper_blank_ascii (hc : c.toNat < 0x80) : isBlank c = true → c.toUpper = c :=
  ascii_induction (by decide) c hc

lemma upperChar_blank (h : isBlank c = true) : upperChar c = [c] := by
  by_cases hc : c.toNat < 0x80
  · rw [upperChar, if_pos hc, toUpper_blank_ascii hc h]
  · obtain ⟨r, hr, hfirst, hlast⟩ := exists_blankRange h hc
    obtain ⟨hexpansions, hruns⟩ := blankRanges_apart r hr
    rcases upperChar_cases hc with ⟨p, hp, hpc, -⟩ | ⟨run, hrun, m, hm, -⟩ | ⟨-, hu⟩
    · have := hexpansions p hp
      omega
    · obtain ⟨hfirst', hlast', -⟩ := of_image? hm
      have := hruns run hrun
      omega
    · exact hu

lemma upper_blanks (h : ∀ b ∈ bs, isBlank b = true) : upper bs = bs :=
  upper_eq_self fun b hb => upperChar_blank (h b hb)

/-! ### Words -/

lemma wordsFrom_append_blank (hc : isBlank c = true) (word cs ds : List Char) :
    wordsFrom word (cs ++ c :: ds) = wordsFrom word cs ++ wordsFrom [] ds := by
  induction cs generalizing word with
  | nil =>
    have hend : wordsFrom word [] = if word.isEmpty then [] else [word] := rfl
    rw [hend, List.nil_append, wordsFrom, if_pos hc]
    split_ifs <;> rfl
  | cons x cs ih =>
    rw [List.cons_append, wordsFrom, wordsFrom, ih, ih]
    split_ifs <;> rfl

lemma words_blanks_append (h : ∀ b ∈ bs, isBlank b = true) (cs : List Char) :
    words (bs ++ cs) = words cs := by
  induction bs with
  | nil => rfl
  | cons b bs ih =>
    obtain ⟨hb, hbs⟩ := List.forall_mem_cons.mp h
    exact (wordsFrom_append_blank hb [] [] (bs ++ cs)).trans (ih hbs)

lemma words_gap (hne : bs ≠ []) (h : ∀ b ∈ bs, isBlank b = true) (cs ds : List Char) :
    words (cs ++ bs ++ ds) = words cs ++ words ds := by
  obtain ⟨b, bs, rfl⟩ := List.exists_cons_of_ne_nil hne
  obtain ⟨hb, hbs⟩ := List.forall_mem_cons.mp h
  rw [List.append_assoc, List.cons_append, words, wordsFrom_append_blank hb]
  exact congrArg (words cs ++ ·) (words_blanks_append hbs ds)

lemma words_append_blanks (h : ∀ b ∈ bs, isBlank b = true) (cs : List Char) :
    words (cs ++ bs) = words cs := by
  by_cases hne : bs = []
  · rw [hne, List.append_nil]
  · have hgap := words_gap hne h cs []
    rwa [List.append_nil, show words [] = [] from rfl, List.append_nil] at hgap

theorem SameSpelling.words_upper (h : SameSpelling cs ds) :
    words (upper cs) = words (upper ds) := by
  induction h with
  | letter front back h =>
    have hcons : ∀ x, upper (x :: back) = upperChar x ++ upper back := fun _ => List.flatMap_cons
    rw [upper_append, upper_append, hcons, hcons, upperChar_eq_of_toLower h]
  | gap front back hne hne' hbs hbs' =>
    simp only [upper_append, upper_blanks hbs, upper_blanks hbs', words_gap hne hbs,
      words_gap hne' hbs']
  | before hbs cs => rw [upper_append, upper_blanks hbs, words_blanks_append hbs]
  | after hbs cs => rw [upper_append, upper_blanks hbs, words_append_blanks hbs]
  | refl => rfl
  | symm _ ih => exact ih.symm
  | trans _ _ ih ih' => exact ih.trans ih'

end Text

/-! ### Types under another name -/

namespace ColumnType

def rename (name : String) : ColumnType → ColumnType
  | string _ length charset collation => string name length charset collation
  | longVarchar _ charset collation => longVarchar name charset collation
  | nationalString _ length => nationalString name length
  | nationalVarying _ length => nationalVarying name length
  | dimensioned _ one two oneOrTwo unsigned zerofill =>
    dimensioned name one two oneOrTwo unsigned zerofill
  | collection _ values charset => collection name values charset
  | simple _ unsigned zerofill => simple name unsigned zerofill

lemma resolve_rename {name : String} {t : ColumnType}
    (h : DataType.canonicalName name = DataType.canonicalName t.name) :
    (t.rename name).resolve = t.resolve := by
  have hname : (t.rename name).name = name := by cases t <;> rfl
  have hsuffix : (t.rename name).suffix = t.suffix := by cases t <;> rfl
  rw [resolve, resolve, hname, hsuffix, h]

end ColumnType

namespace Resolver

/-- What is read of a type is read from its parts and from what its name resolves to. -/
lemma resolveType_rename {rules : Rules} {t : ColumnType} {name : String}
    (h : rules.resolveType (t.rename name) = rules.resolveType t) :
    resolveType rules (t.rename name) = resolveType rules t := by
  have htype : ∀ type, useType (t.rename name) type = useType t type := by
    intro type
    cases t <;> rfl
  have hname : ∀ type, useName (t.rename name) type = useName t type := by
    intro type
    cases t <;> rfl
  unfold resolveType
  simp only [h, htype, hname]

end Resolver

/-- **Spelling**: type names that differ in the letter case of ASCII and in their blanks alone come
to the same, whatever is said of the column and whatever table there is: the column or the failure,
the table after it, and the lengths that were cut. -/
theorem resolveColumn_respelled (skipComments : Bool) (name : String) (cs : List Constraint)
    (table : Option TableDraft) {t : ColumnType} {typeName : String}
    (h : Text.SameSpelling t.name.toList typeName.toList) :
    resolveColumn { skipComments } name ⟨t.rename typeName, cs⟩ table =
      resolveColumn { skipComments } name ⟨t, cs⟩ table := by
  have hcanonical : DataType.canonicalName typeName = DataType.canonicalName t.name := by
    rw [DataType.canonicalName, DataType.canonicalName, Text.squeeze, Text.squeeze, h.words_upper]
  have hresolve : Resolver.resolveType { skipComments } (t.rename typeName) =
      Resolver.resolveType { skipComments } t :=
    Resolver.resolveType_rename (ColumnType.resolve_rename hcanonical)
  unfold resolveColumn
  rw [Resolver.run_visit_definition, Resolver.run_visit_definition, Resolver.enterDefinition,
    Resolver.enterDefinition, hresolve]

def tabbed : ColumnType := .longVarchar "Long\tvarchar " (some "latin1") none

theorem resolveColumn_respelled_tabbed :
    Text.SameSpelling tabbed.name.toList "long varchar".toList ∧
      resolveColumn {} "a" ⟨tabbed.rename "long varchar", [.primaryKey]⟩ none =
        resolveColumn {} "a" ⟨tabbed, [.primaryKey]⟩ none := by
  have hspace : ∀ b ∈ [' '], Text.isBlank b = true := List.all_eq_true.mp (by decide)
  have htab : ∀ b ∈ ['\t'], Text.isBlank b = true := List.all_eq_true.mp (by decide)
  have hletter : Text.SameSpelling "Long\tvarchar ".toList "long\tvarchar ".toList :=
    .letter [] "ong\tvarchar ".toList (by decide)
  have hgap : Text.SameSpelling "long\tvarchar ".toList "long varchar ".toList :=
    .gap "long".toList "varchar ".toList (by decide) (by decide) htab hspace
  have hafter : Text.SameSpelling "long varchar ".toList "long varchar".toList :=
    .after hspace "long varchar".toList
  have h : Text.SameSpelling tabbed.name.toList "long varchar".toList :=
    hletter.trans (hgap.trans hafter)
  exact ⟨h, resolveColumn_respelled false "a" [.primaryKey] none h⟩

end TableSchema
