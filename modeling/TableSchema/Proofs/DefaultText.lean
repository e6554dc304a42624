import TableSchema.DefaultValue
import TableSchema.Proofs.Text.Casing
import TableSchema.Proofs.Text.Integer
import TableSchema.Proofs.Text.Letters

/-!
What the text of a default says.

The text is read without the blanks around it. It says null or the current time in a few ways that
can be listed, and anything else stands for itself, perhaps without the quotes around it. See
`defaultExpression_iff`.
-/

namespace TableSchema

open Text

variable {cs t name rest w v : List Char} {c q : Char}

/-! ### Runs of characters -/

lemma dropWhile_eq_iff {p : Char → Bool} : cs.dropWhile p = rest ↔
    ∃ front, cs = front ++ rest ∧ (∀ c ∈ front, p c = true) ∧ ∀ c ∈ rest.head?, p c = false := by
  constructor
  · rintro rfl
    refine ⟨cs.takeWhile p, List.takeWhile_append_dropWhile.symm,
      fun c hc => List.mem_takeWhile_imp hc, fun c hc => ?_⟩
    have hhead := List.head?_dropWhile_not p cs
    rw [Option.mem_def.mp hc] at hhead
    exact hhead
  · rintro ⟨front, rfl, hfront, hrest⟩
    rw [List.dropWhile_append_of_pos hfront]
    cases rest with
    | nil => rfl
    | cons c rest => rw [List.dropWhile_cons, if_neg (by simp [hrest c rfl])]

/-- `t` is what is left of a text without the blanks at its ends. -/
inductive Strips : List Char → List Char → Prop
  | mk {before t after : List Char} (hbefore : ∀ c ∈ before, isBlank c = true)
      (hafter : ∀ c ∈ after, isBlank c = true) (hhead : ∀ c ∈ t.head?, isBlank c = false)
      (hlast : ∀ c ∈ t.getLast?, isBlank c = false) : Strips (before ++ t ++ after) t

lemma strips_iff : Strips cs t ↔ trim cs = t := by
  constructor
  · rintro @⟨before, t, after, hbefore, hafter, hhead, hlast⟩
    rcases t with _ | ⟨c, rest⟩
    · have hblank : (before ++ [] ++ after).dropWhile isBlank = [] := by
        rw [List.dropWhile_eq_nil_iff, List.append_nil]
        exact List.forall_mem_append.mpr ⟨hbefore, hafter⟩
      rw [trim, hblank]
      rfl
    · refine trim_append hbefore hafter ⟨c, rest, rfl, hhead c rfl⟩ ?_
      obtain ⟨front, d, hd⟩ := List.eq_nil_or_concat (c :: rest) |>.resolve_left (by simp)
      rw [List.concat_eq_append] at hd
      exact ⟨front, d, hd, hlast d (by rw [hd, List.getLast?_concat]; rfl)⟩
  · rintro rfl
    obtain ⟨before, hcs, hbefore, hhead⟩ := dropWhile_eq_iff.mp (Eq.refl (cs.dropWhile isBlank))
    obtain ⟨after, hrest, hafter, hlast⟩ :=
      dropWhile_eq_iff.mp (Eq.refl ((cs.dropWhile isBlank).reverse.dropWhile isBlank))
    have hrest' : cs.dropWhile isBlank = trim cs ++ after.reverse := by
      rw [trim, ← List.reverse_append, ← hrest, List.reverse_reverse]
    rw [hrest'] at hcs hhead
    have hmk : Strips (before ++ trim cs ++ after.reverse) (trim cs) := by
      refine ⟨hbefore, fun c hc => hafter c (List.mem_reverse.mp hc), fun c hc => ?_,
        fun c hc => ?_⟩
      · refine hhead c ?_
        rw [List.head?_append, Option.mem_def.mp hc]
        rfl
      · rw [trim, List.getLast?_reverse] at hc
        exact hlast c hc
    rwa [List.append_assoc, ← hcs] at hmk

/-! ### Null -/

/-- The word null in any letter case. -/
def IsNull (t : List Char) : Prop := t.map Char.toLower = "null".toList

lemma upperChar_small : ∀ n ∈ smallBeyond, ¬ upperChar (Char.ofNat n) ⊆ "NULL".toList := by
  decide +kernel

/-- Only a letter of ASCII has an upper case within the word. -/
lemma toNat_lt_of_upperChar (h : upperChar c ⊆ "NULL".toList) : c.toNat < 0x80 := by
  have hascii : ∀ d ∈ "NULL".toList, d.toNat < 0x80 := by simp
  by_contra hc
  by_cases hs : IsSmall c.toNat
  · have hnot := upperChar_small c.toNat (hs.mem_smallBeyond hc)
    rw [Char.ofNat_toNat] at hnot
    exact hnot h
  · have hself := upperChar_eq_self hs fun d hd => hascii d (h hd)
    exact hc (hascii c (h (by rw [hself]; exact List.mem_singleton_self c)))

lemma upper_eq_map (h : ∀ c ∈ cs, c.toNat < 0x80) : upper cs = cs.map Char.toUpper := by
  induction cs with
  | nil => rfl
  | cons c cs ih =>
    obtain ⟨hc, hcs⟩ := List.forall_mem_cons.mp h
    have hu : upperChar c = [c.toUpper] := if_pos hc
    rw [upper, List.flatMap_cons, hu, ← upper, ih hcs]
    rfl

lemma upper_eq_null_iff : upper t = "NULL".toList ↔ IsNull t := by
  constructor
  · intro h
    have ht : ∀ c ∈ t, c.toNat < 0x80 := fun c hc =>
      toNat_lt_of_upperChar fun d hd => h ▸ List.mem_flatMap.mpr ⟨c, hc, hd⟩
    rw [upper_eq_map ht] at h
    have hlower := congrArg (List.map Char.toLower) h
    rw [List.map_map] at hlower
    rw [IsNull, ← List.map_congr_left fun c hc => (toLower_toUpper_ascii (ht c hc)).1]
    exact hlower
  · intro h
    have ht : ∀ c ∈ t, c.toNat < 0x80 := by
      intro c hc
      have hmem : c.toLower ∈ "null".toList := h ▸ List.mem_map_of_mem hc
      by_cases hu : c.isUpper = true
      · exact Nat.lt_of_le_of_lt (isUpper_iff.mp hu).2 (by decide)
      · rw [toLower_of_not_upper hu] at hmem
        have hletters : ∀ d ∈ "null".toList, d.toNat < 0x80 := by simp
        exact hletters c hmem
    have hupper := congrArg (List.map Char.toUpper) h
    rw [List.map_map] at hupper
    rw [upper_eq_map ht, ← List.map_congr_left fun c hc => (toLower_toUpper_ascii (ht c hc)).2]
    exact hupper

/-! ### The current time -/

lemma dropWord?_eq_some_iff (hw : ∀ l ∈ w, l ≤ 'z') : dropWord? w cs = some rest ↔
    ∃ name, cs = name ++ rest ∧ name.map fold = w := by
  induction w generalizing cs with
  | nil => simp [dropWord?, eq_comm]
  | cons l w ih =>
    obtain ⟨hl, hw⟩ := List.forall_mem_cons.mp hw
    cases cs with
    | nil => simp [dropWord?]
    | cons c cs =>
      rw [dropWord?]
      split_ifs with hc
      · rw [ih hw]
        constructor
        · rintro ⟨name, rfl, rfl⟩
          exact ⟨c :: name, rfl, by rw [List.map_cons, (isLetter_iff_of_le hl).mp hc]⟩
        · rintro ⟨name, hname, hfold⟩
          obtain ⟨d, name, rfl, -, hfold⟩ := List.map_eq_cons_iff.mp hfold
          obtain ⟨-, rfl⟩ := List.cons.inj hname
          exact ⟨name, rfl, hfold⟩
      · simp only [false_iff, not_exists, not_and]
        intro name hname hfold
        obtain ⟨d, name, rfl, hd, -⟩ := List.map_eq_cons_iff.mp hfold
        obtain ⟨rfl, -⟩ := List.cons.inj hname
        exact hc ((isLetter_iff_of_le hl).mpr hd)

inductive Precision : List Char → Prop
  | none : Precision []
  | digits {before ds after : List Char} (hbefore : ∀ c ∈ before, isBlank c = true)
      (hds : ∀ c ∈ ds, isDigit c = true) (hafter : ∀ c ∈ after, isBlank c = true) :
    Precision ('(' :: (before ++ ds ++ after ++ [')']))

/-- A word in any letter case, and perhaps a precision. -/
inductive Calls (w : List Char) : List Char → Prop
  | mk {name gap precision : List Char} (hname : name.map fold = w)
      (hgap : ∀ c ∈ gap, isBlank c = true) (h : Precision precision) :
    Calls w (name ++ gap ++ precision)

def CurrentTime (t : List Char) : Prop :=
  Calls "current_timestamp".toList t ∨ Calls "now".toList t

lemma isBlank_of_isDigit (h : isDigit c = true) : isBlank c = false := by
  obtain ⟨d, hd⟩ := Option.isSome_iff_exists.mp h
  exact isBlank_of_digitValue? hd

lemma dropWhile_digits_iff :
    ((cs.dropWhile isBlank).dropWhile isDigit).dropWhile isBlank = [')'] ↔
      ∃ before ds after, cs = before ++ ds ++ after ++ [')'] ∧ (∀ c ∈ before, isBlank c = true) ∧
        (∀ c ∈ ds, isDigit c = true) ∧ ∀ c ∈ after, isBlank c = true := by
  have hparen : ∀ c ∈ [')'].head?, isBlank c = false ∧ isDigit c = false := by
    rintro c ⟨⟩
    decide
  constructor
  · intro h
    obtain ⟨after, hafter, hblank, -⟩ := dropWhile_eq_iff.mp h
    obtain ⟨ds, hds, hdigit, -⟩ := dropWhile_eq_iff.mp hafter
    obtain ⟨before, hbefore, hblank', -⟩ := dropWhile_eq_iff.mp hds
    exact ⟨before, ds, after, by simp [hbefore], hblank', hdigit, hblank⟩
  · rintro ⟨before, ds, after, rfl, hbefore, hds, hafter⟩
    rcases ds with _ | ⟨d, ds⟩
    · -- all blanks go at once
      have hblanks : (before ++ [] ++ after ++ [')']).dropWhile isBlank = [')'] := by
        refine dropWhile_eq_iff.mpr ⟨before ++ [] ++ after, rfl, ?_, fun c hc => (hparen c hc).1⟩
        rw [List.append_nil]
        exact List.forall_mem_append.mpr ⟨hbefore, hafter⟩
      rw [hblanks]
      decide
    · have hblanks : (before ++ d :: ds ++ after ++ [')']).dropWhile isBlank =
          d :: ds ++ (after ++ [')']) := by
        refine dropWhile_eq_iff.mpr ⟨before, by simp, hbefore, ?_⟩
        rintro c ⟨⟩
        exact isBlank_of_isDigit (hds d List.mem_cons_self)
      have hdigits : (d :: ds ++ (after ++ [')'])).dropWhile isDigit = after ++ [')'] := by
        refine dropWhile_eq_iff.mpr ⟨d :: ds, rfl, hds, fun c hc => ?_⟩
        cases after with
        | nil => exact (hparen c hc).2
        | cons x after =>
          obtain rfl : x = c := by simpa using hc
          by_contra hdigit
          have hblank := hafter x List.mem_cons_self
          rw [isBlank_of_isDigit (by simpa using hdigit)] at hblank
          cases hblank
      rw [hblanks, hdigits]
      exact dropWhile_eq_iff.mpr ⟨after, rfl, hafter, fun c hc => (hparen c hc).1⟩

lemma isPrecision_iff : isPrecision cs = true ↔
    ∃ gap precision, cs = gap ++ precision ∧ (∀ c ∈ gap, isBlank c = true) ∧
      Precision precision := by
  unfold isPrecision
  constructor
  · intro h
    obtain ⟨gap, hcs, hgap, -⟩ := dropWhile_eq_iff.mp (Eq.refl (cs.dropWhile isBlank))
    refine ⟨gap, _, hcs, hgap, ?_⟩
    split at h
    · next hnil =>
      rw [hnil]
      exact .none
    · next ds hds =>
      rw [hds]
      obtain ⟨before, ds, after, rfl, hbefore, hds, hafter⟩ :=
        dropWhile_digits_iff.mp (beq_iff_eq.mp h)
      exact .digits hbefore hds hafter
    · cases h
  · rintro ⟨gap, precision, rfl, hgap, hp⟩
    rw [List.dropWhile_append_of_pos hgap]
    cases hp with
    | none => rfl
    | digits hbefore hds hafter =>
      exact beq_iff_eq.mpr (dropWhile_digits_iff.mpr ⟨_, _, _, rfl, hbefore, hds, hafter⟩)

lemma calls_iff (hw : ∀ l ∈ w, l ≤ 'z') : Calls w t ↔ (dropWord? w t).any isPrecision = true := by
  rw [Option.any_eq_true]
  constructor
  · rintro ⟨rfl, hgap, hp⟩
    rw [List.append_assoc]
    exact ⟨_, (dropWord?_eq_some_iff hw).mpr ⟨_, rfl, rfl⟩,
      isPrecision_iff.mpr ⟨_, _, rfl, hgap, hp⟩⟩
  · rintro ⟨rest, hdrop, hp⟩
    obtain ⟨name, rfl, hname⟩ := (dropWord?_eq_some_iff hw).mp hdrop
    obtain ⟨gap, precision, rfl, hgap, hprecision⟩ := isPrecision_iff.mp hp
    rw [← List.append_assoc]
    exact ⟨hname, hgap, hprecision⟩

lemma isCurrentTime_iff : isCurrentTime t = true ↔ CurrentTime t := by
  rw [isCurrentTime, Bool.or_eq_true, ← calls_iff (by simp), ← calls_iff (by simp), CurrentTime]

/-! ### Quoted text -/

/-- A text between two quotes of one kind. -/
def Quoted (t : List Char) : Prop := ∃ q v, isQuote q = true ∧ t = q :: (v ++ [q])

lemma withoutQuotes_of_isQuote (hq : isQuote q = true) (v : List Char) :
    withoutQuotes (q :: (v ++ [q])) = v := by
  simp [withoutQuotes, hq]

lemma withoutQuotes_of_not_quoted (h : ¬ Quoted t) : withoutQuotes t = t := by
  cases t with
  | nil => rfl
  | cons q cs =>
    refine if_neg fun hquote => h ?_
    rw [Bool.and_eq_true, beq_iff_eq] at hquote
    obtain ⟨v, rfl⟩ := List.getLast?_eq_some_iff.mp hquote.2
    exact ⟨q, v, hquote.1, rfl⟩

lemma withoutQuotes_eq_self_iff : withoutQuotes t = t ↔ ¬ Quoted t := by
  constructor
  · rintro h ⟨q, v, hq, rfl⟩
    rw [withoutQuotes_of_isQuote hq] at h
    have hlength : v.length = v.length + 1 + 1 := by simpa using congrArg List.length h
    omega
  · exact withoutQuotes_of_not_quoted

lemma Quoted.not_isNull (h : Quoted t) : ¬ IsNull t := by
  obtain ⟨q, v, hq, rfl⟩ := h
  intro hnull
  have hhead : q.toLower = 'n' := (List.cons.inj hnull).1
  simp only [isQuote, Bool.or_eq_true, beq_iff_eq] at hq
  rcases hq with (rfl | rfl) | rfl <;> cases hhead

lemma Quoted.not_currentTime (h : Quoted t) : ¬ CurrentTime t := by
  obtain ⟨q, v, hq, rfl⟩ := h
  rw [← isCurrentTime_iff]
  simp only [isQuote, Bool.or_eq_true, beq_iff_eq] at hq
  rcases hq with (rfl | rfl) | rfl <;> simp [isCurrentTime, dropWord?, isLetter]

/-! ### The value of a text -/

/-- The value that a text without blanks around it stands for; none is null. -/
inductive StandsFor : List Char → Option String → Prop
  | null {t : List Char} (h : IsNull t) : StandsFor t none
  | time {t : List Char} (h : CurrentTime t) : StandsFor t (some epoch)
  | quoted {q : Char} {v : List Char} (hq : isQuote q = true) :
    StandsFor (q :: (v ++ [q])) (some (String.ofList v))
  | bare {t : List Char} (hnull : ¬ IsNull t) (htime : ¬ CurrentTime t) (hquoted : ¬ Quoted t) :
    StandsFor t (some (String.ofList t))

lemma IsNull.not_currentTime (h : IsNull t) : ¬ CurrentTime t := by
  have hletters : t.map Char.toLower = ['n', 'u', 'l', 'l'] := h
  obtain ⟨a, cs, rfl, ha, hcs⟩ := List.map_eq_cons_iff.mp hletters
  obtain ⟨b, cs, rfl, hb, -⟩ := List.map_eq_cons_iff.mp hcs
  rw [← isCurrentTime_iff]
  simp [isCurrentTime, dropWord?, isLetter, ha, hb]

section Value

variable {text : String}

lemma defaultExpression_of_isNull (h : IsNull (trim text.toList)) :
    defaultExpression text = none :=
  if_pos (beq_iff_eq.mpr (upper_eq_null_iff.mpr h))

lemma defaultExpression_of_currentTime (h : CurrentTime (trim text.toList)) :
    defaultExpression text = some epoch := by
  have hnull : ¬ IsNull (trim text.toList) := fun hnull => hnull.not_currentTime h
  rw [← upper_eq_null_iff, ← beq_iff_eq] at hnull
  exact (if_neg hnull).trans (if_pos (isCurrentTime_iff.mpr h))

lemma defaultExpression_of_neither (hnull : ¬ IsNull (trim text.toList))
    (htime : ¬ CurrentTime (trim text.toList)) :
    defaultExpression text = some (String.ofList (withoutQuotes (trim text.toList))) := by
  rw [← upper_eq_null_iff, ← beq_iff_eq] at hnull
  rw [← isCurrentTime_iff] at htime
  exact (if_neg hnull).trans (if_neg htime)

lemma standsFor_defaultExpression : StandsFor (trim text.toList) (defaultExpression text) := by
  by_cases hnull : IsNull (trim text.toList)
  · rw [defaultExpression_of_isNull hnull]
    exact .null hnull
  by_cases htime : CurrentTime (trim text.toList)
  · rw [defaultExpression_of_currentTime htime]
    exact .time htime
  rw [defaultExpression_of_neither hnull htime]
  by_cases hquoted : Quoted (trim text.toList)
  · obtain ⟨q, v, hq, ht⟩ := hquoted
    rw [ht, withoutQuotes_of_isQuote hq]
    exact .quoted hq
  · rw [withoutQuotes_of_not_quoted hquoted]
    exact .bare hnull htime hquoted

lemma StandsFor.eq {value : Option String} (h : StandsFor t value) (ht : trim text.toList = t) :
    defaultExpression text = value := by
  cases h with
  | null hnull => exact defaultExpression_of_isNull (ht ▸ hnull)
  | time htime => exact defaultExpression_of_currentTime (ht ▸ htime)
  | @quoted q v hq =>
    have hquoted : Quoted (trim text.toList) := ⟨q, v, hq, ht⟩
    rw [defaultExpression_of_neither hquoted.not_isNull hquoted.not_currentTime, ht,
      withoutQuotes_of_isQuote hq]
  | bare hnull htime hquoted =>
    subst ht
    rw [defaultExpression_of_neither hnull htime, withoutQuotes_of_not_quoted hquoted]

end Value

/-- **Default texts**: a text has one value, by what it says between the blanks around it. A quoted
text says neither null nor the current time. -/
theorem defaultExpression_iff (text : String) (value : Option String) :
    (defaultExpression text = value ↔ ∃ t, Strips text.toList t ∧ StandsFor t value) ∧
      ∀ t, Strips text.toList t → Quoted t → ¬ IsNull t ∧ ¬ CurrentTime t := by
  constructor
  · constructor
    · rintro rfl
      exact ⟨_, strips_iff.mpr rfl, standsFor_defaultExpression⟩
    · rintro ⟨t, ht, h⟩
      exact h.eq (strips_iff.mp ht)
  · exact fun t _ h => ⟨h.not_isNull, h.not_currentTime⟩

example : defaultExpression " Now ( 6 ) " = some epoch := by decide +kernel

example : defaultExpression "'now()'" = some "now()" := by decide +kernel

end TableSchema
