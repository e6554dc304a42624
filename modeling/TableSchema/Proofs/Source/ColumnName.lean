import TableSchema.DataType
import TableSchema.Proofs.Source.Comments

/-!
The name of a column before its type.

The forms are looked for among words, and a name is a word like any other. So a name can be the
first word of a form that goes on with the type after it, and then it is lost. Which names are lost
before which types is settled by the first form that stands at the name: see
`normalize_column_iff`.
-/

namespace TableSchema.Source

open Text

variable {cs ds xs ys : List Char} {ps rep rest : List Piece} {r : Rewrite}

/-! ### The text before the first region -/

lemma segments_front (cs : List Char) :
    ∃ p tail, cs = p ++ tail ∧ (∀ c ∈ tail.head?, isQuote c = true) ∧
      segments cs = p.foldr consPlain (segments tail) ∧
      ∀ p' ss, segments tail ≠ .plain p' :: ss := by
  induction cs using segments_induction with
  | nil => exact ⟨[], [], rfl, by simp, rfl, by simp [segments, segmentsFrom]⟩
  | plain c cs hc ih =>
    obtain ⟨p, tail, rfl, hquote, hp, htail⟩ := ih
    exact ⟨c :: p, tail, rfl, hquote, by rw [segments_cons hc, hp, List.foldr_cons], htail⟩
  | stray q cs _ hnone ih =>
    obtain ⟨p, tail, rfl, hquote, hp, htail⟩ := ih
    exact ⟨q :: p, tail, rfl, hquote, by rw [segments_cons_of_none hnone, hp, List.foldr_cons],
      htail⟩
  | region q body rest hq hclosing ih =>
    refine ⟨[], _, rfl, by simpa using hq, rfl, ?_⟩
    rw [segments_region hq hclosing]
    simp

/-- Words in front of a text are rewritten together with what stands before its first region. -/
lemma rewrite_front (cs : List Char) :
    ∃ p tail, cs = p ++ tail ∧ (∀ c ∈ tail.head?, isQuote c = true) ∧
      ∀ w : List Char, w.any isQuote = false →
        rewrite (w ++ cs) = rewritePlain (w ++ p) ++ rewrite tail := by
  obtain ⟨p, tail, hcs, hquote, hp, htail⟩ := segments_front cs
  refine ⟨p, tail, hcs, hquote, fun w hw => ?_⟩
  rw [rewrite, segments_plain hw, hp, ← List.foldr_append, flatMap_foldr_consPlain htail]
  rfl

/-! ### Text that is left alone -/

lemma rewrites_visible : ∀ r ∈ rewrites, r.kept = none → 2 ≤ r.replacement.length ∧
    ∀ w ∈ r.first, 2 ≤ w.length ∧ (r.replacement.map fold).take 2 ≠ w.take 2 := by
  decide

lemma rewrites_spaced : ∀ r ∈ rewrites, r.kept ≠ none →
    r.replacement.head?.any (!isWord ·) = true := by
  decide

/-- What replaces a form without a kept word differs from the form in the first two letters. -/
lemma Rewrite.replacement_ne (hr : r ∈ rewrites) (hk : r.kept = none) {w : List Char}
    (hw : w.map fold ∈ r.first) (xs ys : List Char) : r.replacement ++ xs ≠ w ++ ys := by
  obtain ⟨hlength, hwords⟩ := rewrites_visible r hr hk
  obtain ⟨hlength', hne⟩ := hwords _ hw
  rw [List.length_map] at hlength'
  intro heq
  have htwo := congrArg (fun cs => (cs.take 2).map fold) heq
  rw [List.take_append_of_le_length hlength, List.take_append_of_le_length hlength',
    List.map_take, List.map_take] at htwo
  exact hne htwo

lemma Rewrite.head_of_kept (hr : r.Regular) (hhead : r.replacement.head?.any (!isWord ·) = true)
    (h : Proper ps) (hat : r.at? ps = some (rep, rest)) :
    (spell rep).head?.any (!isWord ·) = true := by
  obtain ⟨after, hdrop, hreplace⟩ := of_at? hat
  have hstart := dropForm?_startsWord (lettered_words hr.lettered) h hdrop
  obtain ⟨form, rfl, -⟩ := dropForm?_eq_some hdrop
  unfold replace at hreplace
  rcases hk : r.afterKept? after with _ | rest'
  · rw [hk] at hreplace
    cases hreplace
    rwa [spell_pieces]
  · rw [hk] at hreplace
    cases hreplace
    obtain ⟨kept, rfl, -⟩ := afterKept?_eq_some hk
    have htake : (kept ++ rest).take ((kept ++ rest).length - rest.length) = kept := by simp
    rw [htake, spell_append, spell_pieces]
    cases kept with
    | nil => exact hhead
    | cons p kept =>
      obtain ⟨c, cs, htext, -⟩ := h.of_append.head
      rw [List.cons_append, spell_cons, htext] at hstart
      have hc : isWord c = false := hstart
      simp [htext, hc]

lemma spell_ne_of_firstAt? (h : Proper ps) (hat : firstAt? rewrites ps = some (rep, rest)) :
    spell rep ++ xs ≠ spell ps ++ ys := by
  obtain ⟨r, hr, hat⟩ := firstAt?_mem hat
  have hregular := rewrites_regular r hr
  intro heq
  obtain ⟨p, ps, rfl⟩ : ∃ p qs, ps = p :: qs := by
    cases ps with
    | nil =>
      rw [Rewrite.at?_nil] at hat
      cases hat
    | cons p ps => exact ⟨p, ps, rfl⟩
  have hfirst : p.key ∈ r.first := by
    by_contra hno
    rw [Rewrite.at?_of_first hno] at hat
    cases hat
  cases p with
  | mark c => exact hregular.not_first rfl hfirst
  | word w =>
    rw [spell_cons, Piece.text, List.append_assoc] at heq
    rcases hk : r.kept with _ | kept
    · obtain ⟨form, kept, -, -, rfl, -, hkept⟩ := Rewrite.at?_eq_some hat
      obtain rfl : kept = [] := by
        rcases hkept with rfl | ⟨w, hw, -⟩
        · rfl
        · rw [hk] at hw
          cases hw
      rw [List.nil_append, spell_pieces] at heq
      exact Rewrite.replacement_ne hr hk hfirst _ _ heq
    · have hrep := Rewrite.head_of_kept hregular (rewrites_spaced r hr (by simp [hk])) h hat
      obtain ⟨c, w, rfl⟩ := List.exists_cons_of_ne_nil h.1.1
      have hc : isWord c = true := h.1.2 c List.mem_cons_self
      rcases hspell : spell rep with _ | ⟨d, ds⟩
      · simp [hspell] at hrep
      · rw [hspell] at heq hrep
        obtain ⟨rfl, -⟩ := List.cons.inj heq
        simp [hc] at hrep

lemma sweep_eq_self (h : Proper ps) (heq : spell (sweep rewrites ps) ++ xs = spell ps ++ ys) :
    sweep rewrites ps = ps := by
  induction ps using sweep.induct rewrites with
  | case1 => simp
  | case2 p ps rep rest hat ih =>
    rw [sweep_of_some hat, spell_append, List.append_assoc] at heq
    exact absurd heq (spell_ne_of_firstAt? h hat)
  | case3 p ps hat ih =>
    rw [sweep_of_none hat] at heq ⊢
    rw [spell_cons, spell_cons, List.append_assoc, List.append_assoc,
      List.append_cancel_left_eq] at heq
    rw [ih h.tail heq]

/-- Plain text is left alone just if no form stands in it. -/
lemma rewritePlain_eq_self_iff : rewritePlain cs = cs ↔ sweep rewrites (pieces cs) = pieces cs := by
  constructor
  · intro h
    have hspell : spell (sweep rewrites (pieces cs)) ++ [] = spell (pieces cs) ++ [] := by
      rw [← rewritePlain_eq_sweep, h, spell_pieces]
    exact sweep_eq_self (proper_pieces cs) hspell
  · intro h
    rw [rewritePlain_eq_sweep, h, spell_pieces]

/-- Where a text is left alone, so is what stands before its first region. -/
lemma rewritePlain_append_cancel (h : rewritePlain cs ++ xs = cs ++ ys) :
    rewritePlain cs = cs ∧ xs = ys := by
  have hspell : spell (sweep rewrites (pieces cs)) ++ xs = spell (pieces cs) ++ ys := by
    rwa [← rewritePlain_eq_sweep, spell_pieces]
  have hplain : rewritePlain cs = cs :=
    rewritePlain_eq_self_iff.mpr (sweep_eq_self (proper_pieces cs) hspell)
  rw [hplain, List.append_cancel_left_eq] at h
  exact ⟨hplain, h⟩

lemma sweep_cons_eq_self_iff {p : Piece} (h : Proper (p :: ps)) (hps : sweep rewrites ps = ps) :
    sweep rewrites (p :: ps) = p :: ps ↔ firstAt? rewrites (p :: ps) = none := by
  rcases hat : firstAt? rewrites (p :: ps) with _ | ⟨rep, rest⟩
  · simp [sweep_of_none hat, hps]
  · refine iff_of_false (fun heq => ?_) (by simp)
    rw [sweep_of_some hat] at heq
    have hspell := congrArg spell heq
    rw [spell_append, ← List.append_nil (spell (p :: ps))] at hspell
    exact spell_ne_of_firstAt? h hat hspell

lemma normalize_eq_self_iff {s : String} : normalize s = s ↔ rewrite s.toList = s.toList := by
  rw [normalize, ← String.toList_inj, String.toList_ofList]

/-! ### A name in front of a type -/

def folded (s : String) : List Char := s.toList.map fold

/-- A name that needs no quotes: letters, digits and underscores. -/
def IsIdentifier (s : String) : Prop := s.toList ≠ [] ∧ ∀ c ∈ s.toList, isWord c = true

lemma IsIdentifier.not_isQuote {s : String} (h : IsIdentifier s) :
    s.toList.any isQuote = false := by
  rw [List.any_eq_false]
  intro c hc hquote
  have hword := h.2 c hc
  rw [(isWord_of_isQuote hquote).1] at hword
  cases hword

/-- A word that a type may begin with. The two words that are left out go on with a form. -/
def OpensType (keyword : String) : Prop :=
  folded keyword ≠ "default".toList ∧ folded keyword ≠ "varying".toList

structure IsType (keyword rest : String) : Prop where
  word : IsIdentifier keyword
  opens : OpensType keyword
  ends : startsWord rest.toList = false

def typeWord (t : DataType) : String := String.ofList (t.name.toList.takeWhile isWord)

lemma opensType_of_registered {t : DataType} {keyword : String} (ht : t ∈ DataType.registered)
    (h : folded keyword = folded (typeWord t)) : OpensType keyword := by
  have hopens : ∀ t ∈ DataType.registered,
      folded (typeWord t) ≠ "default".toList ∧ folded (typeWord t) ≠ "varying".toList := by
    decide +kernel
  rw [OpensType, h]
  exact hopens t ht

/-- The names that go on with a type: each is the first word of a form. -/
inductive Swallowed (name keyword rest : String) : Prop
  | zerofill (hname : folded name = "zerofill".toList)
  | long (hname : folded name = "long".toList) (hkeyword : folded keyword = "varchar".toList)
      (hrest : (rest.toList.dropWhile isBlank).head? ≠ some '(')
  | nationalChar (hname : folded name = "national".toList)
      (hkeyword : folded keyword = "character".toList ∨ folded keyword = "char".toList)
  | nationalVarchar (hname : folded name = "national".toList ∨ folded name = "nchar".toList)
      (hkeyword : folded keyword = "varchar".toList)

lemma pieces_word (hne : cs ≠ []) (hcs : ∀ c ∈ cs, isWord c = true) (h : startsWord ds = false) :
    pieces (cs ++ ds) = .word cs :: pieces ds := by
  have hproper : Proper (.word cs :: pieces ds) :=
    ⟨⟨hne, hcs⟩, by rwa [spell_pieces], proper_pieces ds⟩
  have hspell : spell (.word cs :: pieces ds) = cs ++ ds := by simp [Piece.text]
  rw [← hspell, hproper.pieces_spell]

section Name

variable {word next : List (List Char)} {words : List (List (List Char))}
  {name keyword rest : String} {p : List Char}

lemma dropForm?_name (word next : List (List Char)) (words : List (List (List Char)))
    (name keyword : String) (ps : List Piece) :
    dropForm? (word :: next :: words)
        (.word name.toList :: .mark ' ' :: .word keyword.toList :: ps) =
      if folded name ∈ word ∧ folded keyword ∈ next then
        if words.isEmpty then some ps else dropForm? words (afterGap ps)
      else none := by
  have hgap : afterGap (.mark ' ' :: .word keyword.toList :: ps) = .word keyword.toList :: ps := rfl
  have hname : (Piece.word name.toList).key = folded name := rfl
  have hkeyword : (Piece.word keyword.toList).key = folded keyword := rfl
  rw [dropForm?_cons, hgap, dropForm?_cons, hname, hkeyword]
  by_cases hn : folded name ∈ word <;> by_cases hk : folded keyword ∈ next <;> simp [hn, hk]

lemma Rewrite.at?_name_of_not (hw : r.words = word :: next :: words)
    (h : ¬ (folded name ∈ word ∧ folded keyword ∈ next)) :
    r.at? (.word name.toList :: .mark ' ' :: .word keyword.toList :: ps) = none := by
  unfold at?
  rw [hw, dropForm?_name, if_neg h]
  rfl

/-- A form of two words stands at the name if these are the name and the type, and if it may stand
before what follows. -/
lemma Rewrite.at?_name_eq_none_iff (hw : r.words = [word, next]) :
    r.at? (.word name.toList :: .mark ' ' :: .word keyword.toList :: pieces p) = none ↔
      ¬ ((folded name ∈ word ∧ folded keyword ∈ next) ∧ r.mayPrecede p = true) := by
  have hmay : r.mayStandBefore (pieces p) = r.mayPrecede p := by
    rw [← mayPrecede_spell (proper_pieces p), spell_pieces]
  by_cases h : folded name ∈ word ∧ folded keyword ∈ next
  · unfold at?
    rw [hw, dropForm?_name, if_pos h]
    simp [h, hmay]
  · rw [at?_name_of_not hw h]
    tauto

lemma mem_word {key : List Char} {s : String} : key ∈ Source.word s ↔ key = s.toList :=
  List.mem_singleton

/-- **A form at a name**: some form stands there just if the name goes on with the type. -/
lemma firstAt?_name_eq_none_iff (hkeyword : OpensType keyword)
    (hrest : (p.dropWhile isBlank).head? ≠ some '(' ↔
      (rest.toList.dropWhile isBlank).head? ≠ some '(') :
    firstAt? rewrites (.word name.toList :: .mark ' ' :: .word keyword.toList :: pieces p) = none ↔
      ¬ Swallowed name keyword rest := by
  unfold firstAt?
  rw [List.findSome?_eq_none_iff]
  constructor
  · intro hno hs
    have htwo : ∀ (r : Rewrite) {word next}, r ∈ rewrites → r.words = [word, next] →
        ¬ ((folded name ∈ word ∧ folded keyword ∈ next) ∧ r.mayPrecede p = true) :=
      fun r _ _ hr hw => (Rewrite.at?_name_eq_none_iff hw).mp (hno r hr)
    cases hs with
    | zerofill hname =>
      have hone := hno rewrites[1] (List.getElem_mem _)
      have hkey : (Piece.word name.toList).key = "zerofill".toList := hname
      simp [Rewrite.at?, rewrites, mem_word, dropForm?_cons, hkey, Rewrite.mayStandBefore] at hone
    | long hname hkey hparen =>
      refine htwo rewrites[6] (List.getElem_mem _) rfl ⟨⟨mem_word.mpr hname, mem_word.mpr hkey⟩, ?_⟩
      rw [← hrest] at hparen
      simpa [Rewrite.mayPrecede, rewrites] using hparen
    | nationalChar hname hkey =>
      refine htwo rewrites[5] (List.getElem_mem _) rfl ⟨⟨mem_word.mpr hname, ?_⟩, rfl⟩
      exact List.mem_append.mpr (hkey.imp mem_word.mpr mem_word.mpr)
    | nationalVarchar hname hkey =>
      refine htwo rewrites[3] (List.getElem_mem _) rfl ⟨⟨?_, mem_word.mpr hkey⟩, rfl⟩
      exact List.mem_append.mpr (hname.imp mem_word.mpr mem_word.mpr)
  · intro hs r hr
    have hnational : folded name ∈ Source.word "national" ∧
        folded keyword ∈ Source.word "character" ++ Source.word "char" → False := by
      rintro ⟨hn, hk⟩
      exact hs (.nationalChar (mem_word.mp hn)
        ((List.mem_append.mp hk).imp mem_word.mp mem_word.mp))
    simp only [rewrites, List.mem_cons, List.not_mem_nil, or_false] at hr
    rcases hr with rfl | rfl | rfl | rfl | rfl | rfl | rfl
    · exact Rewrite.at?_name_of_not rfl fun h => hkeyword.1 (mem_word.mp h.2)
    · exact Rewrite.at?_of_first fun h => hs (.zerofill (mem_word.mp h))
    · exact Rewrite.at?_name_of_not rfl hnational
    · refine Rewrite.at?_name_of_not rfl ?_
      rintro ⟨hn, hk⟩
      exact hs (.nationalVarchar ((List.mem_append.mp hn).imp mem_word.mp mem_word.mp)
        (mem_word.mp hk))
    · exact Rewrite.at?_name_of_not rfl fun h => hkeyword.2 (mem_word.mp h.2)
    · exact Rewrite.at?_name_of_not rfl hnational
    · rw [Rewrite.at?_name_eq_none_iff rfl]
      rintro ⟨⟨hn, hk⟩, hp⟩
      refine hs (.long (mem_word.mp hn) (mem_word.mp hk) (hrest.mp ?_))
      simpa [Rewrite.mayPrecede] using hp

lemma head?_dropWhile_append {tail : List Char} (htail : ∀ c ∈ tail.head?, isQuote c = true)
    (p : List Char) :
    (p.dropWhile isBlank).head? ≠ some '(' ↔ ((p ++ tail).dropWhile isBlank).head? ≠ some '(' := by
  induction p with
  | nil =>
    cases tail with
    | nil => rfl
    | cons c tail =>
      have hc := htail c rfl
      have hparen : c ≠ '(' := by
        rintro rfl
        cases hc
      simp [(isWord_of_isQuote hc).2, hparen]
  | cons c p ih =>
    by_cases hc : isBlank c = true
    · rwa [List.cons_append, List.dropWhile_cons, List.dropWhile_cons, if_pos hc, if_pos hc]
    · rw [List.cons_append, List.dropWhile_cons, List.dropWhile_cons, if_neg hc, if_neg hc]
      rfl

/-- **A name before a type** is kept, with the type after it, unless it goes on with the type. Among
the types are all that are registered, in any letter case. -/
theorem normalize_column_iff (hname : IsIdentifier name) (htype : IsType keyword rest)
    (hsame : normalize (keyword ++ rest) = keyword ++ rest) :
    (normalize (name ++ " " ++ (keyword ++ rest)) = name ++ " " ++ (keyword ++ rest) ↔
        ¬ Swallowed name keyword rest) ∧
      ∀ t ∈ DataType.registered, ∀ word, folded word = folded (typeWord t) → OpensType word := by
  refine ⟨?_, fun t ht word hword => opensType_of_registered ht hword⟩
  obtain ⟨p, tail, hrest, htail, hfront⟩ := rewrite_front rest.toList
  have hends : startsWord p = false := by
    have hends := htype.ends
    rw [hrest] at hends
    exact startsWord_of_append hends
  have hkeyword : pieces (keyword.toList ++ p) = .word keyword.toList :: pieces p :=
    pieces_word htype.word.1 htype.word.2 hends
  have hline : pieces (name.toList ++ ' ' :: (keyword.toList ++ p)) =
      .word name.toList :: .mark ' ' :: .word keyword.toList :: pieces p := by
    rw [pieces_word hname.1 hname.2 rfl, ← hkeyword]
    rfl
  have hquotes : (name.toList ++ ' ' :: keyword.toList).any isQuote = false := by
    rw [List.any_append, List.any_cons, hname.not_isQuote, htype.word.not_isQuote]
    rfl
  rw [normalize_eq_self_iff, String.toList_append, hfront _ htype.word.not_isQuote, hrest,
    ← List.append_assoc] at hsame
  obtain ⟨hplain, hquoted⟩ := rewritePlain_append_cancel hsame
  have hafter : sweep rewrites (.mark ' ' :: .word keyword.toList :: pieces p) =
      .mark ' ' :: .word keyword.toList :: pieces p := by
    rw [sweep_of_none (firstAt?_of_key rewrites_regular rfl _), ← hkeyword,
      rewritePlain_eq_self_iff.mp hplain]
  have htext : (name ++ " " ++ (keyword ++ rest)).toList =
      name.toList ++ ' ' :: keyword.toList ++ rest.toList := by
    simp
  have hfrontText : name.toList ++ ' ' :: keyword.toList ++ p =
      name.toList ++ ' ' :: (keyword.toList ++ p) := by
    simp
  rw [normalize_eq_self_iff, htext, hfront _ hquotes, hrest, hquoted, ← List.append_assoc,
    List.append_cancel_right_eq, hfrontText, rewritePlain_eq_self_iff, hline,
    sweep_cons_eq_self_iff (hline ▸ proper_pieces _) hafter,
    firstAt?_name_eq_none_iff htype.opens]
  rw [hrest]
  exact head?_dropWhile_append htail p

end Name

instance (s : String) : Decidable (IsIdentifier s) :=
  -- over the characters of the name, not over all characters
  letI : Decidable (∀ c ∈ s.toList, isWord c = true) := List.decidableBAll _ s.toList
  inferInstanceAs (Decidable (s.toList ≠ [] ∧ ∀ c ∈ s.toList, isWord c = true))

instance (keyword : String) : Decidable (OpensType keyword) :=
  inferInstanceAs (Decidable (_ ∧ _))

lemma isType_varchar : IsType "VARCHAR" "(10)" := ⟨by decide +kernel, by decide +kernel, rfl⟩

lemma normalize_varchar : normalize ("VARCHAR" ++ "(10)") = "VARCHAR" ++ "(10)" := by
  decide +kernel

/-- One name is kept before a type, and another is not. -/
theorem normalize_column_varchar :
    IsIdentifier "long" ∧ IsIdentifier "Nchar" ∧ IsType "VARCHAR" "(10)" ∧
      normalize ("VARCHAR" ++ "(10)") = "VARCHAR" ++ "(10)" ∧
      normalize ("long" ++ " " ++ ("VARCHAR" ++ "(10)")) =
        "long" ++ " " ++ ("VARCHAR" ++ "(10)") ∧
      normalize ("Nchar" ++ " " ++ ("VARCHAR" ++ "(10)")) ≠
        "Nchar" ++ " " ++ ("VARCHAR" ++ "(10)") := by
  have hlong : IsIdentifier "long" := by decide +kernel
  have hnchar : IsIdentifier "Nchar" := by decide +kernel
  refine ⟨hlong, hnchar, isType_varchar, normalize_varchar, ?_, ?_⟩
  · refine (normalize_column_iff hlong isType_varchar normalize_varchar).1.mpr ?_
    rintro (h | ⟨-, -, h⟩ | ⟨h, -⟩ | ⟨h, -⟩)
    all_goals revert h; decide +kernel
  · rw [Ne, (normalize_column_iff hnchar isType_varchar normalize_varchar).1, not_not]
    exact .nationalVarchar (.inr (by decide +kernel)) (by decide +kernel)

/-- A column named `national` loses its name. -/
theorem national_swallowed : ¬ ∀ name keyword rest : String, IsIdentifier name →
    folded name ≠ "long".toList → folded name ≠ "zerofill".toList → IsType keyword rest →
    normalize (keyword ++ rest) = keyword ++ rest →
      normalize (name ++ " " ++ (keyword ++ rest)) = name ++ " " ++ (keyword ++ rest) := by
  intro h
  have hsame := h "national" "VARCHAR" "(10)" (by decide +kernel) (by decide +kernel)
    (by decide +kernel) isType_varchar normalize_varchar
  have hlost : normalize ("national" ++ " " ++ ("VARCHAR" ++ "(10)")) = "NVARCHAR(10)" := by
    decide +kernel
  rw [hlost] at hsame
  revert hsame
  decide

end TableSchema.Source
