import TableSchema.Proofs.Source.Literal
import TableSchema.Proofs.Source.OnePass

/-!
The longest form at each place.

A form is a text of words, spelled in any case, with blanks between them. A pass over a text takes
the longest form wherever one stands, and never looks again at what it became. Text without quotes
is rewritten to what such a pass makes of it, and to nothing else: see `normalize_eq_iff_pass`.
-/

namespace TableSchema.Source

open Text

/-! ### Forms as texts -/

/-- A text that is a word of small letters, in any case. -/
def Spells (w cs : List Char) : Prop := List.Forall₂ (fun l c => isLetter l c = true) w cs

def Gap (cs : List Char) : Prop := cs ≠ [] ∧ ∀ c ∈ cs, isBlank c = true

/-- One of the spellings of each word, with blanks between the words. -/
inductive Phrase : List (List (List Char)) → List Char → Prop
  | last {word : List (List Char)} {w cs : List Char} (hw : w ∈ word) (h : Spells w cs) :
    Phrase [word] cs
  | next {word : List (List Char)} {words : List (List (List Char))} {w cs gap rest : List Char}
    (hw : w ∈ word) (h : Spells w cs) (hgap : Gap gap) (hrest : Phrase words rest) :
    Phrase (word :: words) (cs ++ (gap ++ rest))

namespace Rewrite

/-- What of a form is kept: nothing, or the kept word and the blanks before it. -/
inductive Keeps (r : Rewrite) : List Char → Prop
  | nothing : r.Keeps []
  | word {w gap cs : List Char} (hw : w ∈ r.kept) (hgap : Gap gap) (h : Spells w cs) :
    r.Keeps (gap ++ cs)

/-- **A form and what follows it**: its words and what is kept of it end where a word ends, and a
parenthesis follows the words only if the form allows it. -/
structure Covers (r : Rewrite) (form kept rest : List Char) : Prop where
  phrase : Phrase r.words form
  keeps : r.Keeps kept
  ends : startsWord rest = false
  follows : r.beforeParenthesis = false → ((kept ++ rest).dropWhile isBlank).head? ≠ some '('

end Rewrite

/-- **A form in front of a text**, which becomes `rep` and leaves `rest`. -/
def FormAt (cs rep rest : List Char) : Prop :=
  ∃ r ∈ rewrites, ∃ form kept, cs = form ++ kept ++ rest ∧ r.Covers form kept rest ∧
    rep = kept ++ r.replacement

/-- **The longest form in front of a text.** -/
def LongestAt (cs rep rest : List Char) : Prop :=
  FormAt cs rep rest ∧ ∀ rep' rest', FormAt cs rep' rest' → rest.length ≤ rest'.length

/-- **A pass from the left**, after a word character or not: it replaces the longest form wherever
one stands, goes on after that form, and copies all other characters. -/
inductive Pass : Bool → List Char → List Char → Prop
  | done (inWord : Bool) : Pass inWord [] []
  | replace {cs rep rest out : List Char} (h : LongestAt cs rep rest) (hrest : Pass true rest out) :
    Pass false cs (rep ++ out)
  | copy {inWord : Bool} {c : Char} {cs out : List Char}
    (h : inWord = false → ∀ rep rest, ¬ FormAt (c :: cs) rep rest)
    (hrest : Pass (isWord c) cs out) : Pass inWord (c :: cs) (c :: out)

variable {w cs ds form kept rep rest out out' : List Char} {words : List (List (List Char))}
  {r : Rewrite} {ps : List Piece} {inWord : Bool}

/-! ### Spelled words -/

lemma spells_of_dropWord? (h : dropWord? w cs = some rest) :
    ∃ form, cs = form ++ rest ∧ Spells w form := by
  induction w generalizing cs with
  | nil =>
    obtain rfl := Option.some.inj h
    exact ⟨[], rfl, .nil⟩
  | cons l w ih =>
    cases cs with
    | nil => cases h
    | cons c cs =>
      rw [dropWord?] at h
      split_ifs at h with hc
      obtain ⟨form, rfl, hform⟩ := ih h
      exact ⟨c :: form, rfl, .cons hc hform⟩

lemma Spells.map_fold (hw : ∀ l ∈ w, IsSmallLetter l) (h : Spells w cs) : cs.map fold = w := by
  induction h with
  | nil => rfl
  | cons hc _ ih =>
    obtain ⟨hl, hw⟩ := List.forall_mem_cons.mp hw
    rw [List.map_cons, (isLetter_iff hl).mp hc, ih hw]

lemma Spells.isWord (hw : ∀ l ∈ w, IsSmallLetter l) (h : Spells w cs) :
    ∀ c ∈ cs, isWord c = true := by
  induction h with
  | nil => simp
  | cons hc _ ih =>
    obtain ⟨hl, hw⟩ := List.forall_mem_cons.mp hw
    exact List.forall_mem_cons.mpr ⟨isWord_of_isLetter hl hc, ih hw⟩

lemma Spells.startsWord (hw : w ≠ [] ∧ ∀ l ∈ w, IsSmallLetter l) (h : Spells w cs)
    (rest : List Char) : startsWord (cs ++ rest) = true := by
  have hword := h.isWord hw.2
  cases h with
  | nil => exact absurd rfl hw.1
  | cons => exact hword _ List.mem_cons_self

lemma Gap.startsWord (h : Gap cs) (rest : List Char) : startsWord (cs ++ rest) = false := by
  obtain ⟨c, cs, rfl⟩ := List.exists_cons_of_ne_nil h.1
  exact isWord_of_isBlank (h.2 c List.mem_cons_self)

lemma gap_of_dropBlanks? (h : dropBlanks? cs = some rest) : ∃ gap, cs = gap ++ rest ∧ Gap gap := by
  cases cs with
  | nil => cases h
  | cons c cs =>
    rw [dropBlanks?] at h
    split_ifs at h with hc
    obtain rfl := Option.some.inj h
    refine ⟨c :: cs.takeWhile isBlank, ?_, by simp, ?_⟩
    · rw [List.cons_append, List.takeWhile_append_dropWhile]
    · exact List.forall_mem_cons.mpr ⟨hc, fun d hd => List.mem_takeWhile_imp hd⟩

lemma Gap.dropBlanks? (h : Gap cs) (hrest : Text.startsWord rest = true) :
    dropBlanks? (cs ++ rest) = some rest := by
  obtain ⟨hne, hblank⟩ := h
  obtain ⟨c, cs, rfl⟩ := List.exists_cons_of_ne_nil hne
  obtain ⟨hc, hcs⟩ := List.forall_mem_cons.mp hblank
  have hnone : rest.dropWhile isBlank = rest := by
    cases rest with
    | nil => rfl
    | cons d rest =>
      refine List.dropWhile_cons_of_neg fun hd => ?_
      rw [startsWord_cons, isWord_of_isBlank hd] at hrest
      cases hrest
  rw [List.cons_append, Text.dropBlanks?, if_pos hc, List.dropWhile_append_of_pos hcs, hnone]

/-! ### Phrases -/

lemma Phrase.startsWord (hw : ∀ word ∈ words, Lettered word) (h : Phrase words cs)
    (rest : List Char) : startsWord (cs ++ rest) = true := by
  cases h with
  | last hmem h => exact h.startsWord (hw _ List.mem_cons_self _ hmem) rest
  | next hmem h =>
    rw [List.append_assoc]
    exact h.startsWord (hw _ List.mem_cons_self _ hmem) _

lemma phrase_of_dropWords? (h : Rewrite.dropWords? words cs = some rest) :
    ∃ form, cs = form ++ rest ∧ Phrase words form ∧ startsWord rest = false := by
  induction words generalizing cs with
  | nil => cases h
  | cons word words ih =>
    cases words with
    | nil =>
      obtain ⟨w, hw, hfilter⟩ := List.exists_of_findSome?_eq_some h
      obtain ⟨hdrop, hstart⟩ := Option.filter_eq_some_iff.mp hfilter
      obtain ⟨form, rfl, hform⟩ := spells_of_dropWord? hdrop
      exact ⟨form, rfl, .last hw hform, by simpa using hstart⟩
    | cons next words =>
      obtain ⟨w, hw, hbind⟩ := List.exists_of_findSome?_eq_some h
      obtain ⟨after, hdrop, hbind⟩ := Option.bind_eq_some_iff.mp hbind
      obtain ⟨after', hblanks, hwords⟩ := Option.bind_eq_some_iff.mp hbind
      obtain ⟨form, rfl, hform⟩ := spells_of_dropWord? hdrop
      obtain ⟨gap, rfl, hgap⟩ := gap_of_dropBlanks? hblanks
      obtain ⟨form', rfl, hphrase, hstart⟩ := ih hwords
      exact ⟨_, by simp, .next hw hform hgap hphrase, hstart⟩

/-- **A phrase** is found wherever it ends where a word ends. -/
lemma Phrase.dropWords? (hw : ∀ word ∈ words, Lettered word) (h : Phrase words form)
    (hrest : Text.startsWord rest = false) :
    Rewrite.dropWords? words (form ++ rest) = some rest := by
  induction h with
  | @last word w cs hmem h =>
    have hword := hw word List.mem_cons_self
    obtain ⟨hfold, hcs⟩ := And.intro (h.map_fold (hword w hmem).2) (h.isWord (hword w hmem).2)
    have hfind : Rewrite.dropWords? [word] (cs ++ rest) =
        if cs.map fold ∈ word then some rest else none := by
      refine findSome?_of_eq fun v hv => ?_
      rcases dropWord?_append (hword v hv).2 hcs hrest with ⟨he, hdrop⟩ | ⟨hne, hdrop⟩
      · rw [if_pos he, hdrop, Option.filter_some, hrest]
        rfl
      · rw [if_neg hne, Option.filter_eq_none_iff]
        intro after hafter
        simp [hdrop after hafter]
    rw [hfind, if_pos (hfold ▸ hmem)]
  | @next word words w cs gap form hmem h hgap hphrase ih =>
    obtain ⟨hword, hwords⟩ := List.forall_mem_cons.mp hw
    obtain ⟨hfold, hcs⟩ := And.intro (h.map_fold (hword w hmem).2) (h.isWord (hword w hmem).2)
    have hgapped := hgap.startsWord (form ++ rest)
    have hblanks := hgap.dropBlanks? (hphrase.startsWord hwords rest)
    obtain ⟨next, words, rfl⟩ : ∃ next words', words = next :: words' := by
      cases hphrase <;> exact ⟨_, _, rfl⟩
    have hfind : Rewrite.dropWords? (word :: next :: words) (cs ++ (gap ++ (form ++ rest))) =
        if cs.map fold ∈ word then some rest else none := by
      refine findSome?_of_eq fun v hv => ?_
      rcases dropWord?_append (hword v hv).2 hcs hgapped with ⟨he, hdrop⟩ | ⟨hne, hdrop⟩
      · rw [if_pos he, hdrop]
        show (dropBlanks? (gap ++ (form ++ rest))).bind (Rewrite.dropWords? (next :: words)) = _
        rw [hblanks, Option.bind_some, ih hwords]
      · rw [if_neg hne]
        rcases hafter : dropWord? v (cs ++ (gap ++ (form ++ rest))) with _ | after
        · rfl
        · show (dropBlanks? after).bind _ = none
          rw [dropBlanks?_eq_none (hdrop after hafter)]
          rfl
    rw [List.append_assoc, List.append_assoc, hfind, if_pos (hfold ▸ hmem)]

/-! ### One form -/

namespace Rewrite

lemma keeps_of_dropKept? (h : r.dropKept? cs = some rest) :
    ∃ kept, cs = kept ++ rest ∧ kept ≠ [] ∧ r.Keeps kept ∧ startsWord rest = false := by
  obtain ⟨w, hw, hbind⟩ := Option.bind_eq_some_iff.mp h
  obtain ⟨after, hblanks, hwords⟩ := Option.bind_eq_some_iff.mp hbind
  obtain ⟨gap, rfl, hgap⟩ := gap_of_dropBlanks? hblanks
  obtain ⟨form, rfl, hphrase, hstart⟩ := phrase_of_dropWords? hwords
  cases hphrase with
  | last hmem hform =>
    obtain rfl := List.mem_singleton.mp hmem
    exact ⟨gap ++ form, by simp, by simp [hgap.1], .word hw hgap hform, hstart⟩
  | next _ _ _ hrest => cases hrest

lemma mayPrecede_iff :
    r.mayPrecede cs = true ↔
      (r.beforeParenthesis = false → (cs.dropWhile isBlank).head? ≠ some '(') := by
  unfold mayPrecede
  cases r.beforeParenthesis <;> simp

lemma covers_of_match? (h : r.match? cs = some (rep, rest)) :
    ∃ form kept, cs = form ++ kept ++ rest ∧ r.Covers form kept rest ∧
      rep = kept ++ r.replacement := by
  obtain ⟨after, hfilter, hmatch⟩ := Option.bind_eq_some_iff.mp h
  obtain ⟨hwords, hmay⟩ := Option.filter_eq_some_iff.mp hfilter
  obtain ⟨form, rfl, hphrase, hstart⟩ := phrase_of_dropWords? hwords
  have hfollows := mayPrecede_iff.mp hmay
  rcases hk : r.dropKept? after with _ | rest'
  · rw [hk] at hmatch
    cases hmatch
    exact ⟨form, [], by simp, ⟨hphrase, .nothing, hstart, hfollows⟩, rfl⟩
  · rw [hk] at hmatch
    cases hmatch
    obtain ⟨kept, rfl, -, hkept, hends⟩ := keeps_of_dropKept? hk
    exact ⟨form, kept, by simp, ⟨hphrase, hkept, hends, hfollows⟩, by simp⟩

lemma dropKept?_of_gap (hr : ∀ word ∈ r.phrase, Lettered word) {gap : List Char}
    (hw : w ∈ r.kept) (hgap : Gap gap) (h : Spells w cs) (hrest : startsWord rest = false) :
    r.dropKept? (gap ++ cs ++ rest) = some rest := by
  have hlettered := lettered_kept hr hw
  have hphrase : Phrase [[w]] cs := .last (List.mem_singleton_self w) h
  have hkept : r.kept = some w := hw
  have hblanks := hgap.dropBlanks? (hphrase.startsWord hlettered rest)
  unfold dropKept?
  rw [hkept, List.append_assoc]
  show (dropBlanks? (gap ++ (cs ++ rest))).bind (dropWords? [[w]]) = _
  rw [hblanks, Option.bind_some, hphrase.dropWords? hlettered hrest]

/-- **A form that stands** is found as it stands there, or as a longer one. -/
lemma Covers.match? (hr : ∀ word ∈ r.phrase, Lettered word) (h : r.Covers form kept rest) :
    ∃ rep rest', r.match? (form ++ kept ++ rest) = some (rep, rest') ∧
      (rep = kept ++ r.replacement ∧ rest' = rest ∨ rest'.length < rest.length) := by
  obtain ⟨hphrase, hkept, hends, hfollows⟩ := h
  have hstart : startsWord (kept ++ rest) = false := by
    cases hkept with
    | nothing => exact hends
    | word _ hgap =>
      rw [List.append_assoc]
      exact hgap.startsWord _
  have hdrop := hphrase.dropWords? (lettered_words hr) hstart
  unfold Rewrite.match?
  rw [List.append_assoc, hdrop, Option.filter_some, if_pos (mayPrecede_iff.mpr hfollows),
    Option.bind_eq_bind, Option.bind_some]
  cases hkept with
  | nothing =>
    rcases hk : r.dropKept? ([] ++ rest) with _ | rest'
    · exact ⟨_, _, rfl, .inl ⟨rfl, rfl⟩⟩
    · obtain ⟨kept, hsplit, hne, -⟩ := keeps_of_dropKept? hk
      have hlength := congrArg List.length hsplit
      have hpos := List.length_pos_iff.mpr hne
      simp only [List.nil_append, List.length_append] at hlength
      exact ⟨_, _, rfl, .inr (by omega)⟩
  | @word w gap cs hw hgap hspells =>
    have htake : (gap ++ cs ++ rest).take ((gap ++ cs ++ rest).length - rest.length) = gap ++ cs :=
      List.take_left' (by simp only [List.length_append]; omega)
    rw [dropKept?_of_gap hr hw hgap hspells hends]
    exact ⟨_, _, rfl, .inl ⟨congrArg (· ++ r.replacement) htake, rfl⟩⟩

end Rewrite

/-! ### The longest of the forms -/

/-- No two forms with as many words stand in one place. -/
lemma rewrites_diverge : rewrites.Pairwise fun r' r =>
    r'.words.length = r.words.length → Diverge r'.words r.words := by
  decide

/-- Of two forms that stand in one place and have not as many words, one reaches further. -/
lemma Rewrite.Outreaches.length_lt {r' : Rewrite} (h : r'.Outreaches r)
    (hd : r'.words.length = r.words.length → Diverge r'.words r.words)
    {rep' rest' rep rest : List Piece} (hat' : r'.at? ps = some (rep', rest'))
    (hat : r.at? ps = some (rep, rest)) : rest'.length < rest.length := by
  obtain ⟨after, hdrop, -⟩ := of_at? hat
  obtain ⟨after', hdrop', -⟩ := of_at? hat'
  have hwords : r.words.length < r'.words.length := by
    rcases h with h | ⟨hle, -⟩
    · exact (h.not_both hdrop' hdrop).elim
    · exact lt_of_le_of_ne hle fun he => (hd he.symm).not_both hdrop' hdrop
  have hlength := h.length hat' hat
  omega

lemma spell_length_lt (h : Proper ps) {qs : List Piece} (hs : qs <:+ ps)
    (hlength : qs.length < ps.length) : (spell qs).length < (spell ps).length := by
  obtain ⟨before, rfl⟩ := hs
  cases before with
  | nil => simp at hlength
  | cons p before =>
    obtain ⟨c, cs, htext, -⟩ := h.head
    simp only [List.cons_append, spell_cons, spell_append, htext, List.length_append,
      List.length_cons]
    omega

lemma match?_pieces (hr : r ∈ rewrites) (h : Proper ps)
    (hmatch : r.match? (spell ps) = some (cs, ds)) :
    ∃ rep rest, r.at? ps = some (rep, rest) ∧ spell rep = cs ∧ spell rest = ds := by
  rw [Rewrite.match?_spell (rewrites_regular r hr).lettered h] at hmatch
  obtain ⟨⟨rep, rest⟩, hat, hspell⟩ := Option.map_eq_some_iff.mp hmatch
  obtain ⟨rfl, rfl⟩ := Prod.mk.inj hspell
  exact ⟨rep, rest, hat, rfl, rfl⟩

lemma formAt_of_firstAt? (h : Proper ps) {rep rest : List Piece}
    (hfirst : firstAt? rewrites ps = some (rep, rest)) :
    FormAt (spell ps) (spell rep) (spell rest) := by
  obtain ⟨r, hr, hat⟩ := firstAt?_mem hfirst
  have hmatch : r.match? (spell ps) = some (spell rep, spell rest) := by
    rw [Rewrite.match?_spell (rewrites_regular r hr).lettered h, hat]
    rfl
  obtain ⟨form, kept, hcs, hcovers, hrep⟩ := Rewrite.covers_of_match? hmatch
  exact ⟨r, hr, form, kept, hcs, hcovers, hrep⟩

/-- Where a form stands, the first form among the pieces is that one or a longer one. -/
lemma FormAt.firstAt? (h : Proper ps) (hform : FormAt (spell ps) cs ds) :
    ∃ rep rest, firstAt? rewrites ps = some (rep, rest) ∧
      (spell rep = cs ∧ spell rest = ds ∨ (spell rest).length < ds.length) := by
  obtain ⟨r, hr, form, kept, hcs, hcovers, rfl⟩ := hform
  obtain ⟨cs', ds', hmatch, hlonger⟩ := hcovers.match? (rewrites_regular r hr).lettered
  rw [← hcs] at hmatch
  obtain ⟨rep, rest, hat, rfl, rfl⟩ := match?_pieces hr h hmatch
  obtain ⟨r', ⟨rep', rest'⟩, hfirst, hat', hr'⟩ :=
    firstAt?_of_at? (rewrites_outreach.and rewrites_diverge) hr hat
  refine ⟨rep', rest', hfirst, ?_⟩
  rcases hr' with rfl | ⟨houtreach, hdiverge⟩
  · obtain ⟨rfl, rfl⟩ := Prod.mk.inj (Option.some.inj (hat'.symm.trans hat))
    exact hlonger
  · have hrest := houtreach.length_lt hdiverge hat' hat
    have hsuffix : rest' <:+ rest := List.suffix_of_suffix_length_le
      (Rewrite.at?_suffix hat') (Rewrite.at?_suffix hat) hrest.le
    have hproper : Proper rest := by
      obtain ⟨before, rfl⟩ := Rewrite.at?_suffix hat
      exact h.of_append
    have hshorter := spell_length_lt hproper hsuffix hrest
    rcases hlonger with ⟨-, rfl⟩ | hlonger
    · exact .inr hshorter
    · exact .inr (by omega)

lemma longestAt_of_firstAt? (h : Proper ps) {rep rest : List Piece}
    (hfirst : firstAt? rewrites ps = some (rep, rest)) :
    LongestAt (spell ps) (spell rep) (spell rest) := by
  refine ⟨formAt_of_firstAt? h hfirst, fun rep' rest' hform => ?_⟩
  obtain ⟨rep, rest, hfirst', hlonger⟩ := hform.firstAt? h
  obtain ⟨rfl, rfl⟩ := Prod.mk.inj (Option.some.inj (hfirst'.symm.trans hfirst))
  rcases hlonger with ⟨-, rfl⟩ | hlonger <;> omega

lemma LongestAt.firstAt? (h : Proper ps) (hlong : LongestAt (spell ps) cs ds) :
    ∃ rep rest, firstAt? rewrites ps = some (rep, rest) ∧ spell rep = cs ∧ spell rest = ds := by
  obtain ⟨rep, rest, hfirst, hlonger⟩ := hlong.1.firstAt? h
  refine ⟨rep, rest, hfirst, hlonger.resolve_right fun hlt => ?_⟩
  exact absurd (hlong.2 _ _ (formAt_of_firstAt? h hfirst)) (Nat.not_le.mpr hlt)

/-- **There is only one longest form** in a place. -/
lemma LongestAt.eq {rep' rest' : List Char} (h : LongestAt cs rep rest)
    (h' : LongestAt cs rep' rest') : rep = rep' ∧ rest = rest' := by
  rw [← spell_pieces cs] at h h'
  obtain ⟨_, _, hfirst, rfl, rfl⟩ := h.firstAt? (proper_pieces cs)
  obtain ⟨_, _, hfirst', rfl, rfl⟩ := h'.firstAt? (proper_pieces cs)
  obtain ⟨rfl, rfl⟩ := Prod.mk.inj (Option.some.inj (hfirst.symm.trans hfirst'))
  exact ⟨rfl, rfl⟩

lemma FormAt.startsWord (h : FormAt cs rep rest) :
    startsWord cs = true ∧ startsWord rest = false := by
  obtain ⟨r, hr, form, kept, rfl, hcovers, -⟩ := h
  have hwords := Rewrite.lettered_words (rewrites_regular r hr).lettered
  rw [List.append_assoc]
  exact ⟨hcovers.phrase.startsWord hwords _, hcovers.ends⟩

/-! ### The pass -/

/-- **A pass has one result.** -/
lemma Pass.eq (h : Pass inWord cs out) (h' : Pass inWord cs out') : out = out' := by
  induction h generalizing out' with
  | done =>
    cases h' with
    | done => rfl
    | replace hlong => cases hlong.1.startsWord.1
  | replace hlong _ ih =>
    cases h' with
    | done => cases hlong.1.startsWord.1
    | replace hlong' hrest' =>
      obtain ⟨rfl, rfl⟩ := hlong.eq hlong'
      rw [ih hrest']
    | copy hnone => exact absurd hlong.1 (hnone rfl _ _)
  | copy hnone _ ih =>
    cases h' with
    | replace hlong => exact absurd hlong.1 (hnone rfl _ _)
    | copy _ hrest' => rw [ih hrest']

lemma Pass.afterWord (h : Pass false cs out) (hstart : startsWord cs = false) :
    Pass true cs out := by
  cases h with
  | done => exact .done true
  | replace hlong =>
    rw [hlong.1.startsWord.1] at hstart
    cases hstart
  | copy _ hrest => exact .copy (by simp) hrest

lemma pass_word (hcs : ∀ c ∈ cs, isWord c = true) (h : Pass true ds out) :
    Pass true (cs ++ ds) (cs ++ out) := by
  induction cs with
  | nil => exact h
  | cons c cs ih =>
    obtain ⟨hc, hcs⟩ := List.forall_mem_cons.mp hcs
    exact .copy (by simp) (hc ▸ ih hcs)

/-- **Pieces with all forms replaced** are what a pass makes of their text. -/
lemma pass_sweep (h : Proper ps) : Pass false (spell ps) (spell (sweep rewrites ps)) := by
  induction ps using sweep.induct rewrites with
  | case1 =>
    rw [sweep_nil]
    exact .done false
  | case2 p ps rep rest hfirst ih =>
    have hlong := longestAt_of_firstAt? h hfirst
    have hrest : Proper rest := by
      obtain ⟨r, -, hat⟩ := firstAt?_mem hfirst
      obtain ⟨before, hbefore⟩ := Rewrite.at?_suffix hat
      exact (hbefore ▸ h : Proper (before ++ rest)).of_append
    rw [sweep_of_some hfirst, spell_append]
    exact .replace hlong ((ih hrest).afterWord hlong.1.startsWord.2)
  | case3 p ps hfirst ih =>
    have hnone : ∀ rep rest, ¬ FormAt (spell (p :: ps)) rep rest := by
      intro rep rest hform
      obtain ⟨_, _, hsome, -⟩ := hform.firstAt? h
      rw [hfirst] at hsome
      cases hsome
    have hrest := ih h.tail
    rw [sweep_of_none hfirst]
    cases p with
    | mark c => exact .copy (fun _ => hnone) (h.1.symm ▸ hrest)
    | word cs =>
      obtain ⟨⟨hne, hcs⟩, hstart, -⟩ := h
      obtain ⟨c, cs, rfl⟩ := List.exists_cons_of_ne_nil hne
      obtain ⟨hc, hcs⟩ := List.forall_mem_cons.mp hcs
      exact .copy (fun _ => hnone) (hc ▸ pass_word hcs (hrest.afterWord hstart))

/-- **One pass for the longest forms**: a statement without quotes is rewritten to what a pass from
the left makes of it. -/
theorem normalize_eq_iff_pass {s : String} (hs : s.toList.any isQuote = false) (t : String) :
    normalize s = t ↔ Pass false s.toList t.toList := by
  have hpass : Pass false s.toList (rewrite s.toList) := by
    have h := pass_sweep (proper_pieces s.toList)
    rwa [← rewritePlain_eq_sweep, spell_pieces, ← rewrite_plain hs] at h
  constructor
  · rintro rfl
    rw [normalize, String.toList_ofList]
    exact hpass
  · intro h
    rw [normalize, hpass.eq h, String.ofList_toList]

/-- Two forms that begin alike, and one that a parenthesis follows. -/
theorem normalize_eq_iff_pass_overlap :
    let s := "a national\tCharacter varying, b NATIONAL CHAR, long varchar(4)"
    let t := "a NVARCHAR, b NCHAR, long varchar(4)"
    s.toList.any isQuote = false ∧ Pass false s.toList t.toList := by
  intro s t
  have hs : s.toList.any isQuote = false := by decide
  exact ⟨hs, (normalize_eq_iff_pass hs t).mp (by decide +kernel)⟩

end TableSchema.Source
