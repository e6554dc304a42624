import TableSchema.Source.Rewrite
import TableSchema.Proofs.Text.Letters
import Mathlib.Data.List.TakeWhile

/-!
Plain text in pieces.

A plain text falls into words and the single characters between them. The words of a form are whole
words with blanks between them, so they can be looked for among pieces: see `dropWords?_spell`.
-/

namespace TableSchema.Source

open Text

inductive Piece where
  | word (cs : List Char)
  | mark (c : Char)
  deriving DecidableEq, Repr

namespace Piece

def text : Piece → List Char
  | word cs => cs
  | mark c => [c]

/-- The word of small letters that a piece folds to, none for a character between words. -/
def key : Piece → List Char
  | word cs => cs.map fold
  | mark _ => []

def isGap : Piece → Bool
  | word _ => false
  | mark c => isBlank c

end Piece

def spell (ps : List Piece) : List Char := ps.flatMap Piece.text

def consPiece (c : Char) (ps : List Piece) : List Piece :=
  if isWord c then
    match ps with
    | .word cs :: rest => .word (c :: cs) :: rest
    | rest => .word [c] :: rest
  else .mark c :: ps

def pieces (cs : List Char) : List Piece := cs.foldr consPiece []

/-- Pieces as a text has them: words of word characters, no two of them neighbours, and other
characters one by one. -/
def Proper : List Piece → Prop
  | [] => True
  | .word cs :: ps =>
    (cs ≠ [] ∧ ∀ c ∈ cs, isWord c = true) ∧ startsWord (spell ps) = false ∧ Proper ps
  | .mark c :: ps => isWord c = false ∧ Proper ps

variable {p : Piece} {ps qs : List Piece} {cs ds : List Char}

@[simp] lemma spell_nil : spell [] = [] := rfl

@[simp] lemma spell_cons (p : Piece) (ps : List Piece) : spell (p :: ps) = p.text ++ spell ps := rfl

@[simp] lemma spell_append (ps qs : List Piece) : spell (ps ++ qs) = spell ps ++ spell qs :=
  List.flatMap_append

/-! ### The pieces of a text -/

lemma spell_consPiece (c : Char) (ps : List Piece) : spell (consPiece c ps) = c :: spell ps := by
  unfold consPiece
  split_ifs
  · rcases ps with _ | ⟨_ | _, _⟩ <;> rfl
  · rfl

@[simp] lemma spell_pieces (cs : List Char) : spell (pieces cs) = cs := by
  induction cs with
  | nil => rfl
  | cons c cs ih =>
    have hc : pieces (c :: cs) = consPiece c (pieces cs) := rfl
    rw [hc, spell_consPiece, ih]

lemma proper_consPiece (h : Proper ps) (c : Char) : Proper (consPiece c ps) := by
  unfold consPiece
  split_ifs with hc
  · rcases ps with _ | ⟨cs | d, ps⟩
    · exact ⟨by simpa using hc, rfl, trivial⟩
    · obtain ⟨⟨-, hcs⟩, hps⟩ := h
      exact ⟨by simpa using ⟨hc, hcs⟩, hps⟩
    · exact ⟨by simpa using hc, h.1, h⟩
  · exact ⟨by simpa using hc, h⟩

lemma proper_pieces (cs : List Char) : Proper (pieces cs) := by
  induction cs with
  | nil => trivial
  | cons c cs ih => exact proper_consPiece ih c

lemma Proper.tail (h : Proper (p :: ps)) : Proper ps := by
  cases p with
  | word cs => exact h.2.2
  | mark c => exact h.2

lemma Proper.of_append (h : Proper (ps ++ qs)) : Proper qs := by
  induction ps with
  | nil => exact h
  | cons p ps ih => exact ih h.tail

lemma startsWord_of_append (h : startsWord (cs ++ ds) = false) : startsWord cs = false := by
  cases cs with
  | nil => rfl
  | cons c cs => exact h

lemma Proper.left (h : Proper (ps ++ qs)) : Proper ps := by
  induction ps with
  | nil => trivial
  | cons p ps ih =>
    cases p with
    | word cs =>
      obtain ⟨hcs, hstart, hps⟩ := h
      have hstart : startsWord (spell (ps ++ qs)) = false := hstart
      rw [spell_append] at hstart
      exact ⟨hcs, startsWord_of_append hstart, ih hps⟩
    | mark c => exact ⟨h.1, ih h.2⟩

lemma consPiece_append {c : Char} (h : isWord c = true → ps = [] → startsWord (spell qs) = false)
    (hq : Proper qs) : consPiece c (ps ++ qs) = consPiece c ps ++ qs := by
  unfold consPiece
  split_ifs with hc
  · rcases ps with _ | ⟨_ | _, ps⟩
    · rcases qs with _ | ⟨ds | d, qs⟩
      · rfl
      · -- a word would be joined to the character
        obtain ⟨⟨hne, hds⟩, -, -⟩ := hq
        obtain ⟨d, ds, rfl⟩ := List.exists_cons_of_ne_nil hne
        have hstart : isWord d = false := h hc rfl
        rw [hds d List.mem_cons_self] at hstart
        cases hstart
      · rfl
    · rfl
    · rfl
  · rfl

lemma pieces_eq_nil (h : pieces cs = []) : cs = [] := by
  rw [← spell_pieces cs, h, spell_nil]

/-- A text can be parted anywhere but within a word. -/
lemma pieces_append (h : ∀ c ∈ cs.getLast?, isWord c = true → startsWord ds = false) :
    pieces (cs ++ ds) = pieces cs ++ pieces ds := by
  induction cs with
  | nil => rfl
  | cons c cs ih =>
    have hcons : ∀ cs, pieces (c :: cs) = consPiece c (pieces cs) := fun _ => rfl
    rw [List.cons_append, hcons, hcons, ih, consPiece_append _ (proper_pieces ds)]
    · intro hc hnil
      rw [spell_pieces]
      rw [pieces_eq_nil hnil] at h
      exact h c rfl hc
    · intro d hd
      refine h d ?_
      cases cs with
      | nil => cases hd
      | cons x cs => rwa [List.getLast?_cons_cons]

lemma Proper.append (hp : Proper ps) (hq : Proper qs) (h : startsWord (spell qs) = false) :
    Proper (ps ++ qs) := by
  induction ps with
  | nil => exact hq
  | cons p ps ih =>
    cases p with
    | word cs =>
      refine ⟨hp.1, ?_, ih hp.2.2⟩
      show startsWord (spell (ps ++ qs)) = false
      rw [spell_append]
      rcases hs : spell ps with _ | ⟨c, cs⟩
      · exact h
      · have hstart := hp.2.1
        rw [hs] at hstart
        exact hstart
    | mark c => exact ⟨hp.1, ih hp.2⟩

lemma Proper.pieces_spell (h : Proper ps) : pieces (spell ps) = ps := by
  have hcons : ∀ c cs, pieces (c :: cs) = consPiece c (pieces cs) := fun _ _ => rfl
  induction ps with
  | nil => rfl
  | cons p ps ih =>
    cases p with
    | mark c =>
      have hc : ¬ isWord c = true := by simp [h.1]
      have htext : spell (.mark c :: ps) = c :: spell ps := rfl
      rw [htext, hcons, ih h.2]
      exact if_neg hc
    | word cs =>
      obtain ⟨⟨hne, hcs⟩, hstart, hps⟩ := h
      have hword : pieces cs = [.word cs] := by
        clear hstart hps ih
        induction cs with
        | nil => exact absurd rfl hne
        | cons c cs ih =>
          rw [hcons]
          unfold consPiece
          rw [if_pos (hcs c List.mem_cons_self)]
          rcases cs with _ | ⟨d, cs⟩
          · rfl
          · rw [ih (by simp) fun x hx => hcs x (List.mem_cons_of_mem _ hx)]
      rw [spell_cons, Piece.text, pieces_append fun _ _ _ => hstart, hword, ih hps]
      rfl

/-! ### Words and blanks -/

/-- What follows the blanks in front, of which there must be one. -/
def afterGap (ps : List Piece) : List Piece :=
  if ps.head?.any Piece.isGap then ps.dropWhile Piece.isGap else []

def dropForm? : List (List (List Char)) → List Piece → Option (List Piece)
  | word :: words, p :: ps =>
    if p.key ∈ word then
      if words.isEmpty then some ps else dropForm? words (afterGap ps)
    else none
  | _, _ => none

/-- A word of a form, all of whose spellings are in small letters. -/
def Lettered (word : List (List Char)) : Prop :=
  ∀ w ∈ word, w ≠ [] ∧ ∀ l ∈ w, IsSmallLetter l

instance (word : List (List Char)) : Decidable (Lettered word) :=
  -- over the letters of a word, not over all characters
  letI (w : List Char) : Decidable (∀ l ∈ w, IsSmallLetter l) := List.decidableBAll _ w
  inferInstanceAs (Decidable (∀ w ∈ word, w ≠ [] ∧ ∀ l ∈ w, IsSmallLetter l))

lemma Proper.startsWord_tail (h : Proper (p :: ps)) (hk : p.key ≠ []) :
    startsWord (spell ps) = false := by
  cases p with
  | word cs => exact h.2.1
  | mark c => exact absurd rfl hk

lemma Proper.dropWhile (h : Proper ps) : Proper (ps.dropWhile Piece.isGap) := by
  rw [← List.takeWhile_append_dropWhile (p := Piece.isGap) (l := ps)] at h
  exact h.of_append

lemma Proper.afterGap (h : Proper ps) : Proper (afterGap ps) := by
  unfold Source.afterGap
  split_ifs
  · exact h.dropWhile
  · trivial

lemma Proper.head (h : Proper (p :: ps)) :
    ∃ c cs, p.text = c :: cs ∧ isBlank c = p.isGap := by
  cases p with
  | mark c => exact ⟨c, [], rfl, rfl⟩
  | word cs =>
    obtain ⟨⟨hne, hcs⟩, -⟩ := h
    obtain ⟨c, cs, rfl⟩ := List.exists_cons_of_ne_nil hne
    refine ⟨c, cs, rfl, ?_⟩
    rcases hb : isBlank c
    · rfl
    · have hc := hcs c List.mem_cons_self
      rw [isWord_of_isBlank hb] at hc
      cases hc

lemma dropWhile_spell (h : Proper ps) :
    (spell ps).dropWhile isBlank = spell (ps.dropWhile Piece.isGap) := by
  induction ps with
  | nil => rfl
  | cons p ps ih =>
    obtain ⟨c, cs, htext, hgap⟩ := h.head
    rw [List.dropWhile_cons]
    split_ifs with hp
    · cases p with
      | word => cases hp
      | mark d =>
        have hd : isBlank d = true := hp
        rw [spell_cons, Piece.text, List.singleton_append, List.dropWhile_cons, if_pos hd,
          ih h.tail]
    · rw [spell_cons, htext, List.cons_append, List.dropWhile_cons, if_neg (by rwa [hgap])]

lemma dropBlanks?_spell (h : Proper ps) :
    dropBlanks? (spell ps) =
      if ps.head?.any Piece.isGap then some (spell (ps.dropWhile Piece.isGap)) else none := by
  cases ps with
  | nil => rfl
  | cons p ps =>
    obtain ⟨c, cs, htext, hgap⟩ := h.head
    have hcons : spell (p :: ps) = c :: (cs ++ spell ps) := by rw [spell_cons, htext]; rfl
    have hhead : (p :: ps).head?.any Piece.isGap = p.isGap := rfl
    rw [hhead, hcons, dropBlanks?, hgap]
    split_ifs with hp
    · rw [← dropWhile_spell h, hcons, List.dropWhile_cons, if_pos (by rwa [hgap])]
    · rfl

/-- A word of a form meets the piece that folds to it, and no part of a longer one. -/
lemma dropWord?_spell {w : List Char} (hw : w ≠ [] ∧ ∀ l ∈ w, IsSmallLetter l)
    (h : Proper (p :: ps)) :
    (p.key = w ∧ dropWord? w (spell (p :: ps)) = some (spell ps)) ∨
      (p.key ≠ w ∧ ∀ rest, dropWord? w (spell (p :: ps)) = some rest →
        startsWord rest = true) := by
  cases p with
  | word cs => exact dropWord?_append hw.2 h.1.2 h.2.1
  | mark c =>
    have hstart : startsWord (spell (.mark c :: ps)) = false := h.1
    have hnil : ∀ d ∈ ([] : List Char), isWord d = true := by simp
    rcases dropWord?_append hw.2 hnil hstart with ⟨he, -⟩ | hne
    · exact absurd he.symm hw.1
    · exact .inr hne

lemma findSome?_of_eq {α : Type} {f : List Char → Option α} {key : List Char} {x : Option α}
    {word : List (List Char)} (h : ∀ w ∈ word, f w = if key = w then x else none) :
    word.findSome? f = if key ∈ word then x else none := by
  induction word with
  | nil => rfl
  | cons w word ih =>
    have ih := ih fun v hv => h v (List.mem_cons_of_mem _ hv)
    rw [List.findSome?_cons, h w List.mem_cons_self, ih]
    by_cases hk : key = w
    · rcases x with _ | x <;> simp [hk]
    · simp [hk]

lemma dropBlanks?_eq_none (h : startsWord cs = true) : dropBlanks? cs = none := by
  cases cs with
  | nil => rfl
  | cons c cs =>
    have hc : ¬ isBlank c = true := fun hb => by
      rw [startsWord_cons, isWord_of_isBlank hb] at h
      cases h
    rw [dropBlanks?, if_neg hc]

lemma dropForm?_nil (words : List (List (List Char))) : dropForm? words [] = none := by
  cases words <;> rfl

lemma dropForm?_cons (word : List (List Char)) (words : List (List (List Char))) (p : Piece)
    (ps : List Piece) :
    dropForm? (word :: words) (p :: ps) =
      if p.key ∈ word then
        if words.isEmpty then some ps else dropForm? words (afterGap ps)
      else none := rfl

/-- **Words of a form** are looked for in a text as among its pieces. -/
lemma dropWords?_spell {words : List (List (List Char))} (hw : ∀ word ∈ words, Lettered word)
    (h : Proper ps) :
    Rewrite.dropWords? words (spell ps) = (dropForm? words ps).map spell := by
  induction words generalizing ps with
  | nil => rfl
  | cons word words ih =>
    have hword := hw word List.mem_cons_self
    have ih : ∀ {qs : List Piece}, Proper qs →
        Rewrite.dropWords? words (spell qs) = (dropForm? words qs).map spell :=
      ih fun x hx => hw x (List.mem_cons_of_mem _ hx)
    cases ps with
    | nil =>
      have hnone : ∀ w ∈ word, dropWord? w [] = none := by
        intro w hmem
        obtain ⟨l, ls, rfl⟩ := List.exists_cons_of_ne_nil (hword w hmem).1
        rfl
      rw [dropForm?_nil, spell_nil, Option.map_none]
      cases words with
      | nil =>
        refine List.findSome?_eq_none_iff.mpr fun w hmem => ?_
        rw [hnone w hmem]
        rfl
      | cons =>
        refine List.findSome?_eq_none_iff.mpr fun w hmem => ?_
        rw [hnone w hmem]
        rfl
    | cons p ps =>
      have hmeet := fun w hmem => dropWord?_spell (hword w hmem) h
      have hafter : ∀ w ∈ word, p.key = w → startsWord (spell ps) = false := fun w hmem hk =>
        h.startsWord_tail (hk ▸ (hword w hmem).1)
      rw [dropForm?_cons]
      cases words with
      | nil =>
        have hfind : Rewrite.dropWords? [word] (spell (p :: ps)) =
            if p.key ∈ word then some (spell ps) else none := by
          refine findSome?_of_eq fun w hmem => ?_
          rcases hmeet w hmem with ⟨hk, hdrop⟩ | ⟨hk, hdrop⟩
          · rw [if_pos hk, hdrop, Option.filter_some, hafter w hmem hk]
            rfl
          · rw [if_neg hk, Option.filter_eq_none_iff]
            intro rest hrest
            simp [hdrop rest hrest]
        rw [hfind]
        by_cases hk : p.key ∈ word <;> simp [hk]
      | cons next words =>
        have hfind : Rewrite.dropWords? (word :: next :: words) (spell (p :: ps)) =
            if p.key ∈ word then (dropForm? (next :: words) (afterGap ps)).map spell else none := by
          refine findSome?_of_eq fun w hmem => ?_
          rcases hmeet w hmem with ⟨hk, hdrop⟩ | ⟨hk, hdrop⟩
          · rw [if_pos hk, hdrop]
            show (dropBlanks? (spell ps)).bind (Rewrite.dropWords? (next :: words)) = _
            rw [dropBlanks?_spell h.tail]
            unfold afterGap
            split_ifs with hgap
            · exact ih h.tail.dropWhile
            · rfl
          · rw [if_neg hk]
            rcases hrest : dropWord? w (spell (p :: ps)) with _ | rest
            · rfl
            · show (dropBlanks? rest).bind _ = none
              rw [dropBlanks?_eq_none (hdrop rest hrest)]
              rfl
        rw [hfind]
        by_cases hk : p.key ∈ word <;> simp [hk]

lemma afterGap_suffix (ps : List Piece) : afterGap ps = [] ∨
    ∃ gap, ps = gap ++ afterGap ps ∧ ∀ p ∈ gap, p.isGap = true := by
  unfold afterGap
  split_ifs
  · refine .inr ⟨ps.takeWhile Piece.isGap, List.takeWhile_append_dropWhile.symm, fun p hp => ?_⟩
    exact List.mem_takeWhile_imp hp
  · exact .inl rfl

/-- What the words of a form cover: those words and the blanks between them. -/
lemma dropForm?_eq_some {words : List (List (List Char))} {rest : List Piece}
    (h : dropForm? words ps = some rest) :
    ∃ form, ps = form ++ rest ∧ form ≠ [] ∧
      ∀ p ∈ form, p.isGap = true ∨ p.key ∈ words.flatten := by
  induction words generalizing ps with
  | nil => cases ps <;> cases h
  | cons word words ih =>
    cases ps with
    | nil => cases h
    | cons p ps =>
      rw [dropForm?_cons] at h
      split_ifs at h with hp hw
      · obtain rfl := Option.some.inj h
        exact ⟨[p], rfl, by simp, by simp [hp]⟩
      · obtain ⟨form, hform, -, hmem⟩ := ih h
        rcases afterGap_suffix ps with hnil | ⟨gap, hgap, hblank⟩
        · rw [hnil, dropForm?_nil] at h
          cases h
        · refine ⟨p :: (gap ++ form), ?_, by simp, ?_⟩
          · rw [hgap, hform]
            simp
          · intro q hq
            rw [List.mem_cons, List.mem_append] at hq
            rcases hq with rfl | hq | hq
            · exact .inr (List.mem_flatten.mpr ⟨word, List.mem_cons_self, hp⟩)
            · exact .inl (hblank q hq)
            · exact (hmem q hq).imp_right (by simp +contextual)

lemma dropForm?_startsWord {words : List (List (List Char))} {rest : List Piece}
    (hw : ∀ word ∈ words, Lettered word) (h : Proper ps) (hd : dropForm? words ps = some rest) :
    startsWord (spell rest) = false := by
  induction words generalizing ps with
  | nil => cases ps <;> cases hd
  | cons word words ih =>
    cases ps with
    | nil => cases hd
    | cons p ps =>
      rw [dropForm?_cons] at hd
      split_ifs at hd with hp hnil
      · obtain rfl := Option.some.inj hd
        exact h.startsWord_tail (hw word List.mem_cons_self p.key hp).1
      · exact ih (fun x hx => hw x (List.mem_cons_of_mem _ hx)) h.tail.afterGap hd

end TableSchema.Source
