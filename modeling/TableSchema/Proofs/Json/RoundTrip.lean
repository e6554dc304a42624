import TableSchema.Json.Printer
import TableSchema.Json.Reader
import Mathlib.Data.List.Nodup
import Mathlib.Tactic.Lemma
import Mathlib.Tactic.SplitIfs

/-!
Reading what was printed.

A value whose objects have no key twice is read back from its written form, in any layout and
whatever its texts hold. The parts of a value are read off the front of a longer text, so each part
is shown to leave alone what follows it. Main statement: `parse?_render`.
-/

namespace TableSchema.Json

variable {cs rest : List Char} {fuel : Nat}

/-- Values whose objects have no key twice. -/
inductive Distinct : Json → Prop where
  | null : Distinct null
  | bool (b : Bool) : Distinct (bool b)
  | number (n : Int) : Distinct (number n)
  | text (s : String) : Distinct (text s)
  | array {items : List Json} (h : ∀ v ∈ items, Distinct v) : Distinct (array items)
  | object {members : List (String × Json)} (hkeys : (members.map Prod.fst).Nodup)
      (h : ∀ m ∈ members, Distinct m.2) : Distinct (object members)

/-! ### Texts -/

lemma hexValue?_hexDigit : ∀ n < 16, hexValue? (hexDigit n) = some n := by decide

lemma unescape?_control {c : Char} (h : c.toNat < 0x20) (rest : List Char) :
    unescape? ('u' :: '0' :: '0' :: hexDigit (c.toNat / 16) :: hexDigit (c.toNat % 16) :: rest) =
      some (c, rest) := by
  have hhigh := hexValue?_hexDigit (c.toNat / 16) (by omega)
  have hlow := hexValue?_hexDigit (c.toNat % 16) (by omega)
  have hunit : unit? ('0' :: '0' :: hexDigit (c.toNat / 16) :: hexDigit (c.toNat % 16) :: rest) =
      some (c.toNat, rest) := by
    have hzero : hexValue? '0' = some 0 := rfl
    simp only [unit?, hzero, hhigh, hlow, bind, Option.bind, pure]
    congr 2
    omega
  have hlarge : ¬ 0xD800 ≤ c.toNat := by omega
  simp [unescape?, hunit, hlarge, Char.ofNat_toNat]

lemma escape_cases (c : Char) :
    (escape c = [c] ∧ c ≠ '"' ∧ c ≠ '\\') ∨
      ∃ code, escape c = '\\' :: code ∧ ∀ rest, unescape? (code ++ rest) = some (c, rest) := by
  unfold escape
  split_ifs with hquote hslash hnewline hreturn htab hfeed hback hcontrol
  · exact .inr ⟨_, rfl, fun _ => by rw [eq_of_beq hquote]; rfl⟩
  · exact .inr ⟨_, rfl, fun _ => by rw [eq_of_beq hslash]; rfl⟩
  · exact .inr ⟨_, rfl, fun _ => by rw [eq_of_beq hnewline]; rfl⟩
  · exact .inr ⟨_, rfl, fun _ => by rw [eq_of_beq hreturn]; rfl⟩
  · exact .inr ⟨_, rfl, fun _ => by rw [eq_of_beq htab]; rfl⟩
  · exact .inr ⟨_, rfl, fun _ => by rw [eq_of_beq hfeed]; rfl⟩
  · exact .inr ⟨_, rfl, fun _ => by rw [eq_of_beq hback]; rfl⟩
  · exact .inr ⟨_, rfl, unescape?_control hcontrol⟩
  · exact .inl ⟨rfl, by simpa using hquote, by simpa using hslash⟩

lemma readChars_escape (c : Char) (cs : List Char) :
    readChars (fuel + 1) (escape c ++ cs) =
      (readChars fuel cs).map fun r => (c :: r.1, r.2) := by
  rcases escape_cases c with ⟨he, hquote, hslash⟩ | ⟨code, he, hread⟩
  · rw [he, List.singleton_append, readChars, if_neg (by simpa), if_neg (by simpa)]
    rcases readChars fuel cs with _ | r <;> rfl
  · rw [he, List.cons_append, readChars, if_neg (by decide), if_pos (by rfl), hread]
    show (readChars fuel cs >>= fun r => some (c :: r.1, r.2)) = _
    rcases readChars fuel cs with _ | r <;> rfl

lemma readChars_escaped (hfuel : cs.length < fuel) (rest : List Char) :
    readChars fuel (cs.flatMap escape ++ '"' :: rest) = some (cs, rest) := by
  induction cs generalizing fuel with
  | nil =>
    obtain ⟨fuel, rfl⟩ := Nat.exists_eq_succ_of_ne_zero (Nat.ne_of_gt hfuel)
    rfl
  | cons c cs ih =>
    obtain ⟨fuel, rfl⟩ := Nat.exists_eq_succ_of_ne_zero (Nat.ne_zero_of_lt hfuel)
    have hfuel' : cs.length < fuel := Nat.lt_of_succ_lt_succ hfuel
    rw [List.flatMap_cons, List.append_assoc, readChars_escape, ih hfuel']
    rfl

lemma length_le_escaped (cs : List Char) : cs.length ≤ (cs.flatMap escape).length := by
  induction cs with
  | nil => simp
  | cons c cs ih =>
    have hpos : 1 ≤ (escape c).length := by
      rcases escape_cases c with ⟨he, -⟩ | ⟨code, he, -⟩ <;> simp [he]
    rw [List.flatMap_cons, List.length_append, List.length_cons]
    omega

lemma readText_escaped (s : String) (rest : List Char) :
    readText (s.toList.flatMap escape ++ '"' :: rest) = some (s, rest) := by
  have hlength := length_le_escaped s.toList
  have hfuel : s.toList.length < (s.toList.flatMap escape ++ '"' :: rest).length + 1 := by
    rw [List.length_append]
    omega
  rw [readText, readChars_escaped hfuel]
  simp [String.ofList_toList]

/-! ### Numbers -/

def NoDigit (cs : List Char) : Prop := ∀ c ∈ cs.head?, c.isDigit = false

lemma toList_repr (n : Nat) : n.repr.toList = Nat.toDigits 10 n := by
  rw [Nat.repr_eq_ofList_toDigits, String.toList_ofList]

/-- The digits of a number and what follows them, taken apart. -/
lemma span_toDigits (n : Nat) (hr : NoDigit rest) :
    (Nat.toDigits 10 n ++ rest).takeWhile Char.isDigit = Nat.toDigits 10 n ∧
      (Nat.toDigits 10 n ++ rest).dropWhile Char.isDigit = rest := by
  have hdigit : ∀ c ∈ Nat.toDigits 10 n, c.isDigit = true := fun _ =>
    Nat.isDigit_of_mem_toDigits (by decide) (by decide)
  rw [List.takeWhile_append_of_pos hdigit, List.dropWhile_append_of_pos hdigit]
  cases rest with
  | nil => simp
  | cons c rest =>
    have hc : c.isDigit = false := hr c rfl
    simp [hc]

lemma ofAscii_toDigits (n : Nat) : ofAscii (Nat.toDigits 10 n) = n := by
  have h := Nat.ofDigitChars_ten_toDigits (n := n)
  rwa [Nat.ofDigitChars_eq_foldl] at h

lemma readNumber_negative (n : Nat) (hr : NoDigit rest) :
    readNumber ('-' :: (Nat.toDigits 10 n ++ rest)) = some (number (-n), rest) := by
  obtain ⟨htake, hdrop⟩ := span_toDigits n hr
  have hne : Nat.toDigits 10 n ≠ [] := Nat.toDigits_ne_nil
  simp [readNumber, htake, hdrop, hne, ofAscii_toDigits]

lemma readNumber_natural (n : Nat) (hr : NoDigit rest) :
    readNumber (Nat.toDigits 10 n ++ rest) = some (number n, rest) := by
  obtain ⟨htake, hdrop⟩ := span_toDigits n hr
  have hne : Nat.toDigits 10 n ≠ [] := Nat.toDigits_ne_nil
  have hsign : ∀ body, Nat.toDigits 10 n ++ rest ≠ '-' :: body := fun body h => by
    rw [h] at htake
    exact hne htake.symm
  simp [readNumber, htake, hdrop, hne, ofAscii_toDigits]

lemma readNumber_toString (n : Int) (hr : NoDigit rest) :
    readNumber ((toString n).toList ++ rest) = some (number n, rest) := by
  rw [Int.toString_eq_repr, Int.repr_eq_if]
  split_ifs with hn
  · rw [toList_repr, readNumber_natural _ hr, Int.toNat_of_nonneg hn]
  · have hsign : ("-" ++ (-n).toNat.repr).toList = '-' :: Nat.toDigits 10 (-n).toNat := by
      rw [String.toList_append, toList_repr]
      rfl
    have habs : -((-n).toNat : Int) = n := by omega
    rw [hsign, List.cons_append, readNumber_negative _ hr, habs]

/-- A number is written with digits, and perhaps a sign. -/
lemma mem_toString (n : Int) : ∀ c ∈ (toString n).toList, c = '-' ∨ c.isDigit = true := by
  have hdigit : ∀ m : Nat, ∀ c ∈ m.repr.toList, c.isDigit = true := fun m c hc => by
    rw [toList_repr] at hc
    exact Nat.isDigit_of_mem_toDigits (by decide) (by decide) hc
  intro c hc
  rw [Int.toString_eq_repr, Int.repr_eq_if] at hc
  split_ifs at hc with hn
  · exact .inr (hdigit _ c hc)
  · rw [String.toList_append, List.mem_append] at hc
    rcases hc with hc | hc
    · exact .inl (List.mem_singleton.mp hc)
    · exact .inr (hdigit _ c hc)

lemma not_mem_of_number {c : Char} (hc : c = '-' ∨ c.isDigit = true) {l : List Char}
    (hl : l.any (fun d => d == '-' || d.isDigit) = false) : c ∉ l := by
  intro hmem
  have hother := List.any_eq_false.mp hl c hmem
  rcases hc with rfl | hc
  · exact hother rfl
  · exact hother (by rw [hc, Bool.or_true])

lemma toString_eq_cons (n : Int) :
    ∃ c cs, (toString n).toList = c :: cs ∧ (c = '-' ∨ c.isDigit = true) := by
  have hne : (toString n).toList ≠ [] := by
    rw [Int.toString_eq_repr, Int.repr_eq_if]
    split_ifs with hn
    · rw [toList_repr]
      exact Nat.toDigits_ne_nil
    · rw [String.toList_append]
      exact List.cons_ne_nil '-' _
  obtain ⟨c, cs, h⟩ := List.exists_cons_of_ne_nil hne
  exact ⟨c, cs, h, mem_toString n c (h ▸ List.mem_cons_self)⟩

/-! ### Blanks -/

def Blank (cs : List Char) : Prop := ∀ c ∈ cs, isSpace c = true

lemma skipSpace_append {b : List Char} (hb : Blank b) (cs : List Char) :
    skipSpace (b ++ cs) = skipSpace cs := List.dropWhile_append_of_pos hb

lemma skipSpace_cons {c : Char} (hc : isSpace c = false) (cs : List Char) :
    skipSpace (c :: cs) = c :: cs := List.dropWhile_cons_of_neg (by simp [hc])

lemma readValue_append {b : List Char} (hb : Blank b) (fuel : Nat) (cs : List Char) :
    readValue fuel (b ++ cs) = readValue fuel cs := by
  cases fuel with
  | zero => rfl
  | succ fuel => rw [readValue, readValue, skipSpace_append hb]

lemma readItems_append {b : List Char} (hb : Blank b) (fuel : Nat) (done : List Json)
    (cs : List Char) : readItems fuel done (b ++ cs) = readItems fuel done cs := by
  cases fuel with
  | zero => rfl
  | succ fuel => rw [readItems, readItems, readValue_append hb]

lemma readMembers_append {b : List Char} (hb : Blank b) (fuel : Nat)
    (done : List (String × Json)) (cs : List Char) :
    readMembers fuel done (b ++ cs) = readMembers fuel done cs := by
  cases fuel with
  | zero => rfl
  | succ fuel => rw [readMembers, readMembers, skipSpace_append hb]

variable (layout : Layout) (level : Nat)

lemma blank_lineBreak : Blank (layout.lineBreak level) := by
  intro c hc
  cases layout with
  | oneLine => cases hc
  | indented width =>
    rcases List.mem_cons.mp hc with rfl | hc
    · rfl
    · rw [List.eq_of_mem_replicate hc]
      rfl

lemma separator_eq : ∃ gap, Blank gap ∧ layout.separator level = ',' :: gap := by
  cases layout with
  | oneLine => exact ⟨[' '], by simp [Blank, isSpace], rfl⟩
  | indented width => exact ⟨_, blank_lineBreak (.indented width) level, rfl⟩

lemma noDigit_blank {b : List Char} (hb : Blank b) (hr : NoDigit rest) : NoDigit (b ++ rest) := by
  cases b with
  | nil => exact hr
  | cons c b =>
    intro d hd
    obtain rfl : c = d := by simpa using hd
    have hc := hb c List.mem_cons_self
    simp only [isSpace, Bool.or_eq_true, beq_iff_eq] at hc
    rcases hc with ((rfl | rfl) | rfl) | rfl <;> rfl

lemma noDigit_nil : NoDigit [] := by simp [NoDigit]

/-! ### Values -/

@[simp] lemma printItems_eq (items : List Json) :
    printItems layout level items = items.map (print layout level) := by
  induction items with
  | nil => rfl
  | cons v items ih => rw [printItems, ih, List.map_cons]

def printMember (m : String × Json) : List Char :=
  quoted m.1 ++ [':', ' '] ++ print layout level m.2

@[simp] lemma printMembers_eq (members : List (String × Json)) :
    printMembers layout level members = members.map (printMember layout level) := by
  induction members with
  | nil => rfl
  | cons m members ih => rw [printMembers, ih, List.map_cons, printMember]

def joined (texts : List (List Char)) : List Char := (layout.separator level).intercalate texts

def closed (closing : Char) (texts : List (List Char)) : List Char :=
  if texts.isEmpty then [closing]
  else layout.lineBreak (level + 1) ++
    (joined layout (level + 1) texts ++ (layout.lineBreak level ++ [closing]))

lemma enclose_eq (opening closing : Char) (texts : List (List Char)) :
    layout.enclose level opening closing texts = opening :: closed layout level closing texts := by
  unfold Layout.enclose closed
  split_ifs
  · rfl
  · simp [joined]

/-- A written value begins with none of the characters that could be taken for something else. -/
lemma print_eq_cons (v : Json) :
    ∃ c cs, print layout level v = c :: cs ∧ c ∉ [' ', '\n', '\r', '\t', ']', '!'] := by
  cases v with
  | null => exact ⟨_, _, rfl, by decide⟩
  | bool b => cases b <;> exact ⟨_, _, rfl, by decide⟩
  | number n =>
    obtain ⟨c, cs, h, hc⟩ := toString_eq_cons n
    exact ⟨c, cs, h, not_mem_of_number hc (by decide)⟩
  | text s => exact ⟨_, _, rfl, by decide⟩
  | array items => exact ⟨_, _, enclose_eq .., by decide⟩
  | object members => exact ⟨_, _, enclose_eq .., by decide⟩

/-- A text that begins neither with a blank nor with the character given. -/
def Opens (closing : Char) (cs : List Char) : Prop :=
  ∃ c cs', cs = c :: cs' ∧ isSpace c = false ∧ c ≠ closing

lemma Opens.skipSpace {closing : Char} (h : Opens closing cs) : skipSpace cs = cs := by
  obtain ⟨c, cs, rfl, hspace, -⟩ := h
  exact skipSpace_cons hspace cs

lemma Opens.append {closing : Char} (h : Opens closing cs) (rest : List Char) :
    Opens closing (cs ++ rest) := by
  obtain ⟨c, cs, rfl, hc⟩ := h
  exact ⟨c, cs ++ rest, rfl, hc⟩

lemma opens_print {closing : Char} (hclosing : closing ∈ [']', '!']) (v : Json) :
    Opens closing (print layout level v) := by
  obtain ⟨c, cs, h, hc⟩ := print_eq_cons layout level v
  refine ⟨c, cs, h, ?_, ?_⟩
  · simp only [List.mem_cons, not_or] at hc
    simp [isSpace, hc]
  · rintro rfl
    exact hc (List.mem_append_right [' ', '\n', '\r', '\t'] hclosing)

lemma skipSpace_print (v : Json) (rest : List Char) :
    skipSpace (print layout level v ++ rest) = print layout level v ++ rest := by
  have hclosing : ']' ∈ [']', '!'] := by decide
  exact ((opens_print layout level hclosing v).append rest).skipSpace

lemma opens_printMember (m : String × Json) : Opens '\x7d' (printMember layout level m) :=
  ⟨'"', _, rfl, rfl, by decide⟩

lemma length_print_pos (v : Json) : 0 < (print layout level v).length := by
  obtain ⟨c, cs, h, -⟩ := print_eq_cons layout level v
  rw [h]
  exact Nat.succ_pos _

/-- Reading takes the written value off the front of a text, with as much fuel as it is long. -/
def ReadsBack (v : Json) : Prop :=
  ∀ level fuel rest, (print layout level v).length ≤ fuel → NoDigit rest →
    readValue fuel (print layout level v ++ rest) = some (v, rest)

variable {layout level}

/-- A value is not read without fuel. -/
lemma ReadsBack.of_succ {v : Json} (h : ∀ level fuel rest,
      (print layout level v).length ≤ fuel + 1 → NoDigit rest →
        readValue (fuel + 1) (print layout level v ++ rest) = some (v, rest)) :
    ReadsBack layout v := by
  intro level fuel rest hfuel hr
  have hpos := Nat.lt_of_lt_of_le (length_print_pos layout level v) hfuel
  obtain ⟨n, rfl⟩ := Nat.exists_eq_succ_of_ne_zero (Nat.ne_of_gt hpos)
  exact h level n rest hfuel hr

lemma readsBack_number (n : Int) : ReadsBack layout (number n) := by
  refine .of_succ fun level fuel rest _ hr => ?_
  obtain ⟨c, cs, h, hc⟩ := toString_eq_cons n
  have hno : c ∉ ['"', '[', '\x7b', 'n', 't', 'f'] := not_mem_of_number hc (by decide)
  simp only [List.mem_cons, List.not_mem_nil, or_false, not_or] at hno
  have hread := readNumber_toString n hr
  rw [h, List.cons_append] at hread
  rw [readValue, skipSpace_print, print, h, List.cons_append]
  simpa [hno] using hread

lemma readsBack_text (s : String) : ReadsBack layout (text s) := by
  refine .of_succ fun level fuel rest _ _ => ?_
  rw [readValue, skipSpace_print, print, quoted, List.append_assoc, List.cons_append]
  show (readText (s.toList.flatMap escape ++ '"' :: rest)).map _ = _
  rw [readText_escaped]
  rfl

/-! ### Arrays and objects -/

lemma joined_cons_cons (text text' : List Char) (texts : List (List Char)) :
    joined layout level (text :: text' :: texts) =
      text ++ layout.separator level ++ joined layout level (text' :: texts) :=
  List.intercalate_cons_cons

lemma joined_singleton (text : List Char) : joined layout level [text] = text :=
  List.intercalate_singleton

lemma noDigit_cons {c : Char} (hc : c.isDigit = false) (cs : List Char) : NoDigit (c :: cs) := by
  intro d hd
  obtain rfl : c = d := by simpa using hd
  exact hc

lemma readItems_item {v : Json} (hv : ReadsBack layout v)
    (hfuel : (print layout level v).length ≤ fuel) (hr : NoDigit rest) (done : List Json) :
    readItems (fuel + 1) done (print layout level v ++ rest) =
      match skipSpace rest with
      | ',' :: rest => readItems fuel (v :: done) rest
      | ']' :: rest => some (array (v :: done).reverse, rest)
      | _ => none := by
  rw [readItems, hv level fuel rest hfuel hr]
  rfl

lemma readItems_joined {items : List Json} (hne : items ≠ [])
    (h : ∀ v ∈ items, ReadsBack layout v) {b : List Char} (hb : Blank b) (rest : List Char)
    (done : List Json)
    (hfuel : (joined layout level (items.map (print layout level))).length < fuel) :
    readItems fuel done
        (joined layout level (items.map (print layout level)) ++ (b ++ ']' :: rest)) =
      some (array (done.reverse ++ items), rest) := by
  -- what is left after an item begins with a separator or with the end, neither of which is a digit
  induction items generalizing done fuel with
  | nil => exact absurd rfl hne
  | cons v items ih =>
    obtain ⟨fuel, rfl⟩ := Nat.exists_eq_succ_of_ne_zero (Nat.ne_zero_of_lt hfuel)
    have hv := h v List.mem_cons_self
    cases items with
    | nil =>
      rw [List.map_cons, List.map_nil, joined_singleton] at hfuel ⊢
      have hclose : NoDigit (b ++ ']' :: rest) := noDigit_blank hb (noDigit_cons rfl rest)
      rw [readItems_item hv (Nat.le_of_lt_succ hfuel) hclose, skipSpace_append hb,
        skipSpace_cons rfl, ← List.reverse_cons]
      rfl
    | cons w items =>
      obtain ⟨gap, hgap, hseparator⟩ := separator_eq layout level
      rw [List.map_cons, List.map_cons, joined_cons_cons, hseparator, ← List.map_cons] at hfuel ⊢
      simp only [List.length_append, List.length_cons] at hfuel
      rw [List.append_assoc, List.append_assoc, List.cons_append,
        readItems_item hv (by omega) (noDigit_cons rfl _), skipSpace_cons rfl]
      show readItems fuel (v :: done) (gap ++ _) = _
      rw [readItems_append hgap]
      refine (ih (List.cons_ne_nil _ _) (fun x hx => h x (List.mem_cons_of_mem _ hx)) (v :: done)
        (by omega)).trans ?_
      rw [List.reverse_cons, List.append_assoc, List.singleton_append]

lemma setMember_of_not_mem {key : String} {done : List (String × Json)}
    (hkey : key ∉ done.map Prod.fst) (value : Json) :
    setMember key value done = done ++ [(key, value)] := by
  induction done with
  | nil => rfl
  | cons m done ih =>
    rw [List.map_cons, List.mem_cons, not_or] at hkey
    have hne : ¬ (m.1 == key) = true := by simpa using Ne.symm hkey.1
    rw [setMember, if_neg hne, ih hkey.2, List.cons_append]

lemma readMembers_member {m : String × Json} (hv : ReadsBack layout m.2)
    (hfuel : (print layout level m.2).length ≤ fuel) (hr : NoDigit rest)
    (done : List (String × Json)) :
    readMembers (fuel + 1) done (printMember layout level m ++ rest) =
      match skipSpace rest with
      | ',' :: rest => readMembers fuel (setMember m.1 m.2 done) rest
      | '\x7d' :: rest => some (object (setMember m.1 m.2 done), rest)
      | _ => none := by
  have happend : printMember layout level m ++ rest = '"' ::
      (m.1.toList.flatMap escape ++ '"' :: ':' :: ' ' :: (print layout level m.2 ++ rest)) := by
    simp [printMember, quoted]
  have hcolon : ∀ cs, skipSpace (':' :: cs) = ':' :: cs := skipSpace_cons rfl
  have hspace : Blank [' '] := by simp [Blank, isSpace]
  have hvalue : readValue fuel (' ' :: (print layout level m.2 ++ rest)) = some (m.2, rest) :=
    (readValue_append hspace fuel _).trans (hv level fuel rest hfuel hr)
  rw [happend, readMembers, skipSpace_cons rfl]
  simp only [readText_escaped, bind, Option.bind, hcolon, hvalue]
  rfl

/-- The members of an object are read up to its end, each under a key of its own. -/
lemma readMembers_joined {members : List (String × Json)} (hne : members ≠ [])
    (h : ∀ m ∈ members, ReadsBack layout m.2) {b : List Char} (hb : Blank b) (rest : List Char)
    (done : List (String × Json)) (hkeys : ((done ++ members).map Prod.fst).Nodup)
    (hfuel : (joined layout level (members.map (printMember layout level))).length < fuel) :
    readMembers fuel done
        (joined layout level (members.map (printMember layout level)) ++ (b ++ '\x7d' :: rest)) =
      some (object (done ++ members), rest) := by
  induction members generalizing done fuel with
  | nil => exact absurd rfl hne
  | cons m members ih =>
    obtain ⟨fuel, rfl⟩ := Nat.exists_eq_succ_of_ne_zero (Nat.ne_zero_of_lt hfuel)
    have hv := h m List.mem_cons_self
    have hlength : (print layout level m.2).length ≤ (printMember layout level m).length := by
      rw [printMember, List.length_append]
      omega
    have hkey : m.1 ∉ done.map Prod.fst := fun hmem => by
      rw [List.map_append, List.nodup_append] at hkeys
      exact hkeys.2.2 _ hmem _ List.mem_cons_self rfl
    have hset := setMember_of_not_mem hkey m.2
    cases members with
    | nil =>
      rw [List.map_cons, List.map_nil, joined_singleton] at hfuel ⊢
      have hclose : NoDigit (b ++ '\x7d' :: rest) := noDigit_blank hb (noDigit_cons rfl rest)
      rw [readMembers_member hv (by omega) hclose, skipSpace_append hb, skipSpace_cons rfl, hset]
      rfl
    | cons m' members =>
      obtain ⟨gap, hgap, hseparator⟩ := separator_eq layout level
      rw [List.map_cons, List.map_cons, joined_cons_cons, hseparator, ← List.map_cons] at hfuel ⊢
      simp only [List.length_append, List.length_cons] at hfuel
      rw [List.append_assoc, List.append_assoc, List.cons_append,
        readMembers_member hv (by omega) (noDigit_cons rfl _), skipSpace_cons rfl, hset]
      show readMembers fuel (done ++ [m]) (gap ++ _) = _
      rw [readMembers_append hgap]
      refine (ih (List.cons_ne_nil _ _) (fun x hx => h x (List.mem_cons_of_mem _ hx)) (done ++ [m])
        (by simpa using hkeys) (by omega)).trans ?_
      rw [List.append_assoc, List.singleton_append]

lemma opens_joined {closing : Char} {texts : List (List Char)} (hne : texts ≠ [])
    (h : ∀ text ∈ texts, Opens closing text) : Opens closing (joined layout level texts) := by
  cases texts with
  | nil => exact absurd rfl hne
  | cons text texts =>
    have htext := h text List.mem_cons_self
    cases texts with
    | nil => rwa [joined_singleton]
    | cons text' texts =>
      rw [joined_cons_cons, List.append_assoc]
      exact htext.append _

variable (layout level) in
lemma opens_items {closing : Char} (hclosing : closing ∈ [']', '!']) (v : Json)
    (items : List Json) :
    Opens closing (joined layout level ((v :: items).map (print layout level))) :=
  opens_joined (by simp) (List.forall_mem_map.mpr fun w _ => opens_print layout level hclosing w)

lemma enclose_append (opening closing : Char) {texts : List (List Char)} (hne : texts ≠ [])
    (rest : List Char) :
    layout.enclose level opening closing texts ++ rest = opening :: (layout.lineBreak (level + 1) ++
      (joined layout (level + 1) texts ++ (layout.lineBreak level ++ closing :: rest))) := by
  rw [enclose_eq, closed, if_neg (by simpa using hne)]
  simp

variable (layout level) in
lemma length_joined_lt_enclose (opening closing : Char) {texts : List (List Char)}
    (hne : texts ≠ []) : (joined layout (level + 1) texts).length + 1 <
      (layout.enclose level opening closing texts).length := by
  rw [← List.append_nil (layout.enclose ..), enclose_append opening closing hne]
  simp only [List.length_cons, List.length_append]
  omega

lemma readValue_array {b : List Char} (hb : Blank b) (hcs : Opens ']' cs) :
    readValue (fuel + 1) ('[' :: (b ++ cs)) = readItems fuel [] cs := by
  obtain ⟨c, cs, rfl, hspace, hclose⟩ := hcs
  rw [readValue, skipSpace_cons rfl]
  simp [skipSpace_append hb, skipSpace_cons hspace, hclose]

lemma readValue_object {b : List Char} (hb : Blank b) (hcs : Opens '\x7d' cs) :
    readValue (fuel + 1) ('\x7b' :: (b ++ cs)) = readMembers fuel [] cs := by
  obtain ⟨c, cs, rfl, hspace, hclose⟩ := hcs
  rw [readValue, skipSpace_cons rfl]
  simp [skipSpace_append hb, skipSpace_cons hspace, hclose]

lemma readsBack_array {items : List Json} (h : ∀ v ∈ items, ReadsBack layout v) :
    ReadsBack layout (array items) := by
  refine .of_succ fun level fuel rest hfuel _ => ?_
  rw [print, printItems_eq] at hfuel ⊢
  cases items with
  | nil => rfl
  | cons v items =>
    have hne : (v :: items).map (print layout (level + 1)) ≠ [] := by simp
    have hlength := length_joined_lt_enclose layout level '[' ']' hne
    have hclosing : ']' ∈ [']', '!'] := by decide
    have hopens := opens_items layout (level + 1) hclosing v items
    rw [enclose_append _ _ hne, readValue_array (blank_lineBreak layout _) (hopens.append _)]
    exact readItems_joined (List.cons_ne_nil v items) h (blank_lineBreak layout level) rest []
      (by omega)

lemma readsBack_object {members : List (String × Json)} (hkeys : (members.map Prod.fst).Nodup)
    (h : ∀ m ∈ members, ReadsBack layout m.2) : ReadsBack layout (object members) := by
  refine .of_succ fun level fuel rest hfuel _ => ?_
  rw [print, printMembers_eq] at hfuel ⊢
  cases members with
  | nil => rfl
  | cons m members =>
    have hne : (m :: members).map (printMember layout (level + 1)) ≠ [] := by simp
    have hlength := length_joined_lt_enclose layout level '\x7b' '\x7d' hne
    have hopens :
        Opens '\x7d' (joined layout (level + 1) ((m :: members).map (printMember layout _))) :=
      opens_joined hne (List.forall_mem_map.mpr fun m _ => opens_printMember layout _ m)
    rw [enclose_append _ _ hne, readValue_object (blank_lineBreak layout _) (hopens.append _)]
    exact readMembers_joined (List.cons_ne_nil m members) h (blank_lineBreak layout level) rest []
      hkeys (by omega)

/-! ### Whole texts -/

lemma readsBack {v : Json} (hv : Distinct v) : ReadsBack layout v := by
  induction hv with
  | null => exact .of_succ fun _ _ _ _ _ => rfl
  | bool b => exact .of_succ fun _ _ _ _ _ => by cases b <;> rfl
  | number n => exact readsBack_number n
  | text s => exact readsBack_text s
  | array _ ih => exact readsBack_array ih
  | object hkeys _ ih => exact readsBack_object hkeys ih

/-- **Round trip**: what was printed is read back, also with blanks after it. -/
theorem parse?_render (layout : Layout) {v : Json} (hv : Distinct v) {b : String}
    (hb : Blank b.toList) : parse? (render layout v ++ b) = some v := by
  have htext : (render layout v ++ b).toList = print layout 0 v ++ b.toList := by
    rw [String.toList_append, render, String.toList_ofList]
  have hlength : (render layout v ++ b).length = (print layout 0 v ++ b.toList).length := by
    rw [← htext]
    rfl
  have hdigit := noDigit_blank hb noDigit_nil
  have hrest := skipSpace_append hb []
  rw [List.append_nil] at hdigit hrest
  have hback : ReadsBack layout v := readsBack hv
  have hread := hback 0 ((print layout 0 v ++ b.toList).length + 1) b.toList
    (by rw [List.length_append]; omega) hdigit
  rw [parse?, htext, hlength, hread]
  dsimp only
  rw [hrest]
  rfl

end TableSchema.Json
