import NetFault.Lib.Json
import Mathlib.Data.List.TakeWhile

/-!
# Reading JSON texts

A parser by recursive descent.  The three functions for values, items and members call each other;
they count down, and twice the length of the text is enough.

What the parser accepts is a JSON text of the value it returns (`text_of_parse`), and it reads back
what `render` writes (`parse_render`).
-/

namespace Json

/-! ## The parser -/

def skip (text : List Char) : List Char := text.dropWhile isBlank

/-- The text of a string, after its opening quotation mark. -/
def scanBody : List Char → Option (List Piece × List Char)
  | [] => none
  | c :: text =>
      if c = '\x22' then some ([], text)
      else if c = '\x5c' then
        match text with
        | [] => none
        | e :: text =>
            if e = 'u' then
              match text with
              | a :: b :: c :: d :: text => do
                  let n ← codeUnit? a b c d
                  let (pieces, rest) ← scanBody text
                  some (.unit n :: pieces, rest)
              | _ => none
            else do
              let c ← escaped? e
              let (pieces, rest) ← scanBody text
              some (.char c :: pieces, rest)
      else if 0x20 ≤ c.toNat then do
        let (pieces, rest) ← scanBody text
        some (.char c :: pieces, rest)
      else none

def scanString (text : List Char) : Option (String × List Char) := do
  let (pieces, rest) ← scanBody text
  some (String.ofList (decode pieces), rest)

def scanDigits (text : List Char) : Option (List Char × List Char) :=
  if text.takeWhile Char.isDigit = [] then none
  else some (text.takeWhile Char.isDigit, text.dropWhile Char.isDigit)

def scanInt (text : List Char) : Option (List Char × List Char) := do
  let (digits, rest) ← scanDigits text
  if digits.head? = some '0' ∧ digits ≠ ['0'] then none else some (digits, rest)

def scanFrac : List Char → Option (List Char × List Char)
  | '.' :: text => scanDigits text
  | text => some ([], text)

def scanExp : List Char → Option (ℤ × List Char)
  | [] => some (0, [])
  | mark :: text =>
      if mark = 'e' ∨ mark = 'E' then
        match text with
        | '+' :: text => do
            let (digits, rest) ← scanDigits text
            some (Nat.ofDigitChars 10 digits 0, rest)
        | '-' :: text => do
            let (digits, rest) ← scanDigits text
            some (-Nat.ofDigitChars 10 digits 0, rest)
        | text => do
            let (digits, rest) ← scanDigits text
            some (Nat.ofDigitChars 10 digits 0, rest)
      else some (0, mark :: text)

def scanMagnitude (text : List Char) : Option (ℕ × ℤ × List Char) := do
  let (int, text) ← scanInt text
  let (frac, text) ← scanFrac text
  let (e, rest) ← scanExp text
  some (Nat.ofDigitChars 10 (int ++ frac) 0, e - frac.length, rest)

def scanNumber : List Char → Option (Json × List Char)
  | '-' :: text => do
      let (m, e, rest) ← scanMagnitude text
      some (.number (-m) e, rest)
  | text => do
      let (m, e, rest) ← scanMagnitude text
      some (.number m e, rest)

/-- The rest of a literal name. -/
def scanWord (word : List Char) (v : Json) (text : List Char) : Option (Json × List Char) :=
  if word <+: text then some (v, text.drop word.length) else none

mutual

def scanValue : ℕ → List Char → Option (Json × List Char)
  | 0, _ => none
  | _, [] => none
  | fuel + 1, c :: text =>
      if c = '\x22' then do
        let (value, rest) ← scanString text
        some (.string value, rest)
      else if c = '[' then
        match skip text with
        | ']' :: rest => some (.array [], rest)
        | front => do
            let (items, rest) ← scanElements fuel front
            some (.array items, rest)
      else if c = '\x7b' then
        match skip text with
        | '\x7d' :: rest => some (.object [], rest)
        | front => do
            let (members, rest) ← scanMembers fuel front
            some (.object members, rest)
      else if c = 'n' then scanWord ['u', 'l', 'l'] .null text
      else if c = 't' then scanWord ['r', 'u', 'e'] (.bool true) text
      else if c = 'f' then scanWord ['a', 'l', 's', 'e'] (.bool false) text
      else scanNumber (c :: text)

def scanElements : ℕ → List Char → Option (List Json × List Char)
  | 0, _ => none
  | fuel + 1, text => do
      let (item, middle) ← scanValue fuel text
      match skip middle with
      | ']' :: rest => some ([item], rest)
      | ',' :: next => do
          let (items, rest) ← scanElements fuel (skip next)
          some (item :: items, rest)
      | _ => none

def scanMembers : ℕ → List Char → Option (List (String × Json) × List Char)
  | 0, _ => none
  | fuel + 1, '\x22' :: text => do
      let (name, named) ← scanString text
      match skip named with
      | ':' :: after => do
          let (item, middle) ← scanValue fuel (skip after)
          match skip middle with
          | '\x7d' :: rest => some ([(name, item)], rest)
          | ',' :: next => do
              let (members, rest) ← scanMembers fuel (skip next)
              some ((name, item) :: members, rest)
          | _ => none
      | _ => none
  | _, _ => none

end

/-- The value of a complete text. -/
def parse (text : List Char) : Option Json := do
  let (v, rest) ← scanValue (2 * text.length + 1) (skip text)
  if skip rest = [] then some v else none

/-- The string of a text that stands between quotation marks. -/
def unescape (text : List Char) : Option String := do
  let (s, rest) ← scanString (text ++ ['\x22'])
  if rest = [] then some s else none

/-! ## What is accepted -/

section Sound

variable {text rest : List Char}

lemma gap_skip (text : List Char) : Gap text (skip text) :=
  ⟨text.takeWhile isBlank, fun _ hc => List.mem_takeWhile_imp hc,
    List.takeWhile_append_dropWhile.symm⟩

lemma gap_of_skip {front : List Char} (h : skip text = front) : Gap text front := h ▸ gap_skip text

lemma body_of_scanBody {pieces : List Piece} (h : scanBody text = some (pieces, rest)) :
    Body text pieces rest := by
  fun_induction scanBody text generalizing pieces rest with
  | case1 => cases h
  | case2 text =>
      cases h
      exact .close
  | case3 => cases h
  | case4 a b c d text _ ih =>
      simp only [Option.bind_eq_bind, Option.bind_eq_some_iff, Prod.exists] at h
      obtain ⟨n, hunit, pieces', rest', hscan, h⟩ := h
      cases h
      exact .unicode hunit (ih hscan)
  | case5 => cases h
  | case6 e text _ _ ih =>
      simp only [Option.bind_eq_bind, Option.bind_eq_some_iff, Prod.exists] at h
      obtain ⟨c, hknown, pieces', rest', hscan, h⟩ := h
      cases h
      exact .escape hknown (ih hscan)
  | case7 c text hquote hbackslash hprintable ih =>
      simp only [Option.bind_eq_bind, Option.bind_eq_some_iff, Prod.exists] at h
      obtain ⟨pieces', rest', hscan, h⟩ := h
      cases h
      exact .plain hprintable hquote hbackslash (ih hscan)
  | case8 => cases h

lemma digits_of_scanDigits {digits : List Char} (h : scanDigits text = some (digits, rest)) :
    Digits digits ∧ text = digits ++ rest := by
  unfold scanDigits at h
  split_ifs at h with hne
  obtain ⟨rfl, rfl⟩ := Prod.mk.inj (Option.some.inj h)
  exact ⟨⟨hne, fun c hc => List.mem_takeWhile_imp hc⟩, List.takeWhile_append_dropWhile.symm⟩

lemma intPart_of_scanInt {digits : List Char} (h : scanInt text = some (digits, rest)) :
    IntPart digits ∧ text = digits ++ rest := by
  simp only [scanInt, Option.bind_eq_bind, Option.bind_eq_some_iff, Prod.exists] at h
  obtain ⟨digits', rest', hscan, h⟩ := h
  split_ifs at h with hzero
  obtain ⟨rfl, rfl⟩ := Prod.mk.inj (Option.some.inj h)
  obtain ⟨hdigits, htext⟩ := digits_of_scanDigits hscan
  refine ⟨⟨hdigits, fun hhead => ?_⟩, htext⟩
  by_contra hne
  exact hzero ⟨hhead, hne⟩

lemma fracPart_of_scanFrac {digits : List Char} (h : scanFrac text = some (digits, rest)) :
    ∃ frac, FracPart frac digits ∧ text = frac ++ rest := by
  unfold scanFrac at h
  split at h
  · obtain ⟨hdigits, rfl⟩ := digits_of_scanDigits h
    exact ⟨_, .some hdigits, rfl⟩
  · obtain ⟨rfl, rfl⟩ := Prod.mk.inj (Option.some.inj h)
    exact ⟨_, .none, rfl⟩

lemma expPart_of_scanExp {e : ℤ} (h : scanExp text = some (e, rest)) :
    ∃ exp, ExpPart exp e ∧ text = exp ++ rest := by
  unfold scanExp at h
  split at h
  · obtain ⟨rfl, rfl⟩ := Prod.mk.inj (Option.some.inj h)
    exact ⟨_, .none, rfl⟩
  · split_ifs at h with hmark
    · split at h
      all_goals
        simp only [Option.bind_eq_bind, Option.bind_eq_some_iff, Prod.exists] at h
        obtain ⟨digits, rest', hscan, h⟩ := h
        obtain ⟨rfl, rfl⟩ := Prod.mk.inj (Option.some.inj h)
        obtain ⟨hdigits, rfl⟩ := digits_of_scanDigits hscan
      · exact ⟨_, .plus hmark hdigits, rfl⟩
      · exact ⟨_, .minus hmark hdigits, rfl⟩
      · exact ⟨_, .unsigned hmark hdigits, rfl⟩
    · obtain ⟨rfl, rfl⟩ := Prod.mk.inj (Option.some.inj h)
      exact ⟨_, .none, rfl⟩

lemma magnitude_of_scanMagnitude {m : ℕ} {e : ℤ} (h : scanMagnitude text = some (m, e, rest)) :
    ∃ front, Magnitude front m e ∧ text = front ++ rest := by
  simp only [scanMagnitude, Option.bind_eq_bind, Option.bind_eq_some_iff, Prod.exists] at h
  obtain ⟨int, text₁, hscan₁, digits, text₂, hscan₂, e', rest', hscan₃, h⟩ := h
  cases h
  obtain ⟨hint, rfl⟩ := intPart_of_scanInt hscan₁
  obtain ⟨frac, hfrac, rfl⟩ := fracPart_of_scanFrac hscan₂
  obtain ⟨exp, hexp, rfl⟩ := expPart_of_scanExp hscan₃
  exact ⟨_, .parts hint hfrac hexp, by simp only [List.append_assoc]⟩

lemma value_of_scanNumber {v : Json} (h : scanNumber text = some (v, rest)) :
    Value text v rest := by
  unfold scanNumber at h
  split at h
  all_goals
    simp only [Option.bind_eq_bind, Option.bind_eq_some_iff, Prod.exists] at h
    obtain ⟨m, e, rest', hscan, h⟩ := h
    cases h
    obtain ⟨front, hfront, rfl⟩ := magnitude_of_scanMagnitude hscan
  · exact .number (.negative hfront)
  · exact .number (.positive hfront)

lemma eq_of_scanWord {word : List Char} {v v' : Json}
    (h : scanWord word v text = some (v', rest)) : v' = v ∧ text = word ++ rest := by
  unfold scanWord at h
  split_ifs at h with hword
  obtain ⟨rfl, rfl⟩ := Prod.mk.inj (Option.some.inj h)
  refine ⟨rfl, ?_⟩
  obtain ⟨tail, rfl⟩ := hword
  rw [List.drop_left]

/-- The text of a string, with its name for a member. -/
lemma body_of_scanString {name : String} (h : scanString text = some (name, rest)) :
    ∃ pieces, name = String.ofList (decode pieces) ∧ Body text pieces rest := by
  simp only [scanString, Option.bind_eq_bind, Option.bind_eq_some_iff, Prod.exists] at h
  obtain ⟨pieces, rest', hscan, h⟩ := h
  cases h
  exact ⟨pieces, rfl, body_of_scanBody hscan⟩

/-- The three functions follow the grammar when they count down from `fuel`. -/
structure Follows (fuel : ℕ) : Prop where
  value : ∀ {text rest v}, scanValue fuel text = some (v, rest) → Value text v rest
  elements : ∀ {text rest items}, scanElements fuel text = some (items, rest) →
    Elements text items rest
  members : ∀ {text rest members}, scanMembers fuel text = some (members, rest) →
    Members text members rest

variable {fuel : ℕ}

lemma Follows.scanValue_succ (ih : Follows fuel) {v : Json}
    (h : scanValue (fuel + 1) text = some (v, rest)) : Value text v rest := by
  cases text with
  | nil => simp [scanValue] at h
  | cons c text =>
      rw [scanValue] at h
      split_ifs at h with hquote hbracket hbrace hn ht hf
      · simp only [Option.bind_eq_bind, Option.bind_eq_some_iff, Prod.exists] at h
        obtain ⟨value, rest', hscan, h⟩ := h
        cases h
        obtain ⟨pieces, rfl, hbody⟩ := body_of_scanString hscan
        exact hquote ▸ .string hbody
      · subst hbracket
        split at h
        · next hskip =>
            cases h
            exact .emptyArray (gap_of_skip hskip)
        · simp only [Option.bind_eq_bind, Option.bind_eq_some_iff, Prod.exists] at h
          obtain ⟨items, rest', hscan, h⟩ := h
          cases h
          exact .array (gap_skip text) (ih.elements hscan)
      · subst hbrace
        split at h
        · next hskip =>
            cases h
            exact .emptyObject (gap_of_skip hskip)
        · simp only [Option.bind_eq_bind, Option.bind_eq_some_iff, Prod.exists] at h
          obtain ⟨members, rest', hscan, h⟩ := h
          cases h
          exact .object (gap_skip text) (ih.members hscan)
      · obtain ⟨rfl, rfl⟩ := eq_of_scanWord h
        exact hn ▸ .null
      · obtain ⟨rfl, rfl⟩ := eq_of_scanWord h
        exact ht ▸ .true
      · obtain ⟨rfl, rfl⟩ := eq_of_scanWord h
        exact hf ▸ .false
      · exact value_of_scanNumber h

lemma Follows.scanElements_succ (ih : Follows fuel) {items : List Json}
    (h : scanElements (fuel + 1) text = some (items, rest)) : Elements text items rest := by
  simp only [scanElements, Option.bind_eq_bind, Option.bind_eq_some_iff, Prod.exists] at h
  obtain ⟨item, middle, hscan, h⟩ := h
  split at h
  · next hclose =>
      cases h
      exact .last (ih.value hscan) (gap_of_skip hclose)
  · next hcomma =>
      simp only [Option.bind_eq_some_iff, Prod.exists] at h
      obtain ⟨items', rest', hmore, h⟩ := h
      cases h
      exact .cons (ih.value hscan) (gap_of_skip hcomma) (gap_skip _) (ih.elements hmore)
  · cases h

lemma Follows.scanMembers_succ (ih : Follows fuel) {members : List (String × Json)}
    (h : scanMembers (fuel + 1) text = some (members, rest)) : Members text members rest := by
  rw [scanMembers.eq_def] at h
  split at h
  · cases h
  · next heq =>
      cases heq
      simp only [Option.bind_eq_bind, Option.bind_eq_some_iff, Prod.exists] at h
      obtain ⟨name, named, hname, h⟩ := h
      obtain ⟨pieces, rfl, hbody⟩ := body_of_scanString hname
      split at h
      · next hcolon =>
          simp only [Option.bind_eq_some_iff, Prod.exists] at h
          obtain ⟨item, middle, hscan, h⟩ := h
          split at h
          · next hclose =>
              cases h
              exact .last hbody (gap_of_skip hcolon) (gap_skip _) (ih.value hscan)
                (gap_of_skip hclose)
          · next hcomma =>
              simp only [Option.bind_eq_some_iff, Prod.exists] at h
              obtain ⟨members', rest', hmore, h⟩ := h
              cases h
              exact .cons hbody (gap_of_skip hcolon) (gap_skip _) (ih.value hscan)
                (gap_of_skip hcomma) (gap_skip _) (ih.members hmore)
          · cases h
      · cases h
  · cases h

/-- The induction is on the number that they count down from. -/
lemma follows (fuel : ℕ) : Follows fuel := by
  induction fuel with
  | zero =>
      refine ⟨fun h => ?_, fun h => ?_, fun h => ?_⟩
      · simp [scanValue] at h
      · simp [scanElements] at h
      · simp [scanMembers] at h
  | succ fuel ih => exact ⟨ih.scanValue_succ, ih.scanElements_succ, ih.scanMembers_succ⟩

/-- **What the parser accepts is a JSON text** of the value that it returns. -/
theorem text_of_parse {v : Json} (h : parse text = some v) : Text text v := by
  simp only [parse, Option.bind_eq_bind, Option.bind_eq_some_iff, Prod.exists] at h
  obtain ⟨v', rest, hscan, h⟩ := h
  split_ifs at h with hend
  cases h
  exact ⟨skip text, rest, gap_skip text, (follows _).value hscan, gap_of_skip hend⟩

end Sound

/-! ## Reading back what was written -/

/-- No number goes on with the rest. -/
def Stops (rest : List Char) : Prop :=
  ∀ c ∈ rest.head?, c.isDigit = false ∧ c ≠ '.' ∧ c ≠ 'e' ∧ c ≠ 'E'

section Numbers

variable {digits rest : List Char}

lemma scanDigits_append (hdigits : Digits digits) (hrest : ∀ c ∈ rest.head?, c.isDigit = false) :
    scanDigits (digits ++ rest) = some (digits, rest) := by
  have hstop : rest.takeWhile Char.isDigit = [] ∧ rest.dropWhile Char.isDigit = rest := by
    cases rest with
    | nil => exact ⟨rfl, rfl⟩
    | cons c rest => simp [hrest c rfl]
  rw [scanDigits, List.takeWhile_append_of_pos hdigits.2, List.dropWhile_append_of_pos hdigits.2,
    hstop.1, hstop.2, List.append_nil, if_neg hdigits.1]

lemma digits_toDigits (n : ℕ) : Digits (Nat.toDigits 10 n) :=
  ⟨Nat.toDigits_ne_nil, fun _ hc => Nat.isDigit_of_mem_toDigits (by decide) (by decide) hc⟩

/-- Only zero begins with a zero. -/
lemma eq_zero_of_head?_toDigits {n : ℕ} (h : (Nat.toDigits 10 n).head? = some '0') : n = 0 := by
  induction n using Nat.strongRecOn with
  | ind n ih =>
      by_cases hsmall : n < 10
      · rw [Nat.toDigits_of_lt_base hsmall] at h
        simpa using h
      · have hbase := not_lt.mp hsmall
        rw [Nat.toDigits_of_base_le (by decide) hbase,
          List.head?_append_of_ne_nil _ Nat.toDigits_ne_nil] at h
        have hquotient := ih (n / 10) (by omega) h
        omega

lemma scanInt_toDigits (n : ℕ) (hrest : ∀ c ∈ rest.head?, c.isDigit = false) :
    scanInt (Nat.toDigits 10 n ++ rest) = some (Nat.toDigits 10 n, rest) := by
  have hzero : ¬((Nat.toDigits 10 n).head? = some '0' ∧ Nat.toDigits 10 n ≠ ['0']) := by
    rintro ⟨hhead, hne⟩
    rw [eq_zero_of_head?_toDigits hhead, Nat.toDigits_zero] at hne
    exact hne rfl
  simp [scanInt, scanDigits_append (digits_toDigits n) hrest, hzero]

/-- The text of an integer. -/
lemma toList_toString_int (n : ℤ) : (toString n).toList =
    if n < 0 then '-' :: Nat.toDigits 10 n.natAbs else Nat.toDigits 10 n.natAbs := by
  cases n with
  | ofNat n =>
      rw [if_neg (Int.not_lt.mpr (Int.natCast_nonneg n) : ¬Int.ofNat n < 0)]
      exact Nat.toList_repr
  | negSucc n =>
      rw [if_pos (Int.negSucc_lt_zero n)]
      show ("-" ++ Nat.repr (n + 1)).toList = '-' :: Nat.toDigits 10 (n + 1)
      rw [String.toList_append, Nat.toList_repr]
      rfl

lemma toList_toString_of_neg {n : ℤ} (h : n < 0) :
    (toString n).toList = '-' :: Nat.toDigits 10 n.natAbs := by
  rw [toList_toString_int, if_pos h]

lemma toList_toString_of_nonneg {n : ℤ} (h : 0 ≤ n) :
    (toString n).toList = Nat.toDigits 10 n.natAbs := by
  rw [toList_toString_int, if_neg (Int.not_lt.mpr h)]

/-- The text of a natural number begins with a digit. -/
lemma isDigit_head?_toDigits (n : ℕ) (rest : List Char) :
    ∀ c ∈ (Nat.toDigits 10 n ++ rest).head?, c.isDigit = true := by
  intro c hc
  rw [List.head?_append_of_ne_nil _ Nat.toDigits_ne_nil] at hc
  exact (digits_toDigits n).2 c (List.mem_of_mem_head? hc)

lemma scanExp_stop (hrest : Stops rest) : scanExp rest = some (0, rest) := by
  cases rest with
  | nil => rfl
  | cons c rest =>
      obtain ⟨-, -, he, hE⟩ := hrest c rfl
      simp [scanExp, he, hE]

lemma scanFrac_stop (hrest : ∀ c ∈ rest.head?, c ≠ '.') : scanFrac rest = some ([], rest) := by
  unfold scanFrac
  split
  · exact absurd rfl (hrest '.' rfl)
  · rfl

lemma scanExp_toString (e : ℤ) (hrest : ∀ c ∈ rest.head?, c.isDigit = false) :
    scanExp ('e' :: ((toString e).toList ++ rest)) = some (e, rest) := by
  have hscan := scanDigits_append (digits_toDigits e.natAbs) hrest
  have hvalue : Nat.ofDigitChars 10 (Nat.toDigits 10 e.natAbs) 0 = e.natAbs :=
    Nat.ofDigitChars_ten_toDigits
  by_cases hneg : e < 0
  · have habs : -(e.natAbs : ℤ) = e := by omega
    rw [toList_toString_of_neg hneg]
    simp only [scanExp, true_or, if_true, List.cons_append, hscan, hvalue, habs,
      Option.bind_eq_bind, Option.bind_some]
  · have habs : (e.natAbs : ℤ) = e := by omega
    rw [toList_toString_of_nonneg (Int.not_lt.mp hneg)]
    -- The text begins with a digit, so it has no sign.
    have hhead := isDigit_head?_toDigits e.natAbs rest
    unfold scanExp
    simp only [true_or, if_true]
    split
    · next heq => exact absurd (hhead '+' (heq ▸ rfl)) (by decide)
    · next heq => exact absurd (hhead '-' (heq ▸ rfl)) (by decide)
    · simp only [hscan, hvalue, habs, Option.bind_eq_bind, Option.bind_some]

/-- The exponent of a number, as it is written. -/
lemma scanExp_render (e : ℤ) (hrest : Stops rest) :
    scanExp ((if e = 0 then [] else 'e' :: (toString e).toList) ++ rest) = some (e, rest) := by
  split_ifs with hzero
  · rw [hzero]
    exact scanExp_stop hrest
  · exact scanExp_toString e fun c hc => (hrest c hc).1

lemma scanMagnitude_render (m : ℕ) (e : ℤ) (hrest : Stops rest) :
    scanMagnitude (Nat.toDigits 10 m ++
      ((if e = 0 then [] else 'e' :: (toString e).toList) ++ rest)) = some (m, e, rest) := by
  set exponent := (if e = 0 then [] else 'e' :: (toString e).toList) ++ rest with hexponent
  have hhead : ∀ c ∈ exponent.head?, c.isDigit = false ∧ c ≠ '.' := by
    intro c hc
    rw [hexponent] at hc
    split_ifs at hc with hzero
    · exact ⟨(hrest c hc).1, (hrest c hc).2.1⟩
    · obtain rfl : 'e' = c := by simpa using hc
      decide
  have hvalue : Nat.ofDigitChars 10 (Nat.toDigits 10 m) 0 = m := Nat.ofDigitChars_ten_toDigits
  have hint := scanInt_toDigits m fun c hc => (hhead c hc).1
  have hfrac := scanFrac_stop fun c hc => (hhead c hc).2
  have hexp : scanExp exponent = some (e, rest) := scanExp_render e hrest
  simp [scanMagnitude, hint, hfrac, hexp, hvalue]

lemma scanNumber_render (m e : ℤ) (hrest : Stops rest) :
    scanNumber (render (.number m e) ++ rest) = some (.number m e, rest) := by
  have hscan := scanMagnitude_render m.natAbs e hrest
  rw [render, List.append_assoc]
  by_cases hneg : m < 0
  · have habs : -(m.natAbs : ℤ) = m := by omega
    rw [toList_toString_of_neg hneg, List.cons_append]
    simp only [scanNumber, hscan, habs, Option.bind_eq_bind, Option.bind_some]
  · have habs : (m.natAbs : ℤ) = m := by omega
    rw [toList_toString_of_nonneg (Int.not_lt.mp hneg)]
    have hhead := isDigit_head?_toDigits m.natAbs
      ((if e = 0 then [] else 'e' :: (toString e).toList) ++ rest)
    unfold scanNumber
    split
    · next heq => exact absurd (hhead '-' (heq ▸ rfl)) (by decide)
    · simp only [hscan, habs, Option.bind_eq_bind, Option.bind_some]

end Numbers

section Strings

variable {text rest : List Char} {pieces : List Piece}

/-- What is read for a character that was escaped. -/
def piece (c : Char) : Piece :=
  if 0x20 ≤ c.toNat ∨ c = '\n' ∨ c = '\r' ∨ c = '\t' then .char c else .unit c.toNat

lemma codeUnit?_hexDigit {n : ℕ} (h : n < 0x20) :
    codeUnit? '0' '0' (hexDigit (n / 16)) (hexDigit (n % 16)) = some n := by
  revert n
  decide

lemma scanBody_quote : scanBody ('\x22' :: rest) = some ([], rest) := by
  rw [scanBody.eq_def]
  rfl

lemma scanBody_plain {c : Char} (hprintable : 0x20 ≤ c.toNat) (hquote : c ≠ '\x22')
    (hbackslash : c ≠ '\x5c') (h : scanBody text = some (pieces, rest)) :
    scanBody (c :: text) = some (.char c :: pieces, rest) := by
  rw [scanBody.eq_def]
  simp [h, hprintable, hquote, hbackslash]

lemma scanBody_escaped {c e : Char} (hknown : escaped? e = some c)
    (h : scanBody text = some (pieces, rest)) :
    scanBody ('\x5c' :: e :: text) = some (.char c :: pieces, rest) := by
  have hne : e ≠ 'u' := by
    rintro rfl
    cases hknown
  rw [scanBody.eq_def]
  simp [h, hknown, hne]

lemma scanBody_unicode {a b c d : Char} {n : ℕ} (hunit : codeUnit? a b c d = some n)
    (h : scanBody text = some (pieces, rest)) :
    scanBody ('\x5c' :: 'u' :: a :: b :: c :: d :: text) = some (.unit n :: pieces, rest) := by
  rw [scanBody.eq_def]
  simp [h, hunit]

lemma scanBody_escape (c : Char) (h : scanBody text = some (pieces, rest)) :
    scanBody (escape c ++ text) = some (piece c :: pieces, rest) := by
  unfold escape
  split_ifs with hquote hn hr ht hprintable
  · obtain rfl | rfl := hquote
    · exact scanBody_escaped rfl h
    · exact scanBody_escaped rfl h
  · exact hn ▸ scanBody_escaped rfl h
  · exact hr ▸ scanBody_escaped rfl h
  · exact ht ▸ scanBody_escaped rfl h
  · obtain ⟨hquote, hbackslash⟩ := not_or.mp hquote
    rw [piece, if_pos (.inl hprintable)]
    exact scanBody_plain hprintable hquote hbackslash h
  · rw [piece, if_neg (by simp [hprintable, hn, hr, ht])]
    exact scanBody_unicode (codeUnit?_hexDigit (not_le.mp hprintable)) h

/-- A code unit that is no half of a character is one character. -/
lemma decode_unit {n : ℕ} (h : n < 0x20) (pieces : List Piece) :
    decode (.unit n :: pieces) = Char.ofNat n :: decode pieces := by
  have hunit : ofUnit n = Char.ofNat n := if_neg (by omega)
  match pieces with
  | [] => rw [decode, decode, hunit]
  | .char c :: pieces => rw [decode, decode, hunit]
  | .unit n' :: pieces =>
      have hnone : surrogates? n n' = none := if_neg (by omega)
      simp only [decode, hnone, hunit]

lemma decode_piece (c : Char) (pieces : List Piece) :
    decode (piece c :: pieces) = c :: decode pieces := by
  unfold piece
  split_ifs with hchar
  · rw [decode]
  · rw [decode_unit (by omega), Char.ofNat_toNat]

lemma scanBody_flatMap_escape (cs : List Char) :
    scanBody (cs.flatMap escape ++ '\x22' :: rest) = some (cs.map piece, rest) := by
  induction cs with
  | nil => exact scanBody_quote
  | cons c cs ih =>
      rw [List.flatMap_cons, List.append_assoc]
      exact scanBody_escape c ih

lemma decode_map_piece (cs : List Char) : decode (cs.map piece) = cs := by
  induction cs with
  | nil => rfl
  | cons c cs ih => rw [List.map_cons, decode_piece, ih]

/-- A string is read back. -/
lemma scanString_flatMap_escape (s : String) :
    scanString (s.toList.flatMap escape ++ '\x22' :: rest) = some (s, rest) := by
  simp [scanString, scanBody_flatMap_escape, decode_map_piece]

/-- A string is what its escaped characters say. -/
theorem unescape_flatMap_escape (s : String) :
    unescape (s.toList.flatMap escape) = some s := by
  rw [unescape, scanString_flatMap_escape]
  rfl

end Strings

section Values

variable {rest : List Char}

lemma skip_cons {c : Char} (h : isBlank c = false) (text : List Char) :
    skip (c :: text) = c :: text := by
  simp [skip, h]

/-- The head of the text of a number is a sign or a digit. -/
lemma head?_toString_int (n : ℤ) :
    ∃ c text, (toString n).toList = c :: text ∧ (c = '-' ∨ c.isDigit = true) := by
  by_cases hneg : n < 0
  · exact ⟨'-', _, toList_toString_of_neg hneg, .inl rfl⟩
  · obtain ⟨c, text, htext⟩ := List.exists_cons_of_ne_nil (digits_toDigits n.natAbs).1
    refine ⟨c, text, by rw [toList_toString_of_nonneg (Int.not_lt.mp hneg), htext], .inr ?_⟩
    exact (digits_toDigits n.natAbs).2 c (htext ▸ List.mem_cons_self ..)

/-- The head of the text of a value is neither white space nor a closing bracket. -/
lemma exists_cons_render (v : Json) :
    ∃ c text, render v = c :: text ∧ isBlank c = false ∧ c ≠ ']' ∧ c ≠ '\x7d' := by
  cases v with
  | null => exact ⟨_, _, by rw [render], by decide⟩
  | bool value => cases value <;> exact ⟨_, _, by rw [render], by decide⟩
  | number m e =>
      obtain ⟨c, text, htext, hc⟩ := head?_toString_int m
      refine ⟨c, _, by rw [render, htext, List.cons_append], ?_⟩
      obtain rfl | hdigit := hc
      · decide
      · refine ⟨?_, ?_, ?_⟩
        · rw [isBlank, decide_eq_false_iff_not]
          rintro (rfl | rfl | rfl | rfl)
          all_goals exact absurd hdigit (by decide)
        · rintro rfl
          exact absurd hdigit (by decide)
        · rintro rfl
          exact absurd hdigit (by decide)
  | string text => exact ⟨_, _, by rw [render, quote, List.cons_append], by decide⟩
  | array items => exact ⟨_, _, by rw [render], by decide⟩
  | object members => exact ⟨_, _, by rw [render], by decide⟩

lemma skip_render (v : Json) (text : List Char) : skip (render v ++ text) = render v ++ text := by
  obtain ⟨c, front, hfront, hblank, -⟩ := exists_cons_render v
  rw [hfront, List.cons_append, skip_cons hblank]

lemma scanValue_number {fuel : ℕ} (m e : ℤ) (hrest : Stops rest) :
    scanValue (fuel + 1) (render (.number m e) ++ rest) = some (.number m e, rest) := by
  obtain ⟨c, text, htext, hc⟩ := head?_toString_int m
  have hscan := scanNumber_render m e hrest
  have hother : ∀ d : Char, ¬(d = '-' ∨ d.isDigit = true) → c ≠ d := by
    rintro d hd rfl
    exact hd hc
  rw [render, htext, List.cons_append, List.cons_append] at hscan ⊢
  rw [scanValue, if_neg (hother _ (by decide)), if_neg (hother _ (by decide)),
    if_neg (hother _ (by decide)), if_neg (hother _ (by decide)), if_neg (hother _ (by decide)),
    if_neg (hother _ (by decide))]
  exact hscan

lemma scanValue_string {fuel : ℕ} (s : String) :
    scanValue (fuel + 1) (render (.string s) ++ rest) = some (.string s, rest) := by
  rw [render, quote, List.cons_append, List.cons_append, scanValue, if_pos rfl]
  simp [scanString_flatMap_escape]

/-- A value that is followed by a structural character. -/
lemma stops_cons {c : Char} (h : c = ',' ∨ c = ']' ∨ c = '\x7d') (text : List Char) :
    Stops (c :: text) := by
  rintro d ⟨⟩
  obtain rfl | rfl | rfl := h <;> decide

lemma renderItems_front (item : Json) (items : List Json) :
    ∃ text, renderItems (item :: items) = render item ++ text := by
  cases items with
  | nil => exact ⟨_, by rw [renderItems]⟩
  | cons next items => exact ⟨_, by rw [renderItems]⟩

lemma renderMembers_front (member : String × Json) (members : List (String × Json)) :
    ∃ text, renderMembers (member :: members) = '\x22' :: text := by
  cases members with
  | nil => exact ⟨_, by rw [renderMembers, quote, List.cons_append, List.cons_append]; rfl⟩
  | cons next members =>
      exact ⟨_, by rw [renderMembers, quote, List.cons_append, List.cons_append]; rfl⟩

lemma skip_renderItems (item : Json) (items : List Json) (text : List Char) :
    skip (renderItems (item :: items) ++ text) = renderItems (item :: items) ++ text := by
  obtain ⟨front, hfront⟩ := renderItems_front item items
  rw [hfront, List.append_assoc, skip_render]

lemma skip_renderMembers (member : String × Json) (members : List (String × Json))
    (text : List Char) :
    skip (renderMembers (member :: members) ++ text) =
      renderMembers (member :: members) ++ text := by
  obtain ⟨front, hfront⟩ := renderMembers_front member members
  rw [hfront, List.cons_append, skip_cons (by decide)]

lemma scanValue_array {fuel : ℕ} {item : Json} {items : List Json}
    (h : scanElements fuel (renderItems (item :: items) ++ rest) = some (item :: items, rest)) :
    scanValue (fuel + 1) (render (.array (item :: items)) ++ rest) =
      some (.array (item :: items), rest) := by
  rw [render, List.cons_append, scanValue, if_neg (by decide), if_pos rfl, skip_renderItems]
  split
  · next heq =>
      obtain ⟨text, htext⟩ := renderItems_front item items
      obtain ⟨c, front, hrender, -, hclose, -⟩ := exists_cons_render item
      rw [htext, hrender] at heq
      exact absurd (List.cons.inj heq).1 hclose
  · rw [h]
    rfl

lemma scanValue_object {fuel : ℕ} {member : String × Json} {members : List (String × Json)}
    (h : scanMembers fuel (renderMembers (member :: members) ++ rest) =
      some (member :: members, rest)) :
    scanValue (fuel + 1) (render (.object (member :: members)) ++ rest) =
      some (.object (member :: members), rest) := by
  rw [render, List.cons_append, scanValue, if_neg (by decide), if_neg (by decide), if_pos rfl,
    skip_renderMembers]
  split
  · next heq =>
      obtain ⟨text, htext⟩ := renderMembers_front member members
      rw [htext] at heq
      exact absurd (List.cons.inj heq).1 (by decide)
  · rw [h]
    rfl

lemma scanElements_last {fuel : ℕ} {item : Json}
    (h : scanValue fuel (render item ++ ']' :: rest) = some (item, ']' :: rest)) :
    scanElements (fuel + 1) (renderItems [item] ++ rest) = some ([item], rest) := by
  have hskip : skip (']' :: rest) = ']' :: rest := skip_cons (by decide) rest
  rw [renderItems, List.append_assoc, List.singleton_append, scanElements, h]
  simp [hskip]

lemma scanElements_cons {fuel : ℕ} {item next : Json} {items : List Json}
    (h : ∀ text, scanValue fuel (render item ++ ',' :: text) = some (item, ',' :: text))
    (hmore : scanElements fuel (renderItems (next :: items) ++ rest) = some (next :: items, rest)) :
    scanElements (fuel + 1) (renderItems (item :: next :: items) ++ rest) =
      some (item :: next :: items, rest) := by
  have hskip : ∀ text, skip (',' :: text) = ',' :: text := skip_cons (by decide)
  rw [renderItems, List.append_assoc, List.cons_append, scanElements, h]
  simp [hskip, skip_renderItems, hmore]

/-- The beginning of a member: its name, and the value after the colon. -/
lemma scanMembers_front {fuel : ℕ} (name : String) {item : Json} {text after : List Char}
    (h : scanValue fuel (render item ++ text) = some (item, after)) :
    scanMembers (fuel + 1) (quote name ++ ':' :: render item ++ text) =
      match skip after with
      | '\x7d' :: rest => some ([(name, item)], rest)
      | ',' :: next => do
          let (members, rest) ← scanMembers fuel (skip next)
          some ((name, item) :: members, rest)
      | _ => none := by
  have hskip : ∀ text, skip (':' :: text) = ':' :: text := skip_cons (by decide)
  rw [quote, List.cons_append, List.cons_append, List.cons_append, scanMembers, List.append_assoc,
    List.append_assoc, List.singleton_append, scanString_flatMap_escape]
  simp only [Option.bind_eq_bind, Option.bind_some, List.cons_append, hskip, skip_render, h]

lemma scanMembers_last {fuel : ℕ} (name : String) {item : Json}
    (h : scanValue fuel (render item ++ '\x7d' :: rest) = some (item, '\x7d' :: rest)) :
    scanMembers (fuel + 1) (renderMembers [(name, item)] ++ rest) =
      some ([(name, item)], rest) := by
  have hskip : skip ('\x7d' :: rest) = '\x7d' :: rest := skip_cons (by decide) rest
  rw [renderMembers, List.append_assoc, List.singleton_append, scanMembers_front name h, hskip]
  rfl

lemma scanMembers_cons {fuel : ℕ} (name : String) {item : Json} {member : String × Json}
    {members : List (String × Json)}
    (h : ∀ text, scanValue fuel (render item ++ ',' :: text) = some (item, ',' :: text))
    (hmore : scanMembers fuel (renderMembers (member :: members) ++ rest) =
      some (member :: members, rest)) :
    scanMembers (fuel + 1) (renderMembers ((name, item) :: member :: members) ++ rest) =
      some ((name, item) :: member :: members, rest) := by
  have hskip : ∀ text, skip (',' :: text) = ',' :: text := skip_cons (by decide)
  rw [renderMembers, List.append_assoc, List.cons_append, scanMembers_front name (h _), hskip]
  simp [skip_renderMembers, hmore]

lemma scanValue_word {fuel : ℕ} {v : Json} (h : v = .null ∨ ∃ value, v = .bool value) :
    scanValue (fuel + 1) (render v ++ rest) = some (v, rest) := by
  obtain rfl | ⟨_ | _, rfl⟩ := h <;> simp [render, scanValue, scanWord]

lemma scanValue_empty {fuel : ℕ} {v : Json} (h : v = .array [] ∨ v = .object []) :
    scanValue (fuel + 1) (render v ++ rest) = some (v, rest) := by
  obtain rfl | rfl := h
  · rw [render, renderItems, List.cons_append, List.singleton_append, scanValue,
      skip_cons (by decide)]
    rfl
  · rw [render, renderMembers, List.cons_append, List.singleton_append, scanValue,
      skip_cons (by decide)]
    rfl

/-- The three functions read back what was written when they count down from `fuel`. -/
structure ReadsBack (fuel : ℕ) : Prop where
  value : ∀ v rest, 2 * (render v).length ≤ fuel → Stops rest →
    scanValue fuel (render v ++ rest) = some (v, rest)
  elements : ∀ items rest, items ≠ [] → 2 * (renderItems items).length + 1 ≤ fuel →
    scanElements fuel (renderItems items ++ rest) = some (items, rest)
  members : ∀ members rest, members ≠ [] → 2 * (renderMembers members).length + 1 ≤ fuel →
    scanMembers fuel (renderMembers members ++ rest) = some (members, rest)

variable {fuel : ℕ}

lemma ReadsBack.scanValue_succ (ih : ReadsBack fuel) {v : Json}
    (hfuel : 2 * (render v).length ≤ fuel + 1) (hrest : Stops rest) :
    scanValue (fuel + 1) (render v ++ rest) = some (v, rest) := by
  cases v with
  | null => exact scanValue_word (.inl rfl)
  | bool value => exact scanValue_word (.inr ⟨value, rfl⟩)
  | number m e => exact scanValue_number m e hrest
  | string s => exact scanValue_string s
  | array items =>
      cases items with
      | nil => exact scanValue_empty (.inl rfl)
      | cons item items =>
          rw [render, List.length_cons] at hfuel
          apply scanValue_array
          apply ih.elements _ _ (List.cons_ne_nil _ _)
          omega
  | object members =>
      cases members with
      | nil => exact scanValue_empty (.inr rfl)
      | cons member members =>
          rw [render, List.length_cons] at hfuel
          apply scanValue_object
          apply ih.members _ _ (List.cons_ne_nil _ _)
          omega

lemma ReadsBack.scanElements_succ (ih : ReadsBack fuel) {items : List Json}
    (hne : items ≠ []) (hfuel : 2 * (renderItems items).length + 1 ≤ fuel + 1) :
    scanElements (fuel + 1) (renderItems items ++ rest) = some (items, rest) := by
  match items with
  | [item] =>
      rw [renderItems, List.length_append] at hfuel
      apply scanElements_last
      exact ih.value item _ (by omega) (stops_cons (by decide) rest)
  | item :: next :: items =>
      rw [renderItems, List.length_append, List.length_cons] at hfuel
      apply scanElements_cons
      · exact fun text => ih.value item _ (by omega) (stops_cons (by decide) text)
      · exact ih.elements _ _ (List.cons_ne_nil _ _) (by omega)

lemma ReadsBack.scanMembers_succ (ih : ReadsBack fuel) {members : List (String × Json)}
    (hne : members ≠ []) (hfuel : 2 * (renderMembers members).length + 1 ≤ fuel + 1) :
    scanMembers (fuel + 1) (renderMembers members ++ rest) = some (members, rest) := by
  match members with
  | [(name, item)] =>
      simp only [renderMembers, List.length_append, List.length_cons] at hfuel
      apply scanMembers_last
      exact ih.value item _ (by omega) (stops_cons (by decide) rest)
  | (name, item) :: member :: members =>
      simp only [renderMembers, List.length_append, List.length_cons] at hfuel
      apply scanMembers_cons
      · exact fun text => ih.value item _ (by omega) (stops_cons (by decide) text)
      · exact ih.members _ _ (List.cons_ne_nil _ _) (by omega)

/-- Again the induction is on the number that they count down from. -/
lemma readsBack (fuel : ℕ) : ReadsBack fuel := by
  induction fuel with
  | zero =>
      refine ⟨fun v rest hfuel => ?_, fun items rest _ hfuel => ?_, fun members rest _ hfuel => ?_⟩
      · obtain ⟨c, text, htext, -⟩ := exists_cons_render v
        rw [htext, List.length_cons] at hfuel
        omega
      · omega
      · omega
  | succ fuel ih =>
      exact ⟨fun v rest => ih.scanValue_succ, fun items rest => ih.scanElements_succ,
        fun members rest => ih.scanMembers_succ⟩

/-- **A value is read back from its text**, also when white space follows. -/
theorem parse_render (v : Json) {blanks : List Char} (hblanks : ∀ c ∈ blanks, isBlank c = true) :
    parse (render v ++ blanks) = some v := by
  have hstops : Stops blanks := by
    intro c hc
    have hblank := hblanks c (List.mem_of_mem_head? hc)
    rw [isBlank, decide_eq_true_eq] at hblank
    obtain rfl | rfl | rfl | rfl := hblank <;> decide
  have hskip : skip blanks = [] := List.dropWhile_eq_nil_iff.mpr hblanks
  have hscan := (readsBack (2 * (render v ++ blanks).length + 1)).value v blanks
    (by rw [List.length_append]; omega) hstops
  rw [parse, skip_render, hscan]
  simp [hskip]

end Values

end Json
