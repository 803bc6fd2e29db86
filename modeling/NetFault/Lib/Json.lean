import Mathlib.Data.Int.Notation
import Mathlib.Data.List.Basic
import Mathlib.Data.Nat.Notation
import Mathlib.Tactic.Lemma

/-!
# JSON texts

Values, the grammar of JSON texts, and one way to write a value as a text.

The relations of the grammar have a text, what its front denotes, and the rest of the text:
`Value text v rest` says that `text` is a text of the value `v`, followed by `rest`.  White space is
allowed where the grammar allows it, which is around the whole text and around the structural
characters.  `Text` is the relation for a complete text.

Numbers are decimal fractions, with an exponent.  The members of an object are kept in the order of
the text and may have the same name; `UniqueKeys` says that they do not.
-/

inductive Json
  | null
  | bool (value : Bool)
  /-- `mantissa * 10 ^ exponent`. -/
  | number (mantissa exponent : ℤ)
  | string (text : String)
  | array (items : List Json)
  | object (members : List (String × Json))
  deriving Repr

namespace Json

/-- A whole number. -/
def int (n : ℤ) : Json := .number n 0

/-- The value of the first member with this name. -/
def member? (name : String) : Json → Option Json
  | .object members => members.lookup name
  | _ => none

/-- No object has two members of one name, at any depth. -/
inductive UniqueKeys : Json → Prop
  | null : UniqueKeys .null
  | bool (value : Bool) : UniqueKeys (.bool value)
  | number (mantissa exponent : ℤ) : UniqueKeys (.number mantissa exponent)
  | string (text : String) : UniqueKeys (.string text)
  | array {items : List Json} (unique : ∀ item ∈ items, UniqueKeys item) :
      UniqueKeys (.array items)
  | object {members : List (String × Json)} (names : (members.map Prod.fst).Nodup)
      (unique : ∀ member ∈ members, UniqueKeys member.2) : UniqueKeys (.object members)

/-! ## Strings -/

/-- A part of the text of a string: a character, or a code unit in hexadecimal. -/
inductive Piece
  | char (c : Char)
  | unit (n : ℕ)
  deriving DecidableEq, Repr

/-- What a backslash makes of the character after it, other than `u`. -/
def escaped? : Char → Option Char
  | '\x22' => some '\x22'
  | '\x5c' => some '\x5c'
  | '/' => some '/'
  | 'b' => some '\x08'
  | 'f' => some '\x0c'
  | 'n' => some '\n'
  | 'r' => some '\r'
  | 't' => some '\t'
  | _ => none

def hexDigit? (c : Char) : Option ℕ :=
  if '0' ≤ c ∧ c ≤ '9' then some (c.toNat - '0'.toNat)
  else if 'a' ≤ c ∧ c ≤ 'f' then some (c.toNat - 'a'.toNat + 10)
  else if 'A' ≤ c ∧ c ≤ 'F' then some (c.toNat - 'A'.toNat + 10)
  else none

/-- The code unit of four hexadecimal digits. -/
def codeUnit? (a b c d : Char) : Option ℕ := do
  some ((((← hexDigit? a) * 16 + (← hexDigit? b)) * 16 + (← hexDigit? c)) * 16 + (← hexDigit? d))

/-- Two code units that are the halves of one character. -/
def surrogates? (high low : ℕ) : Option Char :=
  if 0xD800 ≤ high ∧ high < 0xDC00 ∧ 0xDC00 ≤ low ∧ low < 0xE000 then
    some (Char.ofNat (0x10000 + (high - 0xD800) * 0x400 + (low - 0xDC00)))
  else none

/-- The character of a code unit on its own; half a character is replaced. -/
def ofUnit (n : ℕ) : Char := if 0xD800 ≤ n ∧ n < 0xE000 then '\uFFFD' else Char.ofNat n

def decode : List Piece → List Char
  | [] => []
  | .char c :: pieces => c :: decode pieces
  | .unit n :: [] => [ofUnit n]
  | .unit n :: .char c :: pieces => ofUnit n :: c :: decode pieces
  | .unit n :: .unit n' :: pieces =>
      match surrogates? n n' with
      | some c => c :: decode pieces
      | none => ofUnit n :: decode (.unit n' :: pieces)

/-- The text of a string, from the opening quotation mark on, which is not part of it. -/
inductive Body : List Char → List Piece → List Char → Prop
  | close {rest : List Char} : Body ('\x22' :: rest) [] rest
  | plain {c : Char} {text : List Char} {pieces : List Piece} {rest : List Char}
      (printable : 0x20 ≤ c.toNat) (quote : c ≠ '\x22') (backslash : c ≠ '\x5c')
      (body : Body text pieces rest) : Body (c :: text) (.char c :: pieces) rest
  | escape {c e : Char} {text : List Char} {pieces : List Piece} {rest : List Char}
      (known : escaped? e = some c) (body : Body text pieces rest) :
      Body ('\x5c' :: e :: text) (.char c :: pieces) rest
  | unicode {a b c d : Char} {n : ℕ} {text : List Char} {pieces : List Piece} {rest : List Char}
      (unit : codeUnit? a b c d = some n) (body : Body text pieces rest) :
      Body ('\x5c' :: 'u' :: a :: b :: c :: d :: text) (.unit n :: pieces) rest

/-! ## Numbers -/

/-- One digit or more. -/
def Digits (text : List Char) : Prop := text ≠ [] ∧ ∀ c ∈ text, c.isDigit = true

/-- The integer part of a number, which has no superfluous zero in front. -/
def IntPart (text : List Char) : Prop := Digits text ∧ (text.head? = some '0' → text = ['0'])

/-- The fractional part of a number, and its digits. -/
inductive FracPart : List Char → List Char → Prop
  | none : FracPart [] []
  | some {digits : List Char} (h : Digits digits) : FracPart ('.' :: digits) digits

/-- The exponent of a number, and its value. -/
inductive ExpPart : List Char → ℤ → Prop
  | none : ExpPart [] 0
  | unsigned {mark : Char} {digits : List Char} (hmark : mark = 'e' ∨ mark = 'E')
      (h : Digits digits) : ExpPart (mark :: digits) (Nat.ofDigitChars 10 digits 0)
  | plus {mark : Char} {digits : List Char} (hmark : mark = 'e' ∨ mark = 'E')
      (h : Digits digits) : ExpPart (mark :: '+' :: digits) (Nat.ofDigitChars 10 digits 0)
  | minus {mark : Char} {digits : List Char} (hmark : mark = 'e' ∨ mark = 'E')
      (h : Digits digits) : ExpPart (mark :: '-' :: digits) (-Nat.ofDigitChars 10 digits 0)

/-- A number without its sign: the digits before and after the point are those of the mantissa. -/
inductive Magnitude : List Char → ℕ → ℤ → Prop
  | parts {int frac digits exp : List Char} {e : ℤ} (hint : IntPart int)
      (hfrac : FracPart frac digits) (hexp : ExpPart exp e) :
      Magnitude (int ++ frac ++ exp) (Nat.ofDigitChars 10 (int ++ digits) 0) (e - digits.length)

inductive Number : List Char → ℤ → ℤ → Prop
  | positive {text : List Char} {m : ℕ} {e : ℤ} (h : Magnitude text m e) : Number text m e
  | negative {text : List Char} {m : ℕ} {e : ℤ} (h : Magnitude text m e) :
      Number ('-' :: text) (-m) e

/-! ## Values -/

def isBlank (c : Char) : Bool := c = ' ' ∨ c = '\t' ∨ c = '\n' ∨ c = '\r'

/-- White space, if any, in front of the rest. -/
def Gap (text rest : List Char) : Prop :=
  ∃ blanks, (∀ c ∈ blanks, isBlank c = true) ∧ text = blanks ++ rest

mutual

/-- A value in front of the rest. -/
inductive Value : List Char → Json → List Char → Prop
  | null {rest : List Char} : Value ('n' :: 'u' :: 'l' :: 'l' :: rest) .null rest
  | true {rest : List Char} : Value ('t' :: 'r' :: 'u' :: 'e' :: rest) (.bool Bool.true) rest
  | false {rest : List Char} :
      Value ('f' :: 'a' :: 'l' :: 's' :: 'e' :: rest) (.bool Bool.false) rest
  | number {text rest : List Char} {m e : ℤ} (h : Number text m e) :
      Value (text ++ rest) (.number m e) rest
  | string {text rest : List Char} {pieces : List Piece} (h : Body text pieces rest) :
      Value ('\x22' :: text) (.string (String.ofList (decode pieces))) rest
  | emptyArray {text rest : List Char} (h : Gap text (']' :: rest)) :
      Value ('[' :: text) (.array []) rest
  | array {text front rest : List Char} {items : List Json} (gap : Gap text front)
      (h : Elements front items rest) : Value ('[' :: text) (.array items) rest
  | emptyObject {text rest : List Char} (h : Gap text ('\x7d' :: rest)) :
      Value ('\x7b' :: text) (.object []) rest
  | object {text front rest : List Char} {members : List (String × Json)} (gap : Gap text front)
      (h : Members front members rest) : Value ('\x7b' :: text) (.object members) rest

/-- The items of an array, from the first one up to the closing bracket. -/
inductive Elements : List Char → List Json → List Char → Prop
  | last {text middle rest : List Char} {item : Json} (h : Value text item middle)
      (close : Gap middle (']' :: rest)) : Elements text [item] rest
  | cons {text middle next front rest : List Char} {item : Json} {items : List Json}
      (h : Value text item middle) (comma : Gap middle (',' :: next)) (gap : Gap next front)
      (more : Elements front items rest) : Elements text (item :: items) rest

/-- The members of an object, from the first one up to the closing brace. -/
inductive Members : List Char → List (String × Json) → List Char → Prop
  | last {text named after front middle rest : List Char} {pieces : List Piece} {item : Json}
      (name : Body text pieces named) (colon : Gap named (':' :: after)) (gap : Gap after front)
      (h : Value front item middle) (close : Gap middle ('\x7d' :: rest)) :
      Members ('\x22' :: text) [(String.ofList (decode pieces), item)] rest
  | cons {text named after front middle next start rest : List Char} {pieces : List Piece}
      {item : Json} {members : List (String × Json)}
      (name : Body text pieces named) (colon : Gap named (':' :: after)) (gap : Gap after front)
      (h : Value front item middle) (comma : Gap middle (',' :: next)) (gap' : Gap next start)
      (more : Members start members rest) :
      Members ('\x22' :: text) ((String.ofList (decode pieces), item) :: members) rest

end

/-- A complete JSON text. -/
def Text (text : List Char) (v : Json) : Prop :=
  ∃ front rest, Gap text front ∧ Value front v rest ∧ Gap rest []

/-! ## Writing a value -/

def hexDigit (n : ℕ) : Char := Char.ofNat (if n < 10 then n + '0'.toNat else n - 10 + 'a'.toNat)

/-- What is written for a character of a string. -/
def escape (c : Char) : List Char :=
  if c = '\x22' ∨ c = '\x5c' then ['\x5c', c]
  else if c = '\n' then ['\x5c', 'n']
  else if c = '\r' then ['\x5c', 'r']
  else if c = '\t' then ['\x5c', 't']
  else if 0x20 ≤ c.toNat then [c]
  else ['\x5c', 'u', '0', '0', hexDigit (c.toNat / 16), hexDigit (c.toNat % 16)]

/-- A string between its quotation marks. -/
def quote (text : String) : List Char := '\x22' :: text.toList.flatMap escape ++ ['\x22']

/-- The string has no character to escape. -/
def Plain (text : String) : Prop := ∀ c ∈ text.toList, escape c = [c]

instance (text : String) : Decidable (Plain text) :=
  List.decidableBAll (fun c => escape c = [c]) text.toList

mutual

/-- The text of a value, without white space. -/
def render : Json → List Char
  | .null => ['n', 'u', 'l', 'l']
  | .bool true => ['t', 'r', 'u', 'e']
  | .bool false => ['f', 'a', 'l', 's', 'e']
  | .number m e => (toString m).toList ++ if e = 0 then [] else 'e' :: (toString e).toList
  | .string text => quote text
  | .array items => '[' :: renderItems items
  | .object members => '\x7b' :: renderMembers members

/-- The items of an array and its closing bracket. -/
def renderItems : List Json → List Char
  | [] => [']']
  | [item] => render item ++ [']']
  | item :: next :: items => render item ++ ',' :: renderItems (next :: items)

/-- The members of an object and its closing brace. -/
def renderMembers : List (String × Json) → List Char
  | [] => ['\x7d']
  | [(name, item)] => quote name ++ ':' :: render item ++ ['\x7d']
  | (name, item) :: next :: members =>
      quote name ++ ':' :: render item ++ ',' :: renderMembers (next :: members)

end

/-- The items after the first one have a comma in front. -/
lemma renderItems_cons (item : Json) (items : List Json) : renderItems (item :: items) =
    render item ++ items.flatMap (fun item => ',' :: render item) ++ [']'] := by
  induction items generalizing item with
  | nil => rw [renderItems, List.flatMap_nil, List.append_nil]
  | cons next items ih =>
      rw [renderItems, ih, List.flatMap_cons]
      simp only [List.append_assoc, List.cons_append]

/-- A name and its value. -/
def renderMember (member : String × Json) : List Char :=
  quote member.1 ++ ':' :: render member.2

lemma renderMembers_cons (member : String × Json) (members : List (String × Json)) :
    renderMembers (member :: members) =
      renderMember member ++ members.flatMap (fun member => ',' :: renderMember member) ++
        ['\x7d'] := by
  induction members generalizing member with
  | nil => rw [renderMembers, List.flatMap_nil, List.append_nil, renderMember]
  | cons next members ih =>
      obtain ⟨name, item⟩ := member
      rw [renderMembers, ih, List.flatMap_cons]
      simp only [renderMember, List.append_assoc, List.cons_append]

lemma render_int (n : ℤ) : render (.int n) = (toString n).toList := by
  rw [int, render, if_pos rfl, List.append_nil]

lemma render_natCast (n : ℕ) : render (.int n) = (toString n).toList := render_int n

lemma escape_of_printable {c : Char} (hprintable : 0x20 ≤ c.toNat) (hquote : c ≠ '\x22')
    (hbackslash : c ≠ '\x5c') : escape c = [c] := by
  have hne : ∀ control : Char, control.toNat < 0x20 → c ≠ control := by
    rintro control hcontrol rfl
    omega
  rw [escape, if_neg (not_or.mpr ⟨hquote, hbackslash⟩), if_neg (hne _ (by decide)),
    if_neg (hne _ (by decide)), if_neg (hne _ (by decide)), if_pos hprintable]

lemma quote_of_plain {text : String} (h : Plain text) :
    quote text = '\x22' :: text.toList ++ ['\x22'] := by
  have hflat : text.toList.flatMap escape = text.toList := by
    rw [List.flatMap_congr h, List.flatMap_singleton']
  rw [quote, hflat]

end Json
