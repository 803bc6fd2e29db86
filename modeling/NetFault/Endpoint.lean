import NetFault.Basic
import Mathlib.Data.List.TakeWhile

/-!
# Numeric IPv4 endpoints

An endpoint is written `HOST:PORT`.  `inetPton` is the C library's `inet_pton(AF_INET)`: four
decimal octets between dots, each at most 255 and without superfluous leading zeros; `fromChars`
is `std::from_chars` for an `unsigned int`.  A text is a sequence of characters, one for each byte
of the source's strings; a C string ends at its first NUL.

`Endpoint.parse_iff` shows that the checks of `parse`, one after the other, accept exactly the
texts of that form, and from it follow the round trip and what `is_loopback` says of a parsed
endpoint.
-/

namespace NetFault

structure Endpoint where
  host : String
  port : UInt16
  deriving DecidableEq, Repr

/-- The value of a string of decimal digits. -/
def decimalValue (digits : List Char) : ℕ :=
  digits.foldl (fun value digit => 10 * value + (digit.toNat - '0'.toNat)) 0

/-- One octet of a dotted address. -/
def parseOctet (text : List Char) : Option ℕ :=
  if text ≠ [] ∧ text.all Char.isDigit ∧ (text.head? = some '0' → text.length = 1) ∧
      text.length ≤ 3 ∧ decimalValue text ≤ 255 then
    some (decimalValue text)
  else
    none

/-- The characters of a string that its `c_str` shows. -/
def cStr (text : String) : List Char := text.toList.takeWhile (· ≠ '\x00')

/-- The address as a 32-bit number in host order. -/
def inetPton (host : String) : Option UInt32 := do
  match ← ((cStr host).splitOn '.').mapM parseOctet with
  | [a, b, c, d] => some (UInt32.ofNat (((a * 256 + b) * 256 + c) * 256 + d))
  | _ => none

/-- `is_loopback`; `none` is the exception of `to_sockaddr` for an invalid address. -/
def Endpoint.isLoopback (endpoint : Endpoint) : Option Bool :=
  (inetPton endpoint.host).map fun hostOrder => hostOrder &&& 0xFF000000 == 0x7F000000

/-! ## Parsing -/

/-- `std::string_view::rfind`: the last place of a character. -/
def rfind (c : Char) : List Char → Option ℕ
  | [] => none
  | first :: rest =>
      match rfind c rest with
      | some place => some (place + 1)
      | none => if first = c then some 0 else none

/-- The `std::errc` of `from_chars`. -/
inductive FromCharsError
  | none
  | invalidArgument
  | resultOutOfRange
  deriving DecidableEq, Repr

/-- What `from_chars` finds: the value, which is not touched when there is an error, the characters
from the returned pointer on, and the error. -/
structure FromCharsResult where
  value : ℕ := 0
  rest : List Char
  error : FromCharsError
  deriving DecidableEq, Repr

/-- `std::from_chars` for an `unsigned int`: the longest run of digits, without a sign. -/
def fromChars (text : List Char) : FromCharsResult :=
  let digits := text.takeWhile Char.isDigit
  if digits = [] then
    { rest := text, error := .invalidArgument }
  else if decimalValue digits ≥ 2 ^ 32 then
    { rest := text.dropWhile Char.isDigit, error := .resultOutOfRange }
  else
    { value := decimalValue digits, rest := text.dropWhile Char.isDigit, error := .none }

/-- `Endpoint::parse`; the error is the text of the exception. -/
def Endpoint.parse (text : String) : Except String Endpoint :=
  let chars := text.toList
  match rfind ':' chars with
  | none => .error "endpoint must use numeric IPv4 HOST:PORT syntax"
  | some separator =>
      if separator = 0 ∨ separator + 1 ≥ chars.length then
        .error "endpoint must use numeric IPv4 HOST:PORT syntax"
      else
        let host := String.ofList (chars.take separator)
        let parsedPort := fromChars (chars.drop (separator + 1))
        if parsedPort.error ≠ .none ∨ parsedPort.rest ≠ [] ∨ parsedPort.value = 0 ∨
            parsedPort.value > 65535 then
          .error "endpoint port must be an integer from 1 to 65535"
        else
          match inetPton host with
          | none => .error "endpoint host must be a numeric IPv4 address"
          | some _ => .ok { host, port := UInt16.ofNat parsedPort.value }

def Endpoint.toString (endpoint : Endpoint) : String :=
  endpoint.host ++ ":" ++ ToString.toString endpoint.port.toNat

/-! ## Decimal texts -/

lemma decimalValue_eq (digits : List Char) : decimalValue digits = Nat.ofDigitChars 10 digits 0 :=
  Nat.ofDigitChars_eq_foldl.symm

@[simp] lemma decimalValue_toDigits (n : ℕ) : decimalValue (Nat.toDigits 10 n) = n := by
  rw [decimalValue_eq, Nat.ofDigitChars_ten_toDigits]

lemma decimalValue_append_singleton (digits : List Char) (digit : Char) :
    decimalValue (digits ++ [digit]) = 10 * decimalValue digits + (digit.toNat - '0'.toNat) := by
  rw [decimalValue, List.foldl_append]
  rfl

/-- A digit is the text of its value. -/
lemma toDigits_digit {digit : Char} (h : digit.isDigit = true) :
    Nat.toDigits 10 (digit.toNat - '0'.toNat) = [digit] ∧ digit.toNat - '0'.toNat < 10 := by
  obtain ⟨hlow, hhigh⟩ : 48 ≤ digit.toNat ∧ digit.toNat ≤ 57 := Char.isDigit_iff_toNat.mp h
  have hlt : digit.toNat - 48 < 10 := by omega
  refine ⟨?_, hlt⟩
  have hchar : (digit.toNat - 48).digitChar = digit := by
    apply Char.toNat_inj.mp
    rw [Nat.toNat_digitChar_of_lt_ten hlt]
    omega
  show Nat.toDigits 10 (digit.toNat - 48) = [digit]
  rw [Nat.toDigits_of_lt_base hlt, hchar]

/-- **Digits without a superfluous zero** in front are the decimal text of their value.  The
induction takes the last digit off. -/
lemma toDigits_decimalValue {text : List Char} (hne : text ≠ [])
    (hdigits : ∀ c ∈ text, c.isDigit = true) (hzero : text.head? = some '0' → text.length = 1) :
    Nat.toDigits 10 (decimalValue text) = text := by
  induction text using List.reverseRecOn with
  | nil => exact absurd rfl hne
  | append_singleton front digit ih =>
      obtain ⟨hdigit, hlt⟩ := toDigits_digit (hdigits digit (by simp))
      rw [decimalValue_append_singleton]
      by_cases hfront : front = []
      · subst hfront
        simpa [decimalValue] using hdigit
      · have hhead : front.head? ≠ some '0' := by
          intro hhead
          have hlength := hzero (by simp [List.head?_append, hhead])
          have hpos := List.length_pos_iff.mpr hfront
          rw [List.length_append, List.length_singleton] at hlength
          omega
        have hvalue := ih hfront (fun c hc => hdigits c (by simp [hc]))
          fun hzero => absurd hzero hhead
        have hpos : 0 < decimalValue front := by
          rw [Nat.pos_iff_ne_zero]
          intro hnull
          rw [hnull, Nat.toDigits_zero] at hvalue
          exact hhead (by rw [← hvalue]; rfl)
        rw [← Nat.toDigits_append_toDigits (by decide) hpos hlt, hvalue, hdigit]

/-! ## Addresses -/

/-- The text of an address. -/
def dotted (a b c d : ℕ) : String :=
  ToString.toString a ++ "." ++ ToString.toString b ++ "." ++ ToString.toString c ++ "." ++
    ToString.toString d

/-- The octets of an address. -/
def Octets (a b c d : ℕ) : Prop := a ≤ 255 ∧ b ≤ 255 ∧ c ≤ 255 ∧ d ≤ 255

lemma parseOctet_iff {text : List Char} {value : ℕ} :
    parseOctet text = some value ↔ value ≤ 255 ∧ text = Nat.toDigits 10 value := by
  constructor
  · intro h
    rw [parseOctet] at h
    split_ifs at h with hchecks
    obtain rfl := Option.some.inj h
    obtain ⟨hne, hdigits, hzero, -, hbound⟩ := hchecks
    exact ⟨hbound, (toDigits_decimalValue hne (List.all_eq_true.mp hdigits) hzero).symm⟩
  · rintro ⟨hbound, rfl⟩
    have hall : ∀ value < 256, parseOctet (Nat.toDigits 10 value) = some value := by
      decide +kernel
    exact hall value (by omega)

lemma toList_dotted (a b c d : ℕ) : (dotted a b c d).toList =
    Nat.toDigits 10 a ++ '.' :: (Nat.toDigits 10 b ++ '.' :: (Nat.toDigits 10 c ++ '.' ::
      Nat.toDigits 10 d)) := by
  simp [dotted]

lemma not_mem_toDigits {c : Char} (h : c.isDigit = false) (n : ℕ) : c ∉ Nat.toDigits 10 n := by
  intro hmem
  rw [Nat.isDigit_of_mem_toDigits (by decide) (by decide) hmem] at h
  cases h

lemma splitOn_dotted (a b c d : ℕ) : (dotted a b c d).toList.splitOn '.' =
    [Nat.toDigits 10 a, Nat.toDigits 10 b, Nat.toDigits 10 c, Nat.toDigits 10 d] := by
  have hdot := not_mem_toDigits (c := '.') (by decide)
  rw [toList_dotted, List.splitOn_append_cons_self_of_not_mem (hdot a),
    List.splitOn_append_cons_self_of_not_mem (hdot b),
    List.splitOn_append_cons_self_of_not_mem (hdot c), List.splitOn_eq_singleton (hdot d)]

lemma cStr_of_not_mem {text : String} (h : '\x00' ∉ text.toList) : cStr text = text.toList := by
  rw [cStr, List.takeWhile_eq_self_iff]
  intro c hc
  simpa using fun heq : c = '\x00' => h (heq ▸ hc)

lemma not_nul_mem_dotted (a b c d : ℕ) : '\x00' ∉ (dotted a b c d).toList := by
  have hnul := not_mem_toDigits (c := '\x00') (by decide)
  simp [toList_dotted, hnul]

/-- The parts that are octets are the texts of their values. -/
lemma of_mapM_parseOctet {parts : List (List Char)} {octets : List ℕ}
    (h : parts.mapM parseOctet = some octets) :
    (∀ value ∈ octets, value ≤ 255) ∧ parts = octets.map (Nat.toDigits 10) := by
  induction parts generalizing octets with
  | nil =>
      obtain rfl : octets = [] := by simpa using h.symm
      exact ⟨by simp, rfl⟩
  | cons part parts ih =>
      rw [List.mapM_cons] at h
      obtain ⟨value, hvalue, h⟩ := Option.bind_eq_some_iff.mp h
      obtain ⟨values, hvalues, h⟩ := Option.bind_eq_some_iff.mp h
      obtain rfl : value :: values = octets := Option.some.inj h
      obtain ⟨hbound, rfl⟩ := parseOctet_iff.mp hvalue
      obtain ⟨hbounds, rfl⟩ := ih hvalues
      exact ⟨by simpa [hbound] using hbounds, rfl⟩

/-- **`inet_pton`** accepts the texts of addresses. -/
lemma inetPton_iff {host : String} (hnul : '\x00' ∉ host.toList) {address : UInt32} :
    inetPton host = some address ↔ ∃ a b c d, Octets a b c d ∧ host = dotted a b c d ∧
      address = UInt32.ofNat (((a * 256 + b) * 256 + c) * 256 + d) := by
  rw [inetPton, cStr_of_not_mem hnul]
  constructor
  · intro h
    obtain ⟨octets, hoctets, h⟩ := Option.bind_eq_some_iff.mp h
    split at h
    · next a b c d =>
        obtain ⟨hbounds, hparts⟩ := of_mapM_parseOctet hoctets
        refine ⟨a, b, c, d, by simpa [Octets] using hbounds, String.toList_inj.mp ?_,
          (Option.some.inj h).symm⟩
        calc host.toList
            = ['.'].intercalate (host.toList.splitOn '.') := (List.intercalate_splitOn '.').symm
          _ = (dotted a b c d).toList := by
              rw [hparts, toList_dotted]
              simp [List.intercalate]
    · cases h
  · rintro ⟨a, b, c, d, ⟨ha, hb, hc, hd⟩, rfl, rfl⟩
    have hoctet : ∀ value ≤ 255, parseOctet (Nat.toDigits 10 value) = some value :=
      fun value hvalue => parseOctet_iff.mpr ⟨hvalue, rfl⟩
    rw [splitOn_dotted]
    simp [hoctet _ ha, hoctet _ hb, hoctet _ hc, hoctet _ hd]

/-! ## The checks of `parse` -/

lemma rfind_eq_none_iff {c : Char} {text : List Char} : rfind c text = none ↔ c ∉ text := by
  induction text with
  | nil => simp [rfind]
  | cons first rest ih =>
      rw [rfind]
      rcases hrest : rfind c rest with _ | place
      · have hnot := ih.mp hrest
        simp [hnot, eq_comm]
      · have hmem : c ∈ rest := by
          by_contra hnot
          rw [ih.mpr hnot] at hrest
          cases hrest
        simp [hmem]

lemma rfind_append_cons {c : Char} {front back : List Char} (h : c ∉ back) :
    rfind c (front ++ c :: back) = some front.length := by
  induction front with
  | nil => simp [rfind, rfind_eq_none_iff.mpr h]
  | cons first rest ih => simp [rfind, ih]

/-- The last separator splits a text. -/
lemma rfind_eq_some {c : Char} {text : List Char} {place : ℕ} (h : rfind c text = some place) :
    ∃ front back, text = front ++ c :: back ∧ c ∉ back ∧ place = front.length := by
  induction text generalizing place with
  | nil => cases h
  | cons first rest ih =>
      rw [rfind] at h
      rcases hrest : rfind c rest with _ | place'
      · rw [hrest] at h
        simp only [Option.ite_none_right_eq_some] at h
        obtain ⟨rfl, hplace⟩ := h
        exact ⟨[], rest, rfl, rfind_eq_none_iff.mp hrest, (Option.some.inj hplace).symm⟩
      · rw [hrest] at h
        obtain ⟨front, back, rfl, hback, rfl⟩ := ih hrest
        exact ⟨first :: front, back, rfl, hback, (Option.some.inj h).symm⟩

/-- The texts of a port. -/
def IsPort (port : String) : Prop :=
  port ≠ "" ∧ (∀ c ∈ port.toList, c.isDigit = true) ∧ 1 ≤ decimalValue port.toList ∧
    decimalValue port.toList ≤ 65535

/-- The texts of an address. -/
def IsAddress (host : String) : Prop := ∃ a b c d, Octets a b c d ∧ host = dotted a b c d

lemma fromChars_of_digits {text : List Char} (hne : text ≠ [])
    (hdigits : ∀ c ∈ text, c.isDigit = true) (hbound : decimalValue text < 2 ^ 32) :
    fromChars text = { value := decimalValue text, rest := [], error := .none } := by
  have htake := List.takeWhile_eq_self_iff.mpr hdigits
  have hdrop := List.dropWhile_eq_nil_iff.mpr hdigits
  rw [fromChars, htake, hdrop, if_neg hne, if_neg (by omega)]

/-- **The check of the port.** -/
lemma fromChars_accepts_iff {port : String} :
    ¬((fromChars port.toList).error ≠ .none ∨ (fromChars port.toList).rest ≠ [] ∨
      (fromChars port.toList).value = 0 ∨ (fromChars port.toList).value > 65535) ↔ IsPort port := by
  constructor
  · intro h
    simp only [not_or, not_not] at h
    obtain ⟨herror, hrest, hzero, hbound⟩ := h
    simp only [fromChars] at herror hrest hzero hbound
    split_ifs at herror hrest hzero hbound with hnone hrange
    have hdigits := List.dropWhile_eq_nil_iff.mp hrest
    rw [List.takeWhile_eq_self_iff.mpr hdigits] at hnone hzero hbound
    exact ⟨by simpa using hnone, hdigits, Nat.one_le_iff_ne_zero.mpr hzero, not_lt.mp hbound⟩
  · rintro ⟨hne, hdigits, hpos, hbound⟩
    rw [fromChars_of_digits (by simpa using hne) hdigits (by omega)]
    simp
    omega

/-- `parse` of a text whose last colon is known. -/
lemma Endpoint.parse_append (host : String) {port : String} (hcolon : ':' ∉ port.toList) :
    parse (host ++ ":" ++ port) =
      if host = "" ∨ port = "" then .error "endpoint must use numeric IPv4 HOST:PORT syntax"
      else if (fromChars port.toList).error ≠ .none ∨ (fromChars port.toList).rest ≠ [] ∨
          (fromChars port.toList).value = 0 ∨ (fromChars port.toList).value > 65535 then
        .error "endpoint port must be an integer from 1 to 65535"
      else
        match inetPton host with
        | none => .error "endpoint host must be a numeric IPv4 address"
        | some _ => .ok { host, port := UInt16.ofNat (fromChars port.toList).value } := by
  have htext : (host ++ ":" ++ port).toList = host.toList ++ ':' :: port.toList := by simp
  have hdrop : (host.toList ++ ':' :: port.toList).drop (host.toList.length + 1) =
      port.toList := by
    simp
  have hempty : host.toList.length = 0 ∨
      host.toList.length + 1 ≥ (host.toList ++ ':' :: port.toList).length ↔
        host = "" ∨ port = "" := by
    simp
  simp only [parse, htext, rfind_append_cons hcolon, hdrop, List.take_left, String.ofList_toList,
    if_congr hempty rfl rfl]

lemma Endpoint.parse_of_no_colon {text : String} (h : ':' ∉ text.toList) :
    parse text = .error "endpoint must use numeric IPv4 HOST:PORT syntax" := by
  rw [parse, rfind_eq_none_iff.mpr h]

lemma IsPort.not_colon {port : String} (h : IsPort port) : ':' ∉ port.toList := by
  intro hmem
  cases h.2.1 ':' hmem

lemma fromChars_of_isPort {port : String} (h : IsPort port) :
    (fromChars port.toList).value = decimalValue port.toList := by
  rw [fromChars_of_digits (by simpa using h.1) h.2.1 (by have := h.2.2.2; omega)]

/-- **What `parse` accepts**, and what it makes of it.  The port of a text that is accepted has no
colon, so the last one is the separator. -/
lemma Endpoint.parse_iff {text : String} (hnul : '\x00' ∉ text.toList) {endpoint : Endpoint} :
    parse text = .ok endpoint ↔ ∃ host port, text = host ++ ":" ++ port ∧ IsAddress host ∧
      IsPort port ∧ endpoint = ⟨host, UInt16.ofNat (decimalValue port.toList)⟩ := by
  constructor
  · intro h
    by_cases hcolon : ':' ∈ text.toList
    swap
    · rw [parse_of_no_colon hcolon] at h
      cases h
    obtain ⟨separator, hseparator⟩ := Option.ne_none_iff_exists'.mp
      fun hnone => rfind_eq_none_iff.mp hnone hcolon
    obtain ⟨front, back, htext, hback, -⟩ := rfind_eq_some hseparator
    obtain ⟨host, rfl⟩ : ∃ host, text = host ++ ":" ++ String.ofList back :=
      ⟨String.ofList front, String.toList_inj.mp (by simpa using htext)⟩
    rw [parse_append host (by simpa using hback)] at h
    split_ifs at h with hsyntax hrejected
    split at h
    · cases h
    next address haddress =>
    have hport := fromChars_accepts_iff.mp hrejected
    have hhost : '\x00' ∉ host.toList := fun hmem => hnul (by simp [hmem])
    obtain ⟨a, b, c, d, hoctets, hdotted, -⟩ := (inetPton_iff hhost).mp haddress
    refine ⟨host, _, rfl, ⟨a, b, c, d, hoctets, hdotted⟩, hport, ?_⟩
    rw [← fromChars_of_isPort hport]
    exact (Except.ok.inj h).symm
  · rintro ⟨host, port, rfl, ⟨a, b, c, d, hoctets, rfl⟩, hport, rfl⟩
    have haddress := (inetPton_iff (not_nul_mem_dotted a b c d)).mpr
      ⟨a, b, c, d, hoctets, rfl, rfl⟩
    have hhost : dotted a b c d ≠ "" := by
      intro hempty
      have htext := congrArg String.toList hempty
      simp [toList_dotted] at htext
    rw [parse_append _ hport.not_colon, if_neg (not_or.mpr ⟨hhost, hport.1⟩),
      if_neg (fromChars_accepts_iff.mpr hport), haddress, fromChars_of_isPort hport]

/-! ## Loopback and the round trip -/

/-- The mask of `is_loopback` looks at the first of four octets. -/
lemma and_mask_eq_iff {x : ℕ} (hx : x < 2 ^ 32) :
    x &&& 0xFF000000 = 0x7F000000 ↔ x / 2 ^ 24 = 127 := by
  have hhigh : (x &&& 0xFF000000) / 2 ^ 24 = x / 2 ^ 24 := by
    rw [← Nat.shiftRight_eq_div_pow, Nat.shiftRight_and_distrib, Nat.shiftRight_eq_div_pow]
    show x / 2 ^ 24 &&& 2 ^ 8 - 1 = x / 2 ^ 24
    rw [Nat.and_two_pow_sub_one_eq_mod, Nat.mod_eq_of_lt (by omega)]
  have hlow : (x &&& 0xFF000000) % 2 ^ 24 = 0 := by
    rw [Nat.and_mod_two_pow]
    simp
  omega

lemma Endpoint.isLoopback_of_dotted {endpoint : Endpoint} {a b c d : ℕ} (hoctets : Octets a b c d)
    (hhost : endpoint.host = dotted a b c d) :
    endpoint.isLoopback = some (decide (a = 127)) := by
  have haddress := (inetPton_iff (not_nul_mem_dotted a b c d)).mpr ⟨a, b, c, d, hoctets, rfl, rfl⟩
  obtain ⟨ha, hb, hc, hd⟩ := hoctets
  rw [isLoopback, hhost, haddress, Option.map_some]
  apply congrArg some
  rw [Bool.eq_iff_iff, beq_iff_eq, decide_eq_true_iff, ← UInt32.toNat_inj, UInt32.toNat_and,
    UInt32.toNat_ofNat', Nat.mod_eq_of_lt (by omega)]
  refine (and_mask_eq_iff (by omega)).trans ?_
  omega

/-- The text of a parsed port is a port again. -/
lemma isPort_toString {n : ℕ} (hpos : 1 ≤ n) (hbound : n ≤ 65535) :
    IsPort (ToString.toString n) ∧ decimalValue (ToString.toString n).toList = n := by
  have htext : (ToString.toString n).toList = Nat.toDigits 10 n := by simp
  refine ⟨⟨?_, ?_, ?_, ?_⟩, by rw [htext, decimalValue_toDigits]⟩
  · intro hempty
    have hnil := congrArg String.toList hempty
    rw [htext] at hnil
    exact Nat.toDigits_ne_nil hnil
  · intro c hc
    rw [htext] at hc
    exact Nat.isDigit_of_mem_toDigits (by decide) (by decide) hc
  · rwa [htext, decimalValue_toDigits]
  · rwa [htext, decimalValue_toDigits]

lemma Endpoint.parse_toString {endpoint : Endpoint} {a b c d : ℕ} (hoctets : Octets a b c d)
    (hhost : endpoint.host = dotted a b c d) (hport : endpoint.port ≠ 0) :
    parse endpoint.toString = .ok endpoint := by
  have hpos : 1 ≤ endpoint.port.toNat := by
    rw [Nat.one_le_iff_ne_zero]
    exact fun hzero => hport (UInt16.toNat_inj.mp hzero)
  obtain ⟨hisPort, hvalue⟩ := isPort_toString hpos (by have := endpoint.port.toNat_lt; omega)
  have hnul : '\x00' ∉ endpoint.toString.toList := by
    have hdotted := not_nul_mem_dotted a b c d
    have hdigits := not_mem_toDigits (c := '\x00') (by decide) endpoint.port.toNat
    simp [toString, hhost, hdotted, hdigits]
  refine (parse_iff hnul).mpr ⟨endpoint.host, _, rfl, ⟨a, b, c, d, hoctets, hhost⟩, hisPort, ?_⟩
  rw [hvalue, UInt16.ofNat_toNat]

/-- **`parse` accepts exactly its grammar and round-trips.**  For every text without a NUL, `parse`
succeeds if and only if the text is an address, a colon and a port: four decimal octets without
superfluous zeros, and any non-empty sequence of digits with a value from 1 to 65535.  The endpoint
it returns has the address of the text as its host and the value of the digits as its port; it is
what `parse` makes of its `to_string`, and it is on the loopback network if and only if the first
octet of the text is 127. -/
theorem Endpoint.parse_grammar (text : String) (hnul : '\x00' ∉ text.toList) :
    ((∃ endpoint, parse text = .ok endpoint) ↔
        ∃ host port, text = host ++ ":" ++ port ∧ IsAddress host ∧ IsPort port) ∧
      ∀ endpoint, parse text = .ok endpoint →
        parse endpoint.toString = .ok endpoint ∧
          ∃ a b c d port, Octets a b c d ∧ IsPort port ∧ text = dotted a b c d ++ ":" ++ port ∧
            endpoint.host = dotted a b c d ∧ endpoint.port.toNat = decimalValue port.toList ∧
            endpoint.isLoopback = some (decide (a = 127)) := by
  refine ⟨?_, fun endpoint h => ?_⟩
  · constructor
    · rintro ⟨endpoint, h⟩
      obtain ⟨host, port, htext, haddress, hport, -⟩ := (parse_iff hnul).mp h
      exact ⟨host, port, htext, haddress, hport⟩
    · rintro ⟨host, port, htext, haddress, hport⟩
      exact ⟨_, (parse_iff hnul).mpr ⟨host, port, htext, haddress, hport, rfl⟩⟩
  · obtain ⟨host, port, htext, ⟨a, b, c, d, hoctets, rfl⟩, hport, rfl⟩ := (parse_iff hnul).mp h
    obtain ⟨hpos, hbound⟩ := hport.2.2
    -- a port below 2^16 is not cut short
    have hvalue : (UInt16.ofNat (decimalValue port.toList)).toNat = decimalValue port.toList := by
      rw [UInt16.toNat_ofNat', Nat.mod_eq_of_lt (by omega)]
    refine ⟨parse_toString hoctets rfl fun hzero => ?_, a, b, c, d, port, hoctets, hport, htext,
      rfl, hvalue, isLoopback_of_dotted hoctets rfl⟩
    have hnone : decimalValue port.toList = 0 := hvalue.symm.trans (congrArg UInt16.toNat hzero)
    omega

/-- A text with a leading zero in the port. -/
theorem Endpoint.parse_grammar_loopback :
    ∃ endpoint, parse "127.20.30.40:08080" = .ok endpoint ∧
      parse endpoint.toString = .ok endpoint ∧ endpoint.isLoopback.isSome = true := by
  obtain ⟨-, hparsed⟩ := Endpoint.parse_grammar "127.20.30.40:08080" (by decide)
  have hparse : parse "127.20.30.40:08080" = .ok ⟨"127.20.30.40", 8080⟩ := by decide +kernel
  obtain ⟨hround, a, b, c, d, port, -, -, -, -, -, hloopback⟩ := hparsed _ hparse
  exact ⟨_, hparse, hround, by rw [hloopback]; rfl⟩

example : Endpoint.parse "127.0.0.1:99999999999" =
    .error "endpoint port must be an integer from 1 to 65535" := by decide +kernel

end NetFault
