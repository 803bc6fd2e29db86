import NetFault.Endpoint
import NetFault.Lib.CommandLine

/-!
# Arguments

What the command lines of the three programs share: the texts of the arguments, the sizes in them,
and the exceptions of the loops that read them.
-/

namespace NetFault

/-- `std::from_chars` for a `std::size_t`: the longest run of digits, without a sign. -/
def fromCharsSize (text : List Char) : FromCharsResult :=
  let digits := text.takeWhile Char.isDigit
  if digits = [] then
    { rest := text, error := .invalidArgument }
  else if decimalValue digits ≥ 2 ^ 64 then
    { rest := text.dropWhile Char.isDigit, error := .resultOutOfRange }
  else
    { value := decimalValue digits, rest := text.dropWhile Char.isDigit, error := .none }

/-- A count of milliseconds in the signed representation of `std::chrono::milliseconds`. -/
def milliseconds (count : ℕ) : ℤ := i64 count

/-- The string that a C string shows. -/
def cString (text : String) : String := String.ofList (cStr text)

/-- The texts of the exceptions of the loop. -/
def argumentError : CommandLine.Error → String
  | .unknown argument => "unknown argument: " ++ argument
  | .missing argument => argument ++ " requires a value"
  | .rejected message => message

/-! ## Options that were given or not -/

/-- The value of an option: what is read from the text that it was given, or the default. -/
def readOr {α : Type} (read : String → Except String α) (default : α) : Option String → α
  | none => default
  | some text => (read text).toOption.getD default

@[simp] lemma readOr_none {α : Type} (read : String → Except String α) (default : α) :
    readOr read default none = default := rfl

lemma readOr_some {α : Type} {read : String → Except String α} {default value : α} {text : String}
    (h : read text = .ok value) : readOr read default (some text) = value := by
  rw [readOr, h]
  rfl

/-- What holds of the default and of every value that can be read. -/
lemma readOr_rule {α : Type} {read : String → Except String α} {default : α} (P : α → Prop)
    (hdefault : P default) (hread : ∀ text value, read text = .ok value → P value)
    (given : Option String) : P (readOr read default given) := by
  rcases given with _ | text
  · exact hdefault
  · rcases htext : read text with e | value
    · simpa [readOr, htext, Except.toOption] using hdefault
    · rw [readOr_some htext]
      exact hread text value htext

/-! ## Texts without a NUL -/

lemma cString_of_not_mem {text : String} (h : '\x00' ∉ text.toList) : cString text = text := by
  rw [cString, cStr_of_not_mem h, String.ofList_toList]

lemma not_nul_mem_toString (n : ℕ) : '\x00' ∉ (toString n).toList := by
  have hdigits := not_mem_toDigits (c := '\x00') (by decide) n
  simpa using hdigits

lemma not_nul_mem_endpoint {endpoint : Endpoint} (haddress : IsAddress endpoint.host) :
    '\x00' ∉ endpoint.toString.toList := by
  obtain ⟨a, b, c, d, -, hhost⟩ := haddress
  have hdotted := not_nul_mem_dotted a b c d
  have hdigits := not_mem_toDigits (c := '\x00') (by decide) endpoint.port.toNat
  simp [Endpoint.toString, hhost, hdotted, hdigits]

/-! ## Endpoints and sizes -/

/-- An endpoint that was parsed has a numeric address. -/
lemma isLoopback_of_parse {text : String} {endpoint : Endpoint}
    (h : Endpoint.parse text = .ok endpoint) : endpoint.isLoopback ≠ none := by
  simp only [Endpoint.parse] at h
  split at h
  · cases h
  · split_ifs at h
    split at h
    · cases h
    · next address haddress =>
      rw [← Except.ok.inj h, Endpoint.isLoopback, haddress]
      exact Option.some_ne_none _

lemma isLoopback_readOr {default : Endpoint} (hdefault : default.isLoopback ≠ none)
    (given : Option String) : (readOr Endpoint.parse default given).isLoopback ≠ none :=
  readOr_rule (fun endpoint : Endpoint => endpoint.isLoopback ≠ none) hdefault
    (fun _ _ => isLoopback_of_parse) given

lemma parse_toString_of_isAddress {endpoint : Endpoint} (haddress : IsAddress endpoint.host)
    (hport : endpoint.port ≠ 0) : Endpoint.parse endpoint.toString = .ok endpoint := by
  obtain ⟨a, b, c, d, hoctets, hhost⟩ := haddress
  exact Endpoint.parse_toString hoctets hhost hport

lemma isInt64_milliseconds (count : ℕ) : IsInt64 (milliseconds count) := by
  have hlow := Int.le_bmod (x := (count : ℤ)) (Nat.two_pow_pos 64)
  have hhigh := Int.bmod_lt (x := (count : ℤ)) (Nat.two_pow_pos 64)
  rw [milliseconds, i64, IsInt64]
  omega

end NetFault
