import Mathlib.Data.List.DropRight
import Mathlib.Tactic.Common

/-!
# Base64 with the alphabet of URLs

`encode` writes groups of three bytes as four characters. The reader is the lenient one of Python:
it also takes `+` and `/`, it skips every character that is not of the alphabet, and it stops at
the padding that completes a group. What is encoded is read back, once the padding that was taken
off is restored (`decode_padded_unpadded`).
-/

namespace Mpango.Base64

/-! ## Writing -/

/-- The character of six bits. -/
def digit (n : ℕ) : Char :=
  if n < 26 then Char.ofNat (65 + n)
  else if n < 52 then Char.ofNat (97 + (n - 26))
  else if n < 62 then Char.ofNat (48 + (n - 52))
  else if n = 62 then '-'
  else '_'

/-- `urlsafe_b64encode`. -/
def encode : List UInt8 → List Char
  | a :: b :: c :: bytes =>
    digit (a.toNat / 4) :: digit (a.toNat % 4 * 16 + b.toNat / 16) ::
      digit (b.toNat % 16 * 4 + c.toNat / 64) :: digit (c.toNat % 64) :: encode bytes
  | [a, b] =>
    [digit (a.toNat / 4), digit (a.toNat % 4 * 16 + b.toNat / 16), digit (b.toNat % 16 * 4), '=']
  | [a] => [digit (a.toNat / 4), digit (a.toNat % 4 * 16), '=', '=']
  | [] => []

/-- The text without the padding at its end. -/
def unpadded (bytes : List UInt8) : List Char := (encode bytes).rdropWhile (· = '=')

/-! ## Reading -/

/-- The six bits of a character, in either alphabet. -/
def sextet? (c : Char) : Option ℕ :=
  if 'A' ≤ c ∧ c ≤ 'Z' then some (c.toNat - 65)
  else if 'a' ≤ c ∧ c ≤ 'z' then some (c.toNat - 97 + 26)
  else if '0' ≤ c ∧ c ≤ '9' then some (c.toNat - 48 + 52)
  else if c = '-' ∨ c = '+' then some 62
  else if c = '_' ∨ c = '/' then some 63
  else none

/-- `binascii.a2b_base64`, at a position of its group of four, with the bits of the last character
that are still to be used and the number of padding characters just read. -/
def scan : (quad left pads : ℕ) → List Char → Option (List UInt8)
  | quad, _, _, [] => if quad = 0 then some [] else none
  | quad, left, pads, c :: cs =>
    if c = '=' then
      if 2 ≤ quad ∧ 4 ≤ quad + (pads + 1) then some []
      else scan quad left (if 2 ≤ quad then pads + 1 else pads) cs
    else
      match sextet? c with
      | none => scan quad left pads cs
      | some v =>
        if quad = 0 then scan 1 v 0 cs
        else if quad = 1 then (scan 2 (v % 16) 0 cs).map (UInt8.ofNat (left * 4 + v / 16) :: ·)
        else if quad = 2 then (scan 3 (v % 4) 0 cs).map (UInt8.ofNat (left * 16 + v / 4) :: ·)
        else (scan 0 0 0 cs).map (UInt8.ofNat (left * 64 + v) :: ·)

/-- `urlsafe_b64decode`: a text with other than ASCII characters is refused. -/
def decode (cs : List Char) : Option (List UInt8) :=
  if cs.all fun c => c.toNat < 128 then scan 0 0 0 cs else none

/-- A text with the padding its length asks for. -/
def padded (cs : List Char) : List Char := cs ++ List.replicate ((4 - cs.length % 4) % 4) '='

/-! ## Characters -/

theorem sextet?_digit : ∀ n < 64, sextet? (digit n) = some n := by decide

theorem digit_ne_pad : ∀ n < 64, digit n ≠ '=' := by decide

theorem digit_ne_dot : ∀ n < 64, digit n ≠ '.' := by decide

theorem toNat_digit_lt : ∀ n < 64, (digit n).toNat < 128 := by decide

theorem scan_digit_zero {n : ℕ} (h : n < 64) (left pads : ℕ) (cs : List Char) :
    scan 0 left pads (digit n :: cs) = scan 1 n 0 cs := by
  simp only [scan, digit_ne_pad n h, sextet?_digit n h, if_true, if_false]

theorem scan_digit_one {n : ℕ} (h : n < 64) (left pads : ℕ) (cs : List Char) :
    scan 1 left pads (digit n :: cs) =
      (scan 2 (n % 16) 0 cs).map (UInt8.ofNat (left * 4 + n / 16) :: ·) := by
  simp [scan, digit_ne_pad n h, sextet?_digit n h]

theorem scan_digit_two {n : ℕ} (h : n < 64) (left pads : ℕ) (cs : List Char) :
    scan 2 left pads (digit n :: cs) =
      (scan 3 (n % 4) 0 cs).map (UInt8.ofNat (left * 16 + n / 4) :: ·) := by
  simp [scan, digit_ne_pad n h, sextet?_digit n h]

theorem scan_digit_three {n : ℕ} (h : n < 64) (left pads : ℕ) (cs : List Char) :
    scan 3 left pads (digit n :: cs) =
      (scan 0 0 0 cs).map (UInt8.ofNat (left * 64 + n) :: ·) := by
  simp [scan, digit_ne_pad n h, sextet?_digit n h]

/-! ## What is encoded is read back -/

/-- The text of bytes without padding, group by group. -/
def digits : List UInt8 → List Char
  | a :: b :: c :: bytes =>
    digit (a.toNat / 4) :: digit (a.toNat % 4 * 16 + b.toNat / 16) ::
      digit (b.toNat % 16 * 4 + c.toNat / 64) :: digit (c.toNat % 64) :: digits bytes
  | [a, b] => [digit (a.toNat / 4), digit (a.toNat % 4 * 16 + b.toNat / 16), digit (b.toNat % 16 * 4)]
  | [a] => [digit (a.toNat / 4), digit (a.toNat % 4 * 16)]
  | [] => []

theorem mem_digits {bytes : List UInt8} {c : Char} (h : c ∈ digits bytes) :
    ∃ n < 64, c = digit n := by
  induction bytes using digits.induct with
  | case1 x y z bytes ih =>
    have hx := x.toNat_lt
    have hy := y.toNat_lt
    have hz := z.toNat_lt
    simp only [digits, List.mem_cons] at h
    rcases h with h | h | h | h | h
    · exact ⟨_, by omega, h⟩
    · exact ⟨_, by omega, h⟩
    · exact ⟨_, by omega, h⟩
    · exact ⟨_, by omega, h⟩
    · exact ih h
  | case2 x y =>
    have hx := x.toNat_lt
    have hy := y.toNat_lt
    simp only [digits, List.mem_cons, List.not_mem_nil, or_false] at h
    rcases h with h | h | h
    · exact ⟨_, by omega, h⟩
    · exact ⟨_, by omega, h⟩
    · exact ⟨_, by omega, h⟩
  | case3 x =>
    have hx := x.toNat_lt
    simp only [digits, List.mem_cons, List.not_mem_nil, or_false] at h
    rcases h with h | h
    · exact ⟨_, by omega, h⟩
    · exact ⟨_, by omega, h⟩
  | case4 => exact absurd h List.not_mem_nil

/-- The padding completes the last group. -/
theorem encode_eq (bytes : List UInt8) :
    encode bytes = digits bytes ++ List.replicate ((4 - (digits bytes).length % 4) % 4) '=' := by
  induction bytes using digits.induct with
  | case1 x y z bytes ih =>
    rw [encode, digits, ih]
    simp only [List.cons_append, List.length_cons]
    rw [show (4 - ((digits bytes).length + 1 + 1 + 1 + 1) % 4) % 4 =
      (4 - (digits bytes).length % 4) % 4 by omega]
  | case2 x y => rfl
  | case3 x => rfl
  | case4 => rfl

theorem unpadded_eq (bytes : List UInt8) : unpadded bytes = digits bytes := by
  have hpad : ∀ k, (digits bytes ++ List.replicate k '=').rdropWhile (· = '=') = digits bytes := by
    intro k
    induction k with
    | zero =>
      rw [List.replicate_zero, List.append_nil, List.rdropWhile_eq_self_iff]
      intro hne
      obtain ⟨n, hn, hlast⟩ := mem_digits (List.getLast_mem hne)
      rw [hlast]
      simpa using digit_ne_pad n hn
    | succ k ih =>
      rw [List.replicate_succ', ← List.append_assoc,
        List.rdropWhile_concat_pos _ _ _ (by simp), ih]
  rw [unpadded, encode_eq, hpad]

theorem padded_unpadded (bytes : List UInt8) : padded (unpadded bytes) = encode bytes := by
  rw [unpadded_eq, padded, encode_eq]

theorem scan_encode (bytes : List UInt8) : scan 0 0 0 (encode bytes) = some bytes := by
  induction bytes using digits.induct with
  | case1 x y z bytes ih =>
    have hx := x.toNat_lt
    have hy := y.toNat_lt
    have hz := z.toNat_lt
    rw [encode, scan_digit_zero (by omega), scan_digit_one (by omega), scan_digit_two (by omega),
      scan_digit_three (by omega), ih]
    simp only [Option.map_some]
    rw [show x.toNat / 4 * 4 + (x.toNat % 4 * 16 + y.toNat / 16) / 16 = x.toNat by omega,
      show (x.toNat % 4 * 16 + y.toNat / 16) % 16 * 16 + (y.toNat % 16 * 4 + z.toNat / 64) / 4 =
        y.toNat by omega,
      show (y.toNat % 16 * 4 + z.toNat / 64) % 4 * 64 + z.toNat % 64 = z.toNat by omega,
      UInt8.ofNat_toNat, UInt8.ofNat_toNat, UInt8.ofNat_toNat]
  | case2 x y =>
    have hx := x.toNat_lt
    have hy := y.toNat_lt
    rw [encode, scan_digit_zero (by omega), scan_digit_one (by omega), scan_digit_two (by omega)]
    have hpad : scan 3 (y.toNat % 16 * 4 % 4) 0 ['='] = some [] := rfl
    rw [hpad]
    simp only [Option.map_some]
    rw [show x.toNat / 4 * 4 + (x.toNat % 4 * 16 + y.toNat / 16) / 16 = x.toNat by omega,
      show (x.toNat % 4 * 16 + y.toNat / 16) % 16 * 16 + (y.toNat % 16 * 4) / 4 =
        y.toNat by omega, UInt8.ofNat_toNat, UInt8.ofNat_toNat]
  | case3 x =>
    have hx := x.toNat_lt
    rw [encode, scan_digit_zero (by omega), scan_digit_one (by omega)]
    have hpad : scan 2 (x.toNat % 4 * 16 % 16) 0 ['=', '='] = some [] := rfl
    rw [hpad]
    simp only [Option.map_some]
    rw [show x.toNat / 4 * 4 + (x.toNat % 4 * 16) / 16 = x.toNat by omega, UInt8.ofNat_toNat]
  | case4 => rfl

/-- What is encoded is read back, once the padding is restored. -/
theorem decode_padded_unpadded (bytes : List UInt8) :
    decode (padded (unpadded bytes)) = some bytes := by
  have hascii : (encode bytes).all (fun c => c.toNat < 128) = true := by
    rw [List.all_eq_true]
    intro c hc
    rw [encode_eq, List.mem_append] at hc
    rcases hc with hc | hc
    · obtain ⟨n, hn, rfl⟩ := mem_digits hc
      exact decide_eq_true (toNat_digit_lt n hn)
    · rw [List.eq_of_mem_replicate hc]
      rfl
  rw [padded_unpadded, decode, if_pos hascii, scan_encode]

theorem not_mem_unpadded (bytes : List UInt8) : '.' ∉ unpadded bytes := by
  rw [unpadded_eq]
  intro h
  obtain ⟨n, hn, hdot⟩ := mem_digits h
  exact digit_ne_dot n hn hdot.symm

end Mpango.Base64
