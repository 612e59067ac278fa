import Mathlib.Data.List.Basic
import Mathlib.Tactic.IntervalCases

/-!
# Base64 with padding

Three bytes are written as four characters of the standard alphabet; a last group of one or two
bytes is padded with `=`.  Decoding refuses padded groups whose unused bits are not zero.
-/

namespace Base64

def alphabet : List Char :=
  "ABCDEFGHIJKLMNOPQRSTUVWXYZabcdefghijklmnopqrstuvwxyz0123456789+/".toList

def encodeSextet (n : Nat) : Char := alphabet.getD n 'A'

def decodeSextet (c : Char) : Option Nat := alphabet.findIdx? (· = c)

theorem encodeSextet_spec : ∀ n < 64,
    encodeSextet n ≠ '=' ∧ decodeSextet (encodeSextet n) = some n := by
  decide +kernel

theorem encodeSextet_ne_pad {n : Nat} (h : n < 64) : encodeSextet n ≠ '=' :=
  (encodeSextet_spec n h).1

theorem decodeSextet_encodeSextet {n : Nat} (h : n < 64) :
    decodeSextet (encodeSextet n) = some n :=
  (encodeSextet_spec n h).2

def encode : List UInt8 → List Char
  | [] => []
  | [a] => [encodeSextet (a.toNat / 4), encodeSextet (a.toNat % 4 * 16), '=', '=']
  | [a, b] => [encodeSextet (a.toNat / 4), encodeSextet (a.toNat % 4 * 16 + b.toNat / 16),
      encodeSextet (b.toNat % 16 * 4), '=']
  | a :: b :: c :: rest =>
    encodeSextet (a.toNat / 4) :: encodeSextet (a.toNat % 4 * 16 + b.toNat / 16) ::
      encodeSextet (b.toNat % 16 * 4 + c.toNat / 64) :: encodeSextet (c.toNat % 64) :: encode rest

/-- The byte of a group that padding leaves alone. -/
def decodeOne (w x : Nat) : Option (List UInt8) :=
  if x % 16 = 0 then some [UInt8.ofNat (w * 4 + x / 16)] else none

/-- The two bytes of a group with one padding character. -/
def decodeTwo (w x y : Nat) : Option (List UInt8) :=
  if y % 4 = 0 then some [UInt8.ofNat (w * 4 + x / 16), UInt8.ofNat (x % 16 * 16 + y / 4)] else none

def decodeThree (w x y z : Nat) : List UInt8 :=
  [UInt8.ofNat (w * 4 + x / 16), UInt8.ofNat (x % 16 * 16 + y / 4), UInt8.ofNat (y % 4 * 64 + z)]

def decode : List Char → Option (List UInt8)
  | [] => some []
  | w :: x :: y :: z :: rest =>
    if rest = [] ∧ y = '=' ∧ z = '=' then do
      decodeOne (← decodeSextet w) (← decodeSextet x)
    else if rest = [] ∧ z = '=' then do
      decodeTwo (← decodeSextet w) (← decodeSextet x) (← decodeSextet y)
    else do
      let bytes := decodeThree (← decodeSextet w) (← decodeSextet x) (← decodeSextet y)
        (← decodeSextet z)
      return bytes ++ (← decode rest)
  | _ => none

theorem decodeOne_split (a : UInt8) : decodeOne (a.toNat / 4) (a.toNat % 4 * 16) = some [a] := by
  have hbyte : a.toNat / 4 * 4 + a.toNat % 4 * 16 / 16 = a.toNat := by omega
  rw [decodeOne, if_pos (Nat.mul_mod_left _ _), hbyte, UInt8.ofNat_toNat]

theorem decodeTwo_split (a b : UInt8) :
    decodeTwo (a.toNat / 4) (a.toNat % 4 * 16 + b.toNat / 16) (b.toNat % 16 * 4) = some [a, b] := by
  have hb := b.toNat_lt
  have hfirst : a.toNat / 4 * 4 + (a.toNat % 4 * 16 + b.toNat / 16) / 16 = a.toNat := by omega
  have hsecond : (a.toNat % 4 * 16 + b.toNat / 16) % 16 * 16 + b.toNat % 16 * 4 / 4 = b.toNat := by
    omega
  rw [decodeTwo, if_pos (Nat.mul_mod_left _ _), hfirst, hsecond, UInt8.ofNat_toNat,
    UInt8.ofNat_toNat]

theorem decodeThree_split (a b c : UInt8) :
    decodeThree (a.toNat / 4) (a.toNat % 4 * 16 + b.toNat / 16) (b.toNat % 16 * 4 + c.toNat / 64)
      (c.toNat % 64) = [a, b, c] := by
  have hb := b.toNat_lt
  have hc := c.toNat_lt
  have hfirst : a.toNat / 4 * 4 + (a.toNat % 4 * 16 + b.toNat / 16) / 16 = a.toNat := by omega
  have hsecond : (a.toNat % 4 * 16 + b.toNat / 16) % 16 * 16 +
      (b.toNat % 16 * 4 + c.toNat / 64) / 4 = b.toNat := by omega
  have hthird : (b.toNat % 16 * 4 + c.toNat / 64) % 4 * 64 + c.toNat % 64 = c.toNat := by omega
  rw [decodeThree, hfirst, hsecond, hthird, UInt8.ofNat_toNat, UInt8.ofNat_toNat,
    UInt8.ofNat_toNat]

theorem decode_encode (bytes : List UInt8) : decode (encode bytes) = some bytes := by
  -- The recursion of `encode`: a full group, or a last group of one or two bytes.
  induction bytes using encode.induct with
  | case1 => rfl
  | case2 a =>
    have ha := a.toNat_lt
    simp [encode, decode, decodeSextet_encodeSextet (show a.toNat / 4 < 64 by omega),
      decodeSextet_encodeSextet (show a.toNat % 4 * 16 < 64 by omega), decodeOne_split]
  | case3 a b =>
    have ha := a.toNat_lt
    have hb := b.toNat_lt
    have hpad := encodeSextet_ne_pad (show b.toNat % 16 * 4 < 64 by omega)
    simp [encode, decode, decodeSextet_encodeSextet (show a.toNat / 4 < 64 by omega),
      decodeSextet_encodeSextet (show a.toNat % 4 * 16 + b.toNat / 16 < 64 by omega),
      decodeSextet_encodeSextet (show b.toNat % 16 * 4 < 64 by omega), hpad, decodeTwo_split]
  | case4 a b c rest ih =>
    have ha := a.toNat_lt
    have hb := b.toNat_lt
    have hc := c.toNat_lt
    have hpad := encodeSextet_ne_pad (show c.toNat % 64 < 64 by omega)
    simp [encode, decode, decodeSextet_encodeSextet (show a.toNat / 4 < 64 by omega),
      decodeSextet_encodeSextet (show a.toNat % 4 * 16 + b.toNat / 16 < 64 by omega),
      decodeSextet_encodeSextet (show b.toNat % 16 * 4 + c.toNat / 64 < 64 by omega),
      decodeSextet_encodeSextet (show c.toNat % 64 < 64 by omega), hpad, decodeThree_split, ih]

theorem length_encode (bytes : List UInt8) : (encode bytes).length = 4 * ((bytes.length + 2) / 3) := by
  induction bytes using encode.induct with
  | case1 => rfl
  | case2 a => simp [encode]
  | case3 a b => simp [encode]
  | case4 a b c rest ih =>
    simp only [encode, List.length_cons, ih]
    omega

theorem encodeSextet_mem (n : Nat) : encodeSextet n ∈ alphabet := by
  rw [encodeSextet, List.getD_eq_getElem?_getD]
  cases h : alphabet[n]? with
  | none => decide
  | some c => exact List.mem_of_getElem? h

theorem mem_encode {bytes : List UInt8} {c : Char} (h : c ∈ encode bytes) : c = '=' ∨ c ∈ alphabet := by
  induction bytes using encode.induct with
  | case1 => cases h
  | case2 a =>
    simp only [encode, List.mem_cons, List.not_mem_nil, or_false] at h
    rcases h with rfl | rfl | rfl | rfl <;> simp [encodeSextet_mem]
  | case3 a b =>
    simp only [encode, List.mem_cons, List.not_mem_nil, or_false] at h
    rcases h with rfl | rfl | rfl | rfl <;> simp [encodeSextet_mem]
  | case4 a b c rest ih =>
    simp only [encode, List.mem_cons] at h
    rcases h with rfl | rfl | rfl | rfl | h
    · exact .inr (encodeSextet_mem _)
    · exact .inr (encodeSextet_mem _)
    · exact .inr (encodeSextet_mem _)
    · exact .inr (encodeSextet_mem _)
    · exact ih h

end Base64
