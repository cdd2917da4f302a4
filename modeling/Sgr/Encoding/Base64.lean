import Mathlib.Data.List.Basic

/-!
# Base 64

Bytes as text in the standard alphabet, three bytes to four characters, with padding. The decoder
is lenient: it passes over what is not in the alphabet and stops at the padding.
-/

namespace Encoding

/-- The character of a number of six bits. -/
def sextetChar (n : ℕ) : Char :=
  if n < 26 then Char.ofNat (n + 65)
  else if n < 52 then Char.ofNat (n - 26 + 97)
  else if n < 62 then Char.ofNat (n - 52 + 48)
  else if n = 62 then '+'
  else '/'

/-- The six bits of a character of the alphabet. -/
def sextet (c : Char) : Option ℕ :=
  if 65 ≤ c.toNat ∧ c.toNat < 91 then some (c.toNat - 65)
  else if 97 ≤ c.toNat ∧ c.toNat < 123 then some (c.toNat - 97 + 26)
  else if 48 ≤ c.toNat ∧ c.toNat < 58 then some (c.toNat - 48 + 52)
  else if c = '+' then some 62
  else if c = '/' then some 63
  else none

/-- Encoding: a last group that is not full is padded. -/
def encode64 : List UInt8 → List Char
  | a :: b :: c :: bytes =>
      sextetChar (a.toNat / 4) :: sextetChar (a.toNat % 4 * 16 + b.toNat / 16) ::
        sextetChar (b.toNat % 16 * 4 + c.toNat / 64) :: sextetChar (c.toNat % 64) ::
          encode64 bytes
  | [a, b] =>
      [sextetChar (a.toNat / 4), sextetChar (a.toNat % 4 * 16 + b.toNat / 16),
        sextetChar (b.toNat % 16 * 4), '=']
  | [a] => [sextetChar (a.toNat / 4), sextetChar (a.toNat % 4 * 16), '=', '=']
  | [] => []

/-- How far the decoder is in a group: no character, or the bits that are left of the last. -/
inductive Quad
  | empty
  | six (left : ℕ)
  | four (left : ℕ)
  | two (left : ℕ)

/-- What the decoder does with six bits. -/
def Quad.push (n : ℕ) : Quad → Quad × Option UInt8
  | .empty => (.six n, none)
  | .six left => (.four (n % 16), some (UInt8.ofNat (left * 4 + n / 16)))
  | .four left => (.two (n % 4), some (UInt8.ofNat (left * 16 + n / 4)))
  | .two left => (.empty, some (UInt8.ofNat (left * 64 + n)))

/-- The paddings after which a group is complete, where it can be. -/
def Quad.missing : Quad → Option ℕ
  | .empty => none
  | .six _ => none
  | .four _ => some 2
  | .two _ => some 1

/-- The decoder in a group, after some paddings in a row. -/
def decodeFrom : Quad → ℕ → List Char → Option (List UInt8)
  | .empty, _, [] => some []
  | _, _, [] => none
  | quad, pads, c :: cs =>
      if c = '=' then
        match quad.missing with
        | none => decodeFrom quad pads cs
        | some missing => if missing ≤ pads + 1 then some [] else decodeFrom quad (pads + 1) cs
      else
        match sextet c with
        | none => decodeFrom quad pads cs
        | some n => (decodeFrom (quad.push n).1 0 cs).map ((quad.push n).2.toList ++ ·)

/-- Decoding. -/
def decode64 (text : List Char) : Option (List UInt8) := decodeFrom .empty 0 text

theorem sextet_sextetChar : ∀ n < 64, sextet (sextetChar n) = some n := by decide

theorem sextetChar_ne_pad : ∀ n < 64, sextetChar n ≠ '=' := by decide

section Decode

variable {n : ℕ} {pads : ℕ} {cs : List Char}

theorem decodeFrom_sextetChar (quad : Quad) (h : n < 64) :
    decodeFrom quad pads (sextetChar n :: cs) =
      (decodeFrom (quad.push n).1 0 cs).map ((quad.push n).2.toList ++ ·) := by
  rw [decodeFrom.eq_def]
  simp only [if_neg (sextetChar_ne_pad n h), sextet_sextetChar n h]

theorem decodeFrom_pad (quad : Quad) {missing : ℕ} (h : quad.missing = some missing) :
    decodeFrom quad pads ('=' :: cs) =
      if missing ≤ pads + 1 then some [] else decodeFrom quad (pads + 1) cs := by
  rw [decodeFrom.eq_def]
  simp only [if_true, h]

/-- A byte from what two groups of bits hold of it. -/
theorem ofNat_toNat_of_eq {a : UInt8} {m : ℕ} (h : m = a.toNat) : UInt8.ofNat m = a := by
  rw [h]
  exact UInt8.ofNat_toNat

/-- The decoder has read the first two characters of a group. -/
theorem decodeFrom_two {a : UInt8} (h : n < 16) :
    decodeFrom .empty pads
        (sextetChar (a.toNat / 4) :: sextetChar (a.toNat % 4 * 16 + n) :: cs) =
      (decodeFrom (.four n) 0 cs).map (a :: ·) := by
  have ha := a.toNat_lt
  rw [decodeFrom_sextetChar _ (by omega), decodeFrom_sextetChar _ (by omega)]
  have hbyte : UInt8.ofNat (a.toNat / 4 * 4 + (a.toNat % 4 * 16 + n) / 16) = a :=
    ofNat_toNat_of_eq (by omega)
  have hleft : (a.toNat % 4 * 16 + n) % 16 = n := by omega
  simp only [Quad.push, hbyte, hleft, Option.map_map]
  rfl

/-- The decoder has read the third character of a group. -/
theorem decodeFrom_third {b : UInt8} (h : n < 4) :
    decodeFrom (.four (b.toNat / 16)) pads (sextetChar (b.toNat % 16 * 4 + n) :: cs) =
      (decodeFrom (.two n) 0 cs).map (b :: ·) := by
  have hb := b.toNat_lt
  rw [decodeFrom_sextetChar _ (by omega)]
  have hbyte : UInt8.ofNat (b.toNat / 16 * 16 + (b.toNat % 16 * 4 + n) / 4) = b :=
    ofNat_toNat_of_eq (by omega)
  have hleft : (b.toNat % 16 * 4 + n) % 4 = n := by omega
  simp only [Quad.push, hbyte, hleft]
  rfl

/-- The decoder has read the last character of a group. -/
theorem decodeFrom_last {c : UInt8} :
    decodeFrom (.two (c.toNat / 64)) pads (sextetChar (c.toNat % 64) :: cs) =
      (decodeFrom .empty 0 cs).map (c :: ·) := by
  have hc := c.toNat_lt
  rw [decodeFrom_sextetChar _ (by omega)]
  have hbyte : UInt8.ofNat (c.toNat / 64 * 64 + c.toNat % 64) = c :=
    ofNat_toNat_of_eq (by omega)
  simp only [Quad.push, hbyte]
  rfl

theorem decodeFrom_encode64 (bytes : List UInt8) :
    decodeFrom .empty pads (encode64 bytes) = some bytes := by
  induction bytes using encode64.induct generalizing pads with
  | case1 a b c bytes ih =>
      have hb := b.toNat_lt
      have hc := c.toNat_lt
      rw [encode64, decodeFrom_two (by omega), decodeFrom_third (by omega), decodeFrom_last, ih]
      rfl
  | case2 a b =>
      have hb := b.toNat_lt
      have hthird : decodeFrom (.four (b.toNat / 16)) 0 [sextetChar (b.toNat % 16 * 4), '='] =
          (decodeFrom (.two 0) 0 ['=']).map (b :: ·) := decodeFrom_third (Nat.succ_pos 3)
      rw [encode64, decodeFrom_two (by omega), hthird, decodeFrom_pad _ rfl, if_pos (by omega)]
      rfl
  | case3 a =>
      have hfirst : decodeFrom .empty pads
          [sextetChar (a.toNat / 4), sextetChar (a.toNat % 4 * 16), '=', '='] =
            (decodeFrom (.four 0) 0 ['=', '=']).map (a :: ·) := decodeFrom_two (Nat.succ_pos 15)
      rw [encode64, hfirst, decodeFrom_pad _ rfl, if_neg (by omega), decodeFrom_pad _ rfl,
        if_pos (by omega)]
      rfl
  | case4 => rfl

/-- Decoding gives back what has been encoded. -/
theorem decode64_encode64 (bytes : List UInt8) : decode64 (encode64 bytes) = some bytes :=
  decodeFrom_encode64 bytes

end Decode

theorem toNat_sextetChar : ∀ n < 64, (sextetChar n).toNat < 128 := by decide

/-- The text is plain. -/
theorem toNat_lt_of_mem_encode64 {bytes : List UInt8} {c : Char} (h : c ∈ encode64 bytes) :
    c.toNat < 128 := by
  have hpad : '='.toNat < 128 := by decide
  induction bytes using encode64.induct with
  | case1 a b d bytes ih =>
      have ha := a.toNat_lt
      have hb := b.toNat_lt
      have hd := d.toNat_lt
      rw [encode64] at h
      simp only [List.mem_cons] at h
      rcases h with rfl | rfl | rfl | rfl | h
      · exact toNat_sextetChar _ (by omega)
      · exact toNat_sextetChar _ (by omega)
      · exact toNat_sextetChar _ (by omega)
      · exact toNat_sextetChar _ (by omega)
      · exact ih h
  | case2 a b =>
      have ha := a.toNat_lt
      have hb := b.toNat_lt
      simp only [encode64, List.mem_cons, List.not_mem_nil, or_false] at h
      rcases h with rfl | rfl | rfl | rfl
      · exact toNat_sextetChar _ (by omega)
      · exact toNat_sextetChar _ (by omega)
      · exact toNat_sextetChar _ (by omega)
      · exact hpad
  | case3 a =>
      have ha := a.toNat_lt
      simp only [encode64, List.mem_cons, List.not_mem_nil, or_false] at h
      rcases h with rfl | rfl | rfl | rfl
      · exact toNat_sextetChar _ (by omega)
      · exact toNat_sextetChar _ (by omega)
      · exact hpad
      · exact hpad
  | case4 => cases h

end Encoding
