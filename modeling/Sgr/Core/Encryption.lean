import Sgr.Encoding.Base64

/-!
# Encryption at rest

`Cipher` of `sgr/core/encryption.py`: what is encrypted is stored as the base 64 text of the
initialization vector and of the sealed text. The authenticated encryption itself is that of a
package, and so a parameter.
-/

open Encoding

namespace Sgr

/-- `AESGCM`: the arguments are the key, the initialization vector, the text and the associated
data; `none` is an `InvalidTag`. -/
structure Aead where
  encrypt : List UInt8 → List UInt8 → List UInt8 → List UInt8 → List UInt8
  decrypt : List UInt8 → List UInt8 → List UInt8 → List UInt8 → Option (List UInt8)

/-- What is documented of `AESGCM`: a sealed text is opened with the associated data that it has
been sealed with, and with no other. -/
structure Aead.Authenticates (aead : Aead) : Prop where
  opens : ∀ key iv text data, aead.decrypt key iv (aead.encrypt key iv text data) data = some text
  rejects : ∀ key iv text data data', data' ≠ data →
    aead.decrypt key iv (aead.encrypt key iv text data) data' = none

/-- `_IV_SIZE`. -/
def ivSize : ℕ := 12

/-- `Cipher`, with what `__init__` checks. -/
structure Cipher where
  key : List UInt8
  length_key : key.length = 32

/-- `os.urandom(_IV_SIZE)`. -/
structure InitVector where
  bytes : List UInt8
  length_bytes : bytes.length = ivSize

/-- The bytes of a text. -/
def utf8 (text : String) : List UInt8 := text.toUTF8.data.toList

/-- The text of the bytes; `none` is a `UnicodeDecodeError`. -/
def ofUtf8 (bytes : List UInt8) : Option String := String.fromUTF8? ⟨bytes.toArray⟩

/-- `key_bytes` of `get_cipher`: the key is cut or filled up. -/
def cipherKey (rawKey : String) : List UInt8 :=
  (utf8 rawKey).take 32 ++ List.replicate (32 - ((utf8 rawKey).take 32).length) 0

theorem length_cipherKey (rawKey : String) : (cipherKey rawKey).length = 32 := by
  have hle : ((utf8 rawKey).take 32).length ≤ 32 := List.length_take_le _ _
  rw [cipherKey, List.length_append, List.length_replicate]
  omega

/-- `get_cipher`. -/
def getCipher (rawKey : String) : Cipher := ⟨cipherKey rawKey, length_cipherKey rawKey⟩

namespace Cipher

variable (aead : Aead) (cipher : Cipher)

/-- `encrypt`. -/
def encrypt (iv : InitVector) (plaintext : String) (data : List UInt8) : List Char :=
  encode64 (iv.bytes ++ aead.encrypt cipher.key iv.bytes (utf8 plaintext) data)

/-- `decrypt`; `none` is an exception. -/
def decrypt (encrypted : List Char) (data : List UInt8) : Option String :=
  if encrypted.all fun c => c.toNat < 128 then
    (decode64 encrypted).bind fun combined =>
      (aead.decrypt cipher.key (combined.take ivSize) (combined.drop ivSize) data).bind ofUtf8
  else none

end Cipher

theorem ofUtf8_utf8 (text : String) : ofUtf8 (utf8 text) = some text := by
  have hbytes : (⟨(utf8 text).toArray⟩ : ByteArray) = text.toUTF8 := rfl
  rw [ofUtf8, hbytes, String.fromUTF8?]
  simp only [String.toUTF8_eq_toByteArray]
  exact dif_pos text.isValidUTF8

theorem utf8_injective : Function.Injective utf8 := by
  intro s t h
  have hsome := ofUtf8_utf8 s
  rw [h, ofUtf8_utf8 t] at hsome
  exact (Option.some.inj hsome).symm

section RoundTrip

variable {aead : Aead} (cipher : Cipher) (iv : InitVector) (plaintext : String)
  (data : List UInt8)

/-- What is decrypted is what the package opens. -/
theorem decrypt_encrypt_eq (data' : List UInt8) :
    cipher.decrypt aead (cipher.encrypt aead iv plaintext data) data' =
      (aead.decrypt cipher.key iv.bytes
        (aead.encrypt cipher.key iv.bytes (utf8 plaintext) data) data').bind ofUtf8 := by
  have hplain : (cipher.encrypt aead iv plaintext data).all (fun c => c.toNat < 128) = true :=
    List.all_eq_true.2 fun c hc => decide_eq_true (toNat_lt_of_mem_encode64 hc)
  rw [Cipher.decrypt, if_pos hplain, Cipher.encrypt, decode64_encode64, Option.bind_some,
    List.take_left' iv.length_bytes, List.drop_left' iv.length_bytes]

/-- A text is decrypted with the associated data that it has been encrypted with, and with no
other. -/
theorem decrypt_encrypt (h : aead.Authenticates) (data' : List UInt8) :
    cipher.decrypt aead (cipher.encrypt aead iv plaintext data) data' =
      if data' = data then some plaintext else none := by
  rw [decrypt_encrypt_eq]
  split
  next heq =>
    subst heq
    rw [h.opens, Option.bind_some, ofUtf8_utf8]
  next hne =>
    rw [h.rejects _ _ _ _ _ hne]
    rfl

end RoundTrip

end Sgr
