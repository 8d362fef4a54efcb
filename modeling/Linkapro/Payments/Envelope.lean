import Linkapro.Lib.JsonText
import Linkapro.Payments.KeyProvider

/-!
# Payments: encrypted fields

A field is encrypted with a data key, which is stored beside it in a wrapped form. The parts
of an encrypted field travel as Base64 texts in a JSON text, and they are read back from it.
-/

namespace Linkapro.Payments

open Lib

/-- The authenticated cipher `AESGCM`. -/
structure AesGcm where
  /-- `AESGCM(key).encrypt(nonce, data, None)`, with the tag at the end. -/
  encrypt : (key nonce data : Bytes) → Bytes
  /-- `AESGCM(key).decrypt(nonce, data, None)`, with `none` for an exception. -/
  decrypt : (key nonce data : Bytes) → Option Bytes
  length_encrypt : ∀ key nonce data, (encrypt key nonce data).length = data.length + 16
  decrypt_encrypt : ∀ key nonce data, key.length = 32 → nonce.length = 12 →
    decrypt key nonce (encrypt key nonce data) = some data

/-- What `secrets.token_bytes(n)` answers. -/
abbrev RandomBytes (n : ℕ) : Type := { bytes : Bytes // bytes.length = n }

/-- `EncryptedField`. -/
structure EncryptedField where
  ciphertext : Bytes
  iv : Bytes
  tag : Bytes
  dek_encrypted : Bytes
  iv_length : iv.length = 12
  tag_length : tag.length = 16

/-- The constructor, with `none` for a `ValueError`. -/
def EncryptedField.of (ciphertext iv tag dek_encrypted : Bytes) : Option EncryptedField :=
  if h : iv.length = 12 ∧ tag.length = 16 then
    some { ciphertext, iv, tag, dek_encrypted, iv_length := h.1, tag_length := h.2 }
  else none

/-- `data[:-n]`. -/
def allButLast (n : ℕ) (data : Bytes) : Bytes := data.take (data.length - n)

/-- `data[-n:]`. -/
def last (n : ℕ) (data : Bytes) : Bytes := data.drop (data.length - n)

section Cipher

variable (aes : AesGcm)

/-- `encrypt_field`, with the random bytes that it draws and the wrapped key that its caller
adds. -/
def encrypt_field (plaintext : Bytes) (dek : RandomBytes 32) (iv : RandomBytes 12)
    (dek_encrypted : Bytes) : EncryptedField where
  ciphertext := allButLast 16 (aes.encrypt dek.val iv.val plaintext)
  iv := iv.val
  tag := last 16 (aes.encrypt dek.val iv.val plaintext)
  dek_encrypted := dek_encrypted
  iv_length := iv.property
  tag_length := by
    unfold last
    rw [List.length_drop, aes.length_encrypt]
    omega

/-- `decrypt_field`. -/
def decrypt_field (encrypted : EncryptedField) (dek : Bytes) : Option Bytes :=
  aes.decrypt dek encrypted.iv (encrypted.ciphertext ++ encrypted.tag)

variable {aes}

/-- An encrypted field is decrypted with its key. -/
theorem decrypt_encrypt_field {plaintext : Bytes} {dek : RandomBytes 32} {iv : RandomBytes 12}
    {dek_encrypted : Bytes} :
    decrypt_field aes (encrypt_field aes plaintext dek iv dek_encrypted) dek.val =
      some plaintext := by
  have happend (data : Bytes) : allButLast 16 data ++ last 16 data = data :=
    List.take_append_drop _ data
  unfold decrypt_field encrypt_field
  rw [happend]
  exact aes.decrypt_encrypt _ _ _ dek.property iv.property

end Cipher

/-! ### Texts of encrypted fields -/

/-- `text.encode("utf-8")`. -/
def encodeUtf8 (text : String) : Bytes := text.toUTF8.data.toList

/-- `data.decode("utf-8")`. -/
def decodeUtf8 (data : Bytes) : Option String := String.fromUTF8? ⟨data.toArray⟩

/-- `base64.b64encode(data)`. -/
def b64 (data : Bytes) : List Char := Base64.encodeStandard (data.map UInt8.toNat)

/-- `base64.b64decode(text)`, with `none` for a `ValueError`. -/
def b64decode (text : List ℕ) : Option Bytes :=
  if text.all (· < 128) then
    (Base64.decodeStandard (text.map Char.ofNat)).map fun data => data.map UInt8.ofNat
  else none

/-- `encrypted_field_to_json`. -/
def encrypted_field_to_json (ef : EncryptedField) : List (List Char × List Char) :=
  [("ciphertext".toList, b64 ef.ciphertext), ("iv".toList, b64 ef.iv), ("tag".toList, b64 ef.tag),
    ("dek_encrypted".toList, b64 ef.dek_encrypted)]

/-- `json.dumps` of an encrypted field. -/
def EncryptedField.dumps (ef : EncryptedField) : String :=
  String.ofList (JsonText.dumps (encrypted_field_to_json ef))

/-- A dictionary that has been read from a JSON text. -/
abbrev JsonDict : Type := List (List ℕ × JsonText.Value)

/-- `data.get(key)`. -/
def fieldOf (data : JsonDict) (key : String) : Option JsonText.Value :=
  JsonText.get? data (JsonText.points key.toList)

/-- `base64.b64decode(data[key])`, with `none` for an exception. -/
def bytesOf (data : JsonDict) (key : String) : Option Bytes :=
  match fieldOf data key with
  | some (.text text) => b64decode text
  | _ => none

/-- `encrypted_field_from_json`, with `none` for an exception. -/
def encrypted_field_from_json (data : JsonDict) : Option EncryptedField := do
  let ciphertext ← bytesOf data "ciphertext"
  let iv ← bytesOf data "iv"
  let tag ← bytesOf data "tag"
  let dek_encrypted ← bytesOf data "dek_encrypted"
  EncryptedField.of ciphertext iv tag dek_encrypted

/-- `ENCRYPTED_FIELD_KEYS`. -/
def encryptedFieldKeys : List String := ["ciphertext", "iv", "tag", "dek_encrypted"]

/-- The dictionary of a text that `json.loads` and `is_encrypted_payload` accept. -/
def payloadOf (text : String) : Option JsonDict :=
  match JsonText.loads text.toList with
  | some (.dict data) =>
    if encryptedFieldKeys.all fun key => (fieldOf data key).isSome then some data else none
  | _ => none

/-! ### What is written is read back -/

section RoundTrip

theorem decodeUtf8_encodeUtf8 {text : String} : decodeUtf8 (encodeUtf8 text) = some text := by
  have hbytes : (⟨text.toUTF8.data.toList.toArray⟩ : ByteArray) = text.toUTF8 := by simp
  unfold decodeUtf8 encodeUtf8
  rw [hbytes]
  exact dif_pos text.isValidUTF8

/-- The octets of bytes. -/
theorem lt_of_mem_map_toNat {data : Bytes} : ∀ byte ∈ data.map UInt8.toNat, byte < 256 := by
  intro byte hbyte
  obtain ⟨octet, _, rfl⟩ := List.mem_map.mp hbyte
  exact octet.toNat_lt

theorem map_ofNat_toNat {data : Bytes} : (data.map UInt8.toNat).map UInt8.ofNat = data := by
  simp [List.map_map, Function.comp_def]

/-- The text of bytes is plain. -/
theorem isPlain_of_mem_b64 {data : Bytes} {c : Char} (h : c ∈ b64 data) :
    JsonText.isPlain c = true := by
  have hall : Base64.alphabet.all (fun c => JsonText.isPlain (Base64.toStandard c)) = true := by
    decide +kernel
  obtain ⟨c', hc', rfl⟩ := List.mem_map.mp h
  rcases List.mem_append.mp hc' with hc' | hc'
  · exact List.all_eq_true.mp hall c' (Base64.mem_alphabet_of_mem_body hc')
  · rw [List.eq_of_mem_replicate hc']
    decide

/-- Bytes are read back from the code points of their text. -/
theorem b64decode_b64 {data : Bytes} : b64decode (JsonText.points (b64 data)) = some data := by
  have hascii : (JsonText.points (b64 data)).all (· < 128) = true := by
    rw [List.all_eq_true]
    intro point hpoint
    obtain ⟨c, hc, rfl⟩ := List.mem_map.mp hpoint
    have hbounds := JsonText.isPlain_bounds (isPlain_of_mem_b64 hc)
    exact decide_eq_true (by omega)
  have hchars : (JsonText.points (b64 data)).map Char.ofNat = b64 data := by
    simp [JsonText.points, List.map_map, Function.comp_def]
  unfold b64decode
  rw [if_pos hascii, hchars, b64, Base64.decodeStandard_encodeStandard lt_of_mem_map_toNat,
    Option.map_some, map_ofNat_toNat]

variable {ef : EncryptedField}

theorem isPlainDict_encrypted_field : JsonText.IsPlainDict (encrypted_field_to_json ef) := by
  have hkeys : encryptedFieldKeys.all (fun key => key.toList.all JsonText.isPlain) = true := by
    decide +kernel
  have hkey {key : String} (h : key ∈ encryptedFieldKeys) :
      ∀ c ∈ key.toList, JsonText.isPlain c = true :=
    List.all_eq_true.mp (List.all_eq_true.mp hkeys key h)
  intro field hfield
  simp only [encrypted_field_to_json, List.mem_cons, List.not_mem_nil, or_false] at hfield
  rcases hfield with rfl | rfl | rfl | rfl
  all_goals exact ⟨hkey (by simp [encryptedFieldKeys]), fun _ => isPlain_of_mem_b64⟩

/-- An encrypted field is read back from the dictionary of its texts. -/
theorem from_json_to_json :
    encrypted_field_from_json (JsonText.asRead (encrypted_field_to_json ef)) = some ef := by
  have hciphertext : bytesOf (JsonText.asRead (encrypted_field_to_json ef)) "ciphertext" =
      some ef.ciphertext := b64decode_b64
  have hiv : bytesOf (JsonText.asRead (encrypted_field_to_json ef)) "iv" = some ef.iv :=
    b64decode_b64
  have htag : bytesOf (JsonText.asRead (encrypted_field_to_json ef)) "tag" = some ef.tag :=
    b64decode_b64
  have hdek : bytesOf (JsonText.asRead (encrypted_field_to_json ef)) "dek_encrypted" =
      some ef.dek_encrypted := b64decode_b64
  unfold encrypted_field_from_json
  rw [hciphertext, hiv, htag, hdek]
  exact dif_pos ⟨ef.iv_length, ef.tag_length⟩

/-- An encrypted field is read back from its text. -/
theorem payloadOf_dumps :
    payloadOf ef.dumps = some (JsonText.asRead (encrypted_field_to_json ef)) := by
  unfold payloadOf EncryptedField.dumps
  rw [String.toList_ofList, JsonText.loads_dumps isPlainDict_encrypted_field (List.cons_ne_nil _ _)]
  rfl

end RoundTrip

end Linkapro.Payments
