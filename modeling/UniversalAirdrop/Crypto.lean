/-
This file models `crypto.cpp`: key derivation, encryption and decryption of a
whole file, and the flat byte format of an encrypted payload.

OpenSSL is a parameter. Its cipher is an authenticated encryption scheme with a
16-byte tag, its key derivation is a function of passphrase and salt, and each
of its calls may fail. Lengths are handed to it as `int`, as the code does, and
what it does with a negative one is a parameter too: nothing promises that it
refuses one, and a length that is taken for a huge one runs past the buffers.
-/

import UniversalAirdrop.Cxx
import UniversalAirdrop.Library.Aead

namespace UniversalAirdrop

def aesIvLen : ℕ := 12
def aesTagLen : ℕ := 16
def saltLen : ℕ := 16

structure EncryptedBlob where
  salt : Bytes
  iv : Bytes
  cipher : Bytes
  deriving DecidableEq, Repr

/-! ### OpenSSL -/

/-- The OpenSSL calls whose result the code checks. -/
inductive OpenSslCall
  | randBytesSalt
  | randBytesIv
  | pbkdf2
  | ctxNew
  | encryptInit
  | encryptUpdate
  | encryptFinal
  | getTag
  | decryptInit
  | decryptUpdate
  | setTag
  deriving DecidableEq, Repr

/-- OpenSSL as the code relies on it: which calls succeed, whether the update calls refuse a
negative length, the key derivation, and AES-256-GCM as an authenticated encryption scheme. -/
structure OpenSsl where
  succeeds : OpenSslCall → Bool
  refusesNegative : Bool
  pbkdf2 : Bytes → Bytes → Bytes
  gcm : Aead Bytes Bytes UInt8 aesTagLen

/-- What `RAND_bytes` fills the salt and the initialisation vector with. -/
structure Randomness where
  salt : Bytes
  iv : Bytes
  length_salt : salt.length = saltLen
  length_iv : iv.length = aesIvLen

/-- Throw unless a call succeeds. -/
def OpenSsl.require (openssl : OpenSsl) (call : OpenSslCall) : Except Halt Unit :=
  if openssl.succeeds call then .ok () else .error (.threw .runtimeError)

/-- The result of an update call. A negative length that is not refused is a wild access, and the
process is killed. -/
def OpenSsl.update (openssl : OpenSsl) (call : OpenSslCall) (inl : ℤ) : Except Halt Bool :=
  if 0 ≤ inl then .ok (openssl.succeeds call)
  else if openssl.refusesNegative then .ok false
  else .error .killed

/-- No call fails. -/
def OpenSsl.Works (openssl : OpenSsl) : Prop := ∀ call, openssl.succeeds call = true

/-- An OpenSSL whose calls never fail, with a key that is the passphrase followed by the salt
and a tag that marks the key. -/
def OpenSsl.keyMarked : OpenSsl where
  succeeds _ := true
  refusesNegative := false
  pbkdf2 passphrase salt := passphrase ++ salt
  gcm := Aead.ofMark (fun key _ _ => (key ++ List.replicate aesTagLen 0).take aesTagLen) (by
    intro key _ _
    rw [List.length_take, List.length_append, List.length_replicate]
    omega)

theorem OpenSsl.keyMarked_works : OpenSsl.keyMarked.Works := fun _ => rfl

/-! ### The functions of the module -/

def deriveKey (openssl : OpenSsl) (passphrase salt : Bytes) : Except Halt Bytes := do
  openssl.require .pbkdf2
  return openssl.pbkdf2 passphrase salt

/-- The update call gets the plaintext's length as an `int`. -/
def encrypt (openssl : OpenSsl) (random : Randomness) (plaintext passphrase : Bytes) :
    Except Halt EncryptedBlob := do
  openssl.require .randBytesSalt
  openssl.require .randBytesIv
  let key ← deriveKey openssl passphrase random.salt
  openssl.require .ctxNew
  openssl.require .encryptInit
  let inl := toInt plaintext.length
  if ¬ (← openssl.update .encryptUpdate inl) then throw (.threw .runtimeError)
  openssl.require .encryptFinal
  openssl.require .getTag
  let processed ← throwing (slice plaintext 0 inl.toNat)
  return { salt := random.salt, iv := random.iv
           cipher := openssl.gcm.sealed key random.iv processed }

/-- The empty vector stands for failure. Only the key derivation throws. -/
def decrypt (openssl : OpenSsl) (blob : EncryptedBlob) (passphrase : Bytes) :
    Except Halt Bytes := do
  let key ← deriveKey openssl passphrase blob.salt
  if blob.cipher.length < aesTagLen then return []
  if ¬ openssl.succeeds .ctxNew then return []
  let iv ← throwing (slice blob.iv 0 aesIvLen)
  if ¬ openssl.succeeds .decryptInit then return []
  let cipherLen := blob.cipher.length - aesTagLen
  let inl := toInt cipherLen
  if ¬ (← openssl.update .decryptUpdate inl) then return []
  let processed ← throwing (slice blob.cipher 0 inl.toNat)
  let tag ← throwing (slice blob.cipher cipherLen (cipherLen + aesTagLen))
  if ¬ openssl.succeeds .setTag then return []
  -- The final call verifies the tag; a failure discards what was decrypted.
  return (openssl.gcm.opening key iv processed tag).getD []

def serializeEncrypted (blob : EncryptedBlob) : Bytes :=
  blob.salt ++ blob.iv ++ blob.cipher

/-- `none` is the result `false`. -/
def deserializeEncrypted (data : Bytes) : Except Fault (Option EncryptedBlob) := do
  let headerLen := saltLen + aesIvLen
  if data.length < headerLen then return none
  let salt ← slice data 0 saltLen
  let iv ← slice data saltLen headerLen
  let cipher ← slice data headerLen data.length
  return some { salt, iv, cipher }

/-! ### What the functions compute -/

/-- The calls of `encrypt` before the update call. -/
def encryptSetup : List OpenSslCall :=
  [.randBytesSalt, .randBytesIv, .pbkdf2, .ctxNew, .encryptInit]

/-- The calls of `encrypt` from the update call on. -/
def encryptData : List OpenSslCall := [.encryptUpdate, .encryptFinal, .getTag]

/-- The calls of `decrypt` before the update call. -/
def decryptSetup : List OpenSslCall := [.pbkdf2, .ctxNew, .decryptInit]

/-- The calls of `decrypt`, besides the one that verifies the tag. -/
def decryptCalls : List OpenSslCall := decryptSetup ++ [.decryptUpdate, .setTag]

/-- Decrypting a cipher field of this length runs past the buffers: the update call is reached with
a length that is negative as an `int`, and does not refuse it. -/
def OpenSsl.Overruns (openssl : OpenSsl) (cipherLength : ℕ) : Prop :=
  (∀ call ∈ decryptSetup, openssl.succeeds call = true) ∧
    toInt (cipherLength - aesTagLen) < 0 ∧ openssl.refusesNegative = false

theorem OpenSsl.require_eq_ok_iff {openssl : OpenSsl} {call : OpenSslCall} {result : Unit} :
    openssl.require call = .ok result ↔ openssl.succeeds call = true := by
  unfold OpenSsl.require
  cases openssl.succeeds call
  · exact iff_of_false nofun nofun
  · exact iff_of_true rfl rfl

theorem OpenSsl.eq_of_require_error {openssl : OpenSsl} {call : OpenSslCall} {reason : Halt}
    (failed : openssl.require call = .error reason) : reason = .threw .runtimeError := by
  unfold OpenSsl.require at failed
  split at failed
  case isTrue => cases failed
  case isFalse => exact (Except.error.inj failed).symm

/-- An update call does not return exactly when it is given a negative length that it does not
refuse. -/
theorem OpenSsl.update_eq_error_iff {openssl : OpenSsl} {call : OpenSslCall} {inl : ℤ}
    {reason : Halt} : openssl.update call inl = .error reason ↔
      reason = .killed ∧ inl < 0 ∧ openssl.refusesNegative = false := by
  unfold OpenSsl.update
  by_cases nonnegative : 0 ≤ inl
  · rw [if_pos nonnegative]
    exact iff_of_false nofun fun killed => absurd killed.2.1 (by omega)
  · rw [if_neg nonnegative]
    cases openssl.refusesNegative with
    | true => exact iff_of_false nofun fun killed => (by cases killed.2.2)
    | false =>
      constructor
      · exact fun failed => ⟨(Except.error.inj failed).symm, by omega, rfl⟩
      · rintro ⟨rfl, -⟩
        rfl

/-- An update call that succeeds was given a length that is not negative. -/
theorem OpenSsl.update_eq_true_iff {openssl : OpenSsl} {call : OpenSslCall} {inl : ℤ} :
    openssl.update call inl = .ok true ↔ 0 ≤ inl ∧ openssl.succeeds call = true := by
  unfold OpenSsl.update
  by_cases nonnegative : 0 ≤ inl
  · rw [if_pos nonnegative, Except.ok.injEq, and_iff_right nonnegative]
  · rw [if_neg nonnegative]
    refine iff_of_false ?_ fun succeeded => nonnegative succeeded.1
    cases openssl.refusesNegative <;> exact nofun

theorem deriveKey_of_succeeds {openssl : OpenSsl} (derives : openssl.succeeds .pbkdf2 = true)
    (passphrase salt : Bytes) :
    deriveKey openssl passphrase salt = .ok (openssl.pbkdf2 passphrase salt) := by
  rw [deriveKey, OpenSsl.require, if_pos derives]
  rfl

theorem deriveKey_eq_ok_iff {openssl : OpenSsl} {passphrase salt key : Bytes} :
    deriveKey openssl passphrase salt = .ok key ↔
      openssl.succeeds .pbkdf2 = true ∧ openssl.pbkdf2 passphrase salt = key := by
  rw [deriveKey, bind_eq_ok]
  constructor
  · rintro ⟨_, derives, returned⟩
    exact ⟨OpenSsl.require_eq_ok_iff.mp derives, Except.ok.inj returned⟩
  · rintro ⟨derives, same⟩
    exact ⟨(), OpenSsl.require_eq_ok_iff.mpr derives, congrArg Except.ok same⟩

theorem eq_of_deriveKey_error {openssl : OpenSsl} {passphrase salt : Bytes} {reason : Halt}
    (failed : deriveKey openssl passphrase salt = .error reason) :
    reason = .threw .runtimeError := by
  obtain failed | ⟨-, -, returned⟩ := bind_eq_error.mp failed
  · exact OpenSsl.eq_of_require_error failed
  · cases returned

theorem forall_mem_encryptSetup {openssl : OpenSsl} :
    (∀ call ∈ encryptSetup, openssl.succeeds call = true) ↔
      openssl.succeeds .randBytesSalt = true ∧ openssl.succeeds .randBytesIv = true ∧
        openssl.succeeds .pbkdf2 = true ∧ openssl.succeeds .ctxNew = true ∧
        openssl.succeeds .encryptInit = true := by
  simp [encryptSetup]

theorem forall_mem_encryptData {openssl : OpenSsl} :
    (∀ call ∈ encryptData, openssl.succeeds call = true) ↔
      openssl.succeeds .encryptUpdate = true ∧ openssl.succeeds .encryptFinal = true ∧
        openssl.succeeds .getTag = true := by
  simp [encryptData]

/-- Encryption returns a blob exactly when its calls succeed and the length is not negative as an
`int`, and then it has sealed as many bytes as that `int` says. -/
theorem encrypt_eq_ok_iff {openssl : OpenSsl} {random : Randomness} {plaintext passphrase : Bytes}
    {blob : EncryptedBlob} :
    encrypt openssl random plaintext passphrase = .ok blob ↔
      (∀ call ∈ encryptSetup, openssl.succeeds call = true) ∧ 0 ≤ toInt plaintext.length ∧
      (∀ call ∈ encryptData, openssl.succeeds call = true) ∧
      { salt := random.salt, iv := random.iv
        cipher := openssl.gcm.sealed (openssl.pbkdf2 passphrase random.salt) random.iv
          (plaintext.take (toInt plaintext.length).toNat) } = blob := by
  have processed : throwing (slice plaintext 0 (toInt plaintext.length).toNat) =
      .ok (plaintext.take (toInt plaintext.length).toNat) := by
    rw [slice_of_le (Nat.zero_le _) (toNat_toInt_le _), List.drop_zero, Nat.sub_zero, throwing_ok]
  rw [forall_mem_encryptSetup, forall_mem_encryptData]
  simp only [encrypt, bind_eq_ok, OpenSsl.require_eq_ok_iff, deriveKey_eq_ok_iff, processed]
  constructor
  · rintro ⟨-, salt, -, iv, key, ⟨derived, rfl⟩, -, context, -, init, updated, update, left⟩
    cases updated with
    | false => cases left
    | true =>
      rw [if_neg (by decide)] at left
      simp only [bind_eq_ok, OpenSsl.require_eq_ok_iff, ok_bind] at left
      obtain ⟨-, final, -, tag, returned⟩ := left
      obtain ⟨nonnegative, update⟩ := OpenSsl.update_eq_true_iff.mp update
      exact ⟨⟨salt, iv, derived, context, init⟩, nonnegative, ⟨update, final, tag⟩,
        Except.ok.inj returned⟩
  · rintro ⟨⟨salt, iv, derived, context, init⟩, nonnegative, ⟨update, final, tag⟩, rfl⟩
    refine ⟨(), salt, (), iv, _, ⟨derived, rfl⟩, (), context, (), init, true,
      OpenSsl.update_eq_true_iff.mpr ⟨nonnegative, update⟩, ?_⟩
    rw [if_neg (by decide)]
    simp only [bind_eq_ok, OpenSsl.require_eq_ok_iff, ok_bind]
    exact ⟨(), final, (), tag, rfl⟩

/-- Encryption that returns no blob has thrown, unless it has got to the update call with a length
that is negative as an `int`, and that call does not refuse it: then it is killed. -/
theorem eq_of_encrypt_error {openssl : OpenSsl} {random : Randomness}
    {plaintext passphrase : Bytes} {reason : Halt}
    (failed : encrypt openssl random plaintext passphrase = .error reason) :
    reason = .threw .runtimeError ∨ reason = .killed ∧
      (∀ call ∈ encryptSetup, openssl.succeeds call = true) ∧ toInt plaintext.length < 0 ∧
        openssl.refusesNegative = false := by
  have processed : throwing (slice plaintext 0 (toInt plaintext.length).toNat) =
      .ok (plaintext.take (toInt plaintext.length).toNat) := by
    rw [slice_of_le (Nat.zero_le _) (toNat_toInt_le _), List.drop_zero, Nat.sub_zero, throwing_ok]
  rw [forall_mem_encryptSetup]
  simp only [encrypt, bind_eq_error, OpenSsl.require_eq_ok_iff, deriveKey_eq_ok_iff,
    OpenSsl.update_eq_error_iff, processed] at failed
  obtain failed | ⟨-, salt, failed⟩ := failed
  · exact Or.inl (OpenSsl.eq_of_require_error failed)
  obtain failed | ⟨-, iv, failed⟩ := failed
  · exact Or.inl (OpenSsl.eq_of_require_error failed)
  obtain failed | ⟨key, ⟨derives, -⟩, failed⟩ := failed
  · exact Or.inl (eq_of_deriveKey_error failed)
  obtain failed | ⟨-, context, failed⟩ := failed
  · exact Or.inl (OpenSsl.eq_of_require_error failed)
  obtain failed | ⟨-, init, failed⟩ := failed
  · exact Or.inl (OpenSsl.eq_of_require_error failed)
  obtain ⟨killed, negative⟩ | ⟨updated, -, failed⟩ := failed
  · exact Or.inr ⟨killed, ⟨salt, iv, derives, context, init⟩, negative⟩
  cases updated with
  | false => exact Or.inl (Except.error.inj failed).symm
  | true =>
    rw [if_neg (by decide), bind_eq_error] at failed
    obtain failed | ⟨-, -, failed⟩ := failed
    · exact Or.inl (OpenSsl.eq_of_require_error failed)
    obtain failed | ⟨-, -, returned⟩ := bind_eq_error.mp failed
    · exact Or.inl (OpenSsl.eq_of_require_error failed)
    · cases returned

theorem encrypt_of_negative {openssl : OpenSsl} (random : Randomness) {plaintext : Bytes}
    (passphrase : Bytes) (setup : ∀ call ∈ encryptSetup, openssl.succeeds call = true)
    (negative : toInt plaintext.length < 0) (runs : openssl.refusesNegative = false) :
    encrypt openssl random plaintext passphrase = .error .killed := by
  obtain ⟨salt, iv, derives, context, init⟩ := forall_mem_encryptSetup.mp setup
  simp only [encrypt, bind_eq_error, OpenSsl.require_eq_ok_iff, deriveKey_eq_ok_iff]
  exact Or.inr ⟨(), salt, Or.inr ⟨(), iv, Or.inr ⟨_, ⟨derives, rfl⟩, Or.inr ⟨(), context,
    Or.inr ⟨(), init, Or.inl (OpenSsl.update_eq_error_iff.mpr ⟨rfl, negative, runs⟩)⟩⟩⟩⟩⟩

/-- Below `2 ^ 31` bytes, encryption seals the whole plaintext. -/
theorem encrypt_of_works {openssl : OpenSsl} (works : openssl.Works) (random : Randomness)
    {plaintext : Bytes} (small : plaintext.length < 2 ^ 31) (passphrase : Bytes) :
    encrypt openssl random plaintext passphrase =
      .ok { salt := random.salt, iv := random.iv
            cipher := openssl.gcm.sealed (openssl.pbkdf2 passphrase random.salt) random.iv
              plaintext } := by
  refine encrypt_eq_ok_iff.mpr ⟨fun call _ => works call, ?_, fun call _ => works call, ?_⟩
  · rw [toInt_of_lt small]
    exact Int.natCast_nonneg _
  · rw [toInt_of_lt small, Int.toNat_natCast, List.take_length]

/-- The initialisation vector of a blob whose vector has its fixed length is read whole. -/
theorem slice_iv {iv : Bytes} (length : iv.length = aesIvLen) : slice iv 0 aesIvLen = .ok iv := by
  rw [slice_of_le (Nat.zero_le _) length.ge, List.drop_zero, Nat.sub_zero, ← length,
    List.take_length]

/-- Below `2 ^ 31` bytes besides the tag, decryption opens the cipher field, and gives the empty
vector when it does not open. -/
theorem decrypt_of_succeeds {openssl : OpenSsl}
    (succeeds : ∀ call ∈ decryptCalls, openssl.succeeds call = true) {blob : EncryptedBlob}
    (ivLength : blob.iv.length = aesIvLen) (small : blob.cipher.length < 2 ^ 31 + aesTagLen)
    (passphrase : Bytes) :
    decrypt openssl blob passphrase =
      .ok ((openssl.gcm.openSealed (openssl.pbkdf2 passphrase blob.salt) blob.iv
        blob.cipher).getD []) := by
  have derives := succeeds .pbkdf2 (by decide)
  have context := succeeds .ctxNew (by decide)
  have init := succeeds .decryptInit (by decide)
  have update := succeeds .decryptUpdate (by decide)
  have setTag := succeeds .setTag (by decide)
  simp only [decrypt, deriveKey_of_succeeds derives, Aead.openSealed, ok_bind]
  by_cases short : blob.cipher.length < aesTagLen
  · rw [if_pos short, if_pos short]
    rfl
  · have bounded : blob.cipher.length - aesTagLen < 2 ^ 31 := by omega
    have processed : slice blob.cipher 0 (blob.cipher.length - aesTagLen) =
        .ok (blob.cipher.take (blob.cipher.length - aesTagLen)) := by
      rw [slice_of_le (Nat.zero_le _) (Nat.sub_le _ _), List.drop_zero, Nat.sub_zero]
    have tag : slice blob.cipher (blob.cipher.length - aesTagLen)
        (blob.cipher.length - aesTagLen + aesTagLen) =
        .ok (blob.cipher.drop (blob.cipher.length - aesTagLen)) := by
      rw [slice_of_le (Nat.le_add_right _ _) (by omega), List.take_of_length_le]
      rw [List.length_drop]
      omega
    have updated : openssl.update .decryptUpdate ((blob.cipher.length - aesTagLen : ℕ) : ℤ) =
        .ok true := OpenSsl.update_eq_true_iff.mpr ⟨Int.natCast_nonneg _, update⟩
    simp only [toInt_of_lt bounded, Int.toNat_natCast, if_neg short, context, init, updated, setTag,
      slice_iv ivLength, processed, tag, ok_bind, throwing_ok, not_true_eq_false, if_false]
    rfl

theorem decrypt_of_works {openssl : OpenSsl} (works : openssl.Works) {blob : EncryptedBlob}
    (ivLength : blob.iv.length = aesIvLen) (small : blob.cipher.length < 2 ^ 31 + aesTagLen)
    (passphrase : Bytes) :
    decrypt openssl blob passphrase =
      .ok ((openssl.gcm.openSealed (openssl.pbkdf2 passphrase blob.salt) blob.iv
        blob.cipher).getD []) :=
  decrypt_of_succeeds (fun call _ => works call) ivLength small passphrase

/-- A cipher field of less than `2 ^ 31` bytes besides the tag does not make decryption run past
the buffers. -/
theorem OpenSsl.not_overruns_of_lt {openssl : OpenSsl} {cipherLength : ℕ}
    (small : cipherLength < 2 ^ 31 + aesTagLen) : ¬ openssl.Overruns cipherLength := by
  rintro ⟨-, negative, -⟩
  rw [toInt_of_lt (by omega)] at negative
  omega

/-- Decryption throws only when the key derivation does, as it reads nothing outside of the blob,
and is killed only where the update call is given a length it does not refuse. -/
theorem decrypt_eq_error_iff {openssl : OpenSsl} {blob : EncryptedBlob} {passphrase : Bytes}
    {reason : Halt} (ivLength : blob.iv.length = aesIvLen) :
    decrypt openssl blob passphrase = .error reason ↔
      (reason = .threw .runtimeError ∧ openssl.succeeds .pbkdf2 = false) ∨
        (reason = .killed ∧ openssl.Overruns blob.cipher.length) := by
  cases derived : openssl.succeeds .pbkdf2 with
  | false =>
    have failed : deriveKey openssl passphrase blob.salt = .error (.threw .runtimeError) := by
      rw [deriveKey, OpenSsl.require, derived]
      rfl
    have early : ¬ openssl.Overruns blob.cipher.length := by
      rintro ⟨setup, -⟩
      rw [setup .pbkdf2 (by decide)] at derived
      cases derived
    rw [decrypt, failed, or_iff_left fun killed => early killed.2]
    exact ⟨fun same => ⟨(Except.error.inj same).symm, rfl⟩, fun same => by rw [same.1]; rfl⟩
  | true =>
    simp only [decrypt, deriveKey_of_succeeds derived, ok_bind, slice_iv ivLength, throwing_ok,
      Bool.true_eq_false, and_false, false_or]
    by_cases short : blob.cipher.length < aesTagLen
    · rw [if_pos short]
      refine iff_of_false nofun fun killed => OpenSsl.not_overruns_of_lt ?_ killed.2
      omega
    rw [if_neg short]
    cases context : openssl.succeeds .ctxNew with
    | false =>
      refine iff_of_false nofun fun killed => ?_
      rw [killed.2.1 .ctxNew (by decide)] at context
      cases context
    | true =>
      cases init : openssl.succeeds .decryptInit with
      | false =>
        refine iff_of_false nofun fun killed => ?_
        rw [killed.2.1 .decryptInit (by decide)] at init
        cases init
      | true =>
        have setup : ∀ call ∈ decryptSetup, openssl.succeeds call = true := by
          simp [decryptSetup, derived, context, init]
        have inside := toNat_toInt_le (blob.cipher.length - aesTagLen)
        have processed : ∃ bytes, throwing (slice blob.cipher 0
            (toInt (blob.cipher.length - aesTagLen)).toNat) = .ok bytes :=
          ⟨_, congrArg throwing (slice_of_le (Nat.zero_le _) (by omega))⟩
        have tag : ∃ bytes, throwing (slice blob.cipher (blob.cipher.length - aesTagLen)
            (blob.cipher.length - aesTagLen + aesTagLen)) = .ok bytes :=
          ⟨_, congrArg throwing (slice_of_le (Nat.le_add_right _ _) (by omega))⟩
        obtain ⟨processed, processedRead⟩ := processed
        obtain ⟨tag, tagRead⟩ := tag
        rw [OpenSsl.Overruns, and_iff_right setup, processedRead, tagRead,
          ← @OpenSsl.update_eq_error_iff openssl .decryptUpdate]
        cases openssl.update .decryptUpdate (toInt (blob.cipher.length - aesTagLen)) with
        | error stopped =>
          simp only [not_true_eq_false, if_false, error_bind, Except.error.injEq]
        | ok good =>
          -- Every branch that is left returns.
          refine iff_of_false ?_ nofun
          cases good <;> cases openssl.succeeds .setTag <;> exact nofun

/-- A payload is refused exactly when it is shorter than the salt and the initialisation
vector, and otherwise it is split at its fixed offsets. -/
theorem deserializeEncrypted_eq (data : Bytes) :
    deserializeEncrypted data =
      if data.length < saltLen + aesIvLen then .ok none
      else .ok (some { salt := data.take saltLen
                       iv := (data.drop saltLen).take aesIvLen
                       cipher := data.drop (saltLen + aesIvLen) }) := by
  unfold deserializeEncrypted
  by_cases short : data.length < saltLen + aesIvLen
  · simp only [if_pos short]
    rfl
  · have enough : saltLen + aesIvLen ≤ data.length := by omega
    have salt : slice data 0 saltLen = .ok (data.take saltLen) := by
      rw [slice_of_le (Nat.zero_le _) (by omega), List.drop_zero, Nat.sub_zero]
    have iv : slice data saltLen (saltLen + aesIvLen) =
        .ok ((data.drop saltLen).take aesIvLen) := by
      rw [slice_of_le (Nat.le_add_right _ _) enough, Nat.add_sub_cancel_left]
    have cipher : slice data (saltLen + aesIvLen) data.length =
        .ok (data.drop (saltLen + aesIvLen)) := by
      rw [slice_of_le enough le_rfl, ← List.length_drop, List.take_length]
    simp only [if_neg short, salt, iv, cipher]
    rfl

/-- What was serialized is split into the parts it was made of. -/
theorem deserializeEncrypted_serializeEncrypted {blob : EncryptedBlob}
    (saltLength : blob.salt.length = saltLen) (ivLength : blob.iv.length = aesIvLen) :
    deserializeEncrypted (serializeEncrypted blob) = .ok (some blob) := by
  have length : (serializeEncrypted blob).length =
      saltLen + aesIvLen + blob.cipher.length := by
    rw [serializeEncrypted, List.length_append, List.length_append, saltLength, ivLength]
  rw [deserializeEncrypted_eq, if_neg (by omega), serializeEncrypted, ← saltLength, ← ivLength]
  simp [List.append_assoc]

/-! ### Which lengths are encrypted whole -/

/-- Encryption throws, or its blob holds the whole plaintext: the cipher field is longer by the
tag alone, and decryption with the same passphrase returns the plaintext. -/
def CoversWhole (openssl : OpenSsl) (random : Randomness) (plaintext passphrase : Bytes) : Prop :=
  (∃ fault, encrypt openssl random plaintext passphrase = .error (.threw fault)) ∨
    ∃ blob, encrypt openssl random plaintext passphrase = .ok blob ∧
      blob.cipher.length = plaintext.length + aesTagLen ∧
      decrypt openssl blob passphrase = .ok plaintext

/-- A length that is not negative as an `int` is kept below `2 ^ 31` alone. -/
theorem toInt_nonnegative_iff (size : ℕ) : 0 ≤ toInt size ↔ size % 2 ^ 32 < 2 ^ 31 := by
  unfold toInt
  rw [Int.bmod_def]
  split <;> omega

theorem toNat_toInt_eq_iff {size : ℕ} (nonnegative : 0 ≤ toInt size) :
    (toInt size).toNat = size ↔ size < 2 ^ 31 := by
  unfold toInt at nonnegative ⊢
  rw [Int.bmod_def] at nonnegative ⊢
  split at nonnegative <;> omega

/-- Encryption covers the whole plaintext exactly when the plaintext is shorter than `2 ^ 31` bytes,
or a call before the update call fails, or a later one does and the length is not negative as an
`int`, or it is and the update call refuses it. -/
theorem coversWhole_iff {openssl : OpenSsl}
    (decrypts : ∀ call ∈ decryptCalls, openssl.succeeds call = true) (random : Randomness)
    (plaintext passphrase : Bytes) :
    CoversWhole openssl random plaintext passphrase ↔
      plaintext.length < 2 ^ 31 ∨ (∃ call ∈ encryptSetup, openssl.succeeds call = false) ∨
        if plaintext.length % 2 ^ 32 < 2 ^ 31 then
          ∃ call ∈ encryptData, openssl.succeeds call = false
        else openssl.refusesNegative = true := by
  constructor
  · rintro (⟨fault, thrown⟩ | ⟨blob, returned, length, -⟩)
    · by_contra uncovered
      rw [not_or, not_or] at uncovered
      obtain ⟨long, setup, left⟩ := uncovered
      have setup : ∀ call ∈ encryptSetup, openssl.succeeds call = true := by
        simpa using setup
      by_cases nonnegative : plaintext.length % 2 ^ 32 < 2 ^ 31
      · rw [if_pos nonnegative] at left
        have data : ∀ call ∈ encryptData, openssl.succeeds call = true := by
          simpa using left
        rw [encrypt_eq_ok_iff.mpr ⟨setup, (toInt_nonnegative_iff _).mpr nonnegative, data, rfl⟩]
          at thrown
        cases thrown
      · rw [if_neg nonnegative, Bool.not_eq_true] at left
        rw [← toInt_nonnegative_iff, Int.not_le] at nonnegative
        rw [encrypt_of_negative random passphrase setup nonnegative left] at thrown
        cases thrown
    · obtain ⟨-, nonnegative, -, rfl⟩ := encrypt_eq_ok_iff.mp returned
      have below := toNat_toInt_le plaintext.length
      rw [Aead.length_sealed, List.length_take, Nat.min_eq_left below, Nat.add_right_cancel_iff,
        toNat_toInt_eq_iff nonnegative] at length
      exact Or.inl length
  · intro condition
    cases result : encrypt openssl random plaintext passphrase with
    | error reason =>
      obtain rfl | ⟨rfl, setup, negative, runs⟩ := eq_of_encrypt_error result
      · exact Or.inl ⟨_, result⟩
      · -- Nothing of the condition is left for a run that is killed.
        rw [← Int.not_le, toInt_nonnegative_iff] at negative
        rw [if_neg negative, runs] at condition
        obtain small | ⟨call, member, fails⟩ | refuses := condition
        · omega
        · rw [setup call member] at fails
          cases fails
        · cases refuses
    | ok blob =>
      obtain ⟨setup, nonnegative, data, rfl⟩ := encrypt_eq_ok_iff.mp result
      rw [if_pos ((toInt_nonnegative_iff _).mp nonnegative)] at condition
      have small : plaintext.length < 2 ^ 31 := by
        obtain small | ⟨call, member, fails⟩ | ⟨call, member, fails⟩ := condition
        · exact small
        · rw [setup call member] at fails
          cases fails
        · rw [data call member] at fails
          cases fails
      rw [(toNat_toInt_eq_iff nonnegative).mpr small, List.take_length] at result
      refine Or.inr ⟨_, result, Aead.length_sealed _ _ _ _, ?_⟩
      rw [decrypt_of_succeeds decrypts random.length_iv
        (by rw [Aead.length_sealed]; exact Nat.add_lt_add_right small _), Aead.openSealed_sealed,
        Option.getD_some]

/-- A salt and an initialisation vector. -/
def sampleRandomness : Randomness where
  salt := List.replicate saltLen 1
  iv := List.replicate aesIvLen 2
  length_salt := by decide
  length_iv := by decide

theorem coversWhole_sample :
    CoversWhole .keyMarked sampleRandomness (ascii "attack at dawn") (ascii "passphrase") :=
  (coversWhole_iff (fun call _ => OpenSsl.keyMarked_works call) _ _ _).mpr
    (Or.inl (by decide))

/-- Of a plaintext of `2 ^ 32` bytes nothing is sealed, and on one of `2 ^ 31` bytes the process is
killed. -/
theorem not_coversWhole_replicate :
    ¬ CoversWhole .keyMarked sampleRandomness (List.replicate (2 ^ 32) 0) (ascii "passphrase") ∧
      ¬ CoversWhole .keyMarked sampleRandomness (List.replicate (2 ^ 31) 0)
        (ascii "passphrase") := by
  have works (call : OpenSslCall) : OpenSsl.keyMarked.succeeds call = true :=
    OpenSsl.keyMarked_works call
  constructor
  · have wraps : toInt (List.replicate (2 ^ 32) (0 : UInt8)).length = 0 := by
      rw [List.length_replicate]
      decide
    rintro (⟨fault, thrown⟩ | ⟨blob, returned, length, -⟩)
    · rw [encrypt_eq_ok_iff.mpr ⟨fun call _ => works call, Int.le_of_eq wraps.symm,
        fun call _ => works call, rfl⟩] at thrown
      cases thrown
    · obtain ⟨-, -, -, rfl⟩ := encrypt_eq_ok_iff.mp returned
      rw [Aead.length_sealed, wraps, List.length_take, List.length_replicate] at length
      omega
  · have negative : toInt (List.replicate (2 ^ 31) (0 : UInt8)).length < 0 := by
      rw [List.length_replicate]
      decide
    have killed := encrypt_of_negative sampleRandomness (ascii "passphrase")
      (fun call _ => works call) negative rfl
    rintro (⟨fault, thrown⟩ | ⟨blob, returned, -⟩)
    · rw [killed] at thrown
      cases thrown
    · rw [killed] at returned
      cases returned

end UniversalAirdrop
