import CoreCrypto.Keystore

/-!
# `ProteusCentral` (`proteus.rs`)

The Proteus engine: one identity key pair and a map of sessions, over the same keystore as
MLS. The `proteus_wasm` crate is not part of this repository; `ProteusLib` bundles the
calls the code makes into it, with failing calls returning `Except.error` and no new
state, and every result below holds for every `P : ProteusLib`.

* `try_new` loads the identity (creating and saving one if the table is empty) and restores
  every stored session;
* the session operations, `encrypt`, `decrypt` and `encrypt_batched`, each a `Mut` over the
  central and the keystore, and `ProteusCall` running any of them.

Keystore writes other than `remove::<ProteusSession>` are taken to succeed; the answer to a
session row's removal is an argument, as `session_delete` reads it.
-/

namespace CoreCrypto

/-- The `proteus_wasm` types and calls `proteus.rs` uses. -/
structure ProteusLib where
  IdentityKeyPair : Type
  /-- a double-ratchet session -/
  Session : Type
  PreKeyBundle : Type
  Envelope : Type
  /-- `secret_key.to_bytes_extended()` -/
  secretKeyBytes : IdentityKeyPair → Bytes
  /-- `public_key.public_key.fingerprint()`, hex-encoded -/
  fingerprint : IdentityKeyPair → String
  /-- `hex::decode` -/
  hexDecode : String → Except CryptoError Bytes
  /-- `IdentityKeyPair::from_raw_key_pair(sk, pk)` -/
  fromRawKeyPair : Bytes → Bytes → IdentityKeyPair
  preKeyBundleDeserialise : Bytes → Except ProteusError PreKeyBundle
  /-- `Session::init_from_prekey` -/
  initFromPrekey : IdentityKeyPair → PreKeyBundle → Except ProteusError Session
  envelopeDeserialise : Bytes → Except ProteusError Envelope
  /-- `Session::init_from_message` with the keystore as its prekey store: the session, the
  payload, and the id of the one-time prekey it consumed, which it removes from the store
  (`none` for the last-resort prekey, which stays) -/
  initFromMessage : IdentityKeyPair → AList (fun _ : UInt16 => Bytes) → Envelope →
    Except ProteusError (Session × Bytes × Option UInt16)
  /-- `Session::encrypt`: the advanced session and the envelope -/
  sessionEncrypt : Session → Bytes → Except ProteusError (Session × Envelope)
  envelopeSerialise : Envelope → Except ProteusError Bytes
  /-- `Session::decrypt` with the keystore as its prekey store, as `init_from_message` -/
  sessionDecrypt : Session → AList (fun _ : UInt16 => Bytes) → Envelope →
    Except ProteusError (Session × Bytes × Option UInt16)
  sessionSerialise : Session → Except ProteusError Bytes
  sessionDeserialise : IdentityKeyPair → Bytes → Except ProteusError Session
  /-- `Session::local_identity`: the identity key pair the session belongs to -/
  sessionLocalIdentity : Session → IdentityKeyPair
  /-- `IdentityKeyPair::deserialise`, of a legacy `local_identity` file -/
  identityKeyPairDeserialise : Bytes → Except ProteusError IdentityKeyPair
  /-- `Identity::deserialise`, of a legacy `local` file: `some` for a secret identity
  (`Identity::Sec`), `none` for a public one -/
  identityDeserialise : Bytes → Except ProteusError (Option IdentityKeyPair)
  /-- `PreKey::deserialise`, by its outcome -/
  preKeyDeserialise : Bytes → Except ProteusError Unit

variable {P : ProteusLib}

/-- `ProteusConversationSession`: a session and the identifier it was created under. -/
structure ProteusConversationSession (P : ProteusLib) where
  identifier : SessionIdentifier
  session : P.Session

/-- `ProteusCentral`. -/
structure ProteusCentral (P : ProteusLib) where
  proteusIdentity : P.IdentityKeyPair
  proteusSessions : AList (fun _ : SessionIdentifier => ProteusConversationSession P)

/-- What a Proteus operation reads and writes: the central and the keystore. -/
abbrev ProteusWorld (P : ProteusLib) : Type := ProteusCentral P × Keystore

/-- `CryptoError::ConversationNotFound(session_id.as_bytes().into())`. -/
def sessionNotFound (sessionId : SessionIdentifier) : CryptoError :=
  .conversationNotFound sessionId.toUTF8.toList

/-- A prekey removed by the library from its prekey store, if it removed one. -/
def removePrekey (consumed : Option UInt16) (ks : Keystore) : Keystore :=
  match consumed with
  | some id => { ks with proteusPrekeys := ks.proteusPrekeys.erase id }
  | none => ks

namespace ProteusConversationSession

/-- `ProteusConversationSession::encrypt`: the session advances even when serialising the
envelope then fails. -/
def encrypt (s : ProteusConversationSession P) (plaintext : Bytes) :
    ProteusConversationSession P × Except CryptoError Bytes :=
  match P.sessionEncrypt s.session plaintext with
  | .error e => (s, .error (.proteusError e))
  | .ok (session, envelope) =>
    ({ s with session := session }, (P.envelopeSerialise envelope).mapError .proteusError)

/-- `ProteusConversationSession::decrypt`, over the keystore as prekey store. -/
def decrypt (s : ProteusConversationSession P) (ks : Keystore) (ciphertext : Bytes) :
    (ProteusConversationSession P × Keystore) × Except CryptoError Bytes :=
  match P.envelopeDeserialise ciphertext with
  | .error e => ((s, ks), .error (.proteusError e))
  | .ok envelope =>
    match P.sessionDecrypt s.session ks.proteusPrekeys envelope with
    | .error e => ((s, ks), .error (.proteusError e))
    | .ok (session, payload, consumed) =>
      (({ s with session := session }, removePrekey consumed ks), .ok payload)

@[simp] theorem encrypt_identifier (s : ProteusConversationSession P) (plaintext : Bytes) :
    (s.encrypt plaintext).1.identifier = s.identifier := by
  unfold encrypt; split <;> rfl

@[simp] theorem decrypt_identifier (s : ProteusConversationSession P) (ks : Keystore)
    (ciphertext : Bytes) : (s.decrypt ks ciphertext).1.1.identifier = s.identifier := by
  unfold decrypt; split
  · rfl
  · split <;> rfl

end ProteusConversationSession

namespace ProteusCentral

/-! ## Initialization -/

section Init

variable (PK_KEY_SIZE SK_KEY_SIZE : Nat)

/-- `ProteusCentral::create_identity`: save the fresh key pair `fresh` (the one
`IdentityKeyPair::new()` drew) as the secret key's extended bytes and the decoded
fingerprint of its public key. -/
def createIdentity (fresh : P.IdentityKeyPair) : Mut Keystore P.IdentityKeyPair := do
  let pk ← Mut.lift (P.hexDecode (P.fingerprint fresh))
  Mut.modify fun ks => ks.identitySave { sk := P.secretKeyBytes fresh, pk := pk }
  pure fresh

/-- `ProteusCentral::load_or_create_identity`. -/
def loadOrCreateIdentity (fresh : P.IdentityKeyPair) : Mut Keystore P.IdentityKeyPair := do
  let ks ← Mut.get
  match ← Mut.lift ((Keystore.identityFindOne PK_KEY_SIZE SK_KEY_SIZE ks).mapError .keyStoreError) with
  | some identity => pure (P.fromRawKeyPair identity.sk identity.pk)
  | none => createIdentity fresh

/-- One row of `restore_sessions`: the session deserialised and kept under the row's id. -/
def restoreSession (identity : P.IdentityKeyPair)
    (proteusSessions : AList (fun _ : SessionIdentifier => ProteusConversationSession P))
    (row : Σ _ : SessionIdentifier, Bytes) :
    Except CryptoError (AList (fun _ : SessionIdentifier => ProteusConversationSession P)) := do
  let session ← (P.sessionDeserialise identity row.2).mapError .proteusError
  pure (proteusSessions.insert row.1 ⟨row.1, session⟩)

/-- `ProteusCentral::restore_sessions`, over the session rows in `find_all` order. -/
def restoreSessions (identity : P.IdentityKeyPair) (rows : List (Σ _ : SessionIdentifier, Bytes)) :
    Except CryptoError (AList (fun _ : SessionIdentifier => ProteusConversationSession P)) :=
  rows.foldlM (restoreSession identity) ∅

/-- `ProteusCentral::try_new`. -/
def tryNew (fresh : P.IdentityKeyPair) : Mut Keystore (ProteusCentral P) := do
  let proteusIdentity ← loadOrCreateIdentity PK_KEY_SIZE SK_KEY_SIZE fresh
  let ks ← Mut.get
  let proteusSessions ← Mut.lift (restoreSessions proteusIdentity ks.proteusSessions.entries)
  pure ⟨proteusIdentity, proteusSessions⟩

/-- `try_new` returned what `load_or_create_identity` returned, on the keystore it left,
with the sessions `restore_sessions` read from that keystore. -/
theorem tryNew_eq_ok {fresh : P.IdentityKeyPair} {ks ks' : Keystore} {c : ProteusCentral P}
    (h : tryNew PK_KEY_SIZE SK_KEY_SIZE fresh ks = (ks', .ok c)) :
    loadOrCreateIdentity PK_KEY_SIZE SK_KEY_SIZE fresh ks = (ks', .ok c.proteusIdentity) ∧
      restoreSessions c.proteusIdentity ks'.proteusSessions.entries = .ok c.proteusSessions := by
  obtain ⟨ks₁, identity, h1, h2⟩ := Mut.bind_eq_ok h
  rw [Mut.get_bind_apply] at h2
  obtain ⟨sessions, h3, h4⟩ := Mut.lift_bind_eq_ok h2
  obtain ⟨rfl, rfl⟩ := Mut.pure_eq_ok h4
  exact ⟨h1, h3⟩

end Init

/-! ## Sessions -/

/-- `ProteusCentral::session_from_prekey`. -/
def sessionFromPrekey (sessionId : SessionIdentifier) (key : Bytes) : Mut (ProteusWorld P) Unit := do
  let w ← Mut.get
  let prekey ← Mut.lift ((P.preKeyBundleDeserialise key).mapError .proteusError)
  let session ← Mut.lift ((P.initFromPrekey w.1.proteusIdentity prekey).mapError .proteusError)
  Mut.modify fun w =>
    ({ w.1 with proteusSessions := w.1.proteusSessions.insert sessionId ⟨sessionId, session⟩ }, w.2)

/-- `ProteusCentral::session_from_message`: the payload; the prekey the envelope used is gone
from the keystore, the session is in memory. -/
def sessionFromMessage (sessionId : SessionIdentifier) (envelope : Bytes) :
    Mut (ProteusWorld P) Bytes := do
  let w ← Mut.get
  let message ← Mut.lift ((P.envelopeDeserialise envelope).mapError .proteusError)
  let (session, payload, consumed) ← Mut.lift
    ((P.initFromMessage w.1.proteusIdentity w.2.proteusPrekeys message).mapError .proteusError)
  Mut.modify fun w => (w.1, removePrekey consumed w.2)
  Mut.modify fun w =>
    ({ w.1 with proteusSessions := w.1.proteusSessions.insert sessionId ⟨sessionId, session⟩ }, w.2)
  pure payload

/-- `ProteusCentral::session_save`: the session's row, if there is such a session. -/
def sessionSave (sessionId : SessionIdentifier) : Mut (ProteusWorld P) Unit := do
  let w ← Mut.get
  match w.1.proteusSessions.lookup sessionId with
  | some session =>
    let bytes ← Mut.lift ((P.sessionSerialise session.session).mapError .proteusError)
    Mut.modify fun w => (w.1, w.2.sessionSave sessionId bytes)
  | none => pure ()

/-- `ProteusCentral::session_delete`: the in-memory session goes only if the row's removal
succeeded; either way the call returns `Ok`. -/
def sessionDelete (sessionId : SessionIdentifier) (answer : KeystoreAnswer) :
    Mut (ProteusWorld P) Unit := fun w =>
  match w.2.sessionRemove sessionId answer with
  | .ok ks => (({ w.1 with proteusSessions := w.1.proteusSessions.erase sessionId }, ks), .ok ())
  | .error _ => (w, .ok ())

/-- `ProteusCentral::session_exists`. -/
def sessionExists (c : ProteusCentral P) (sessionId : SessionIdentifier) : Bool :=
  decide (sessionId ∈ c.proteusSessions)

/-- `ProteusCentral::decrypt`. -/
def decrypt (sessionId : SessionIdentifier) (ciphertext : Bytes) : Mut (ProteusWorld P) Bytes :=
  fun w =>
    match w.1.proteusSessions.lookup sessionId with
    | some session =>
      let ((session, ks), r) := session.decrypt w.2 ciphertext
      (({ w.1 with proteusSessions := w.1.proteusSessions.insert sessionId session }, ks), r)
    | none => (w, .error (sessionNotFound sessionId))

/-- `ProteusCentral::encrypt`. -/
def encrypt (sessionId : SessionIdentifier) (plaintext : Bytes) : Mut (ProteusCentral P) Bytes :=
  fun c =>
    match c.proteusSessions.lookup sessionId with
    | some session =>
      let (session, r) := session.encrypt plaintext
      ({ c with proteusSessions := c.proteusSessions.insert sessionId session }, r)
    | none => (c, .error (sessionNotFound sessionId))

/-- The loop of `ProteusCentral::encrypt_batched` (`proteus.rs:418-430`): each listed id that
has a session encrypts, and the ciphertext goes into the map under the session's own
`identifier`. -/
def encryptBatchedLoop (plaintext : Bytes) :
    List SessionIdentifier → AList (fun _ : String => Bytes) →
      Mut (ProteusCentral P) (AList (fun _ : String => Bytes))
  | [], acc => pure acc
  | sessionId :: sessions, acc => fun c =>
    match c.proteusSessions.lookup sessionId with
    | none => encryptBatchedLoop plaintext sessions acc c
    | some session =>
      match session.encrypt plaintext with
      | (session', .error e) =>
        ({ c with proteusSessions := c.proteusSessions.insert sessionId session' }, .error e)
      | (session', .ok ciphertext) =>
        encryptBatchedLoop plaintext sessions (acc.insert session.identifier ciphertext)
          { c with proteusSessions := c.proteusSessions.insert sessionId session' }

/-- `ProteusCentral::encrypt_batched`. -/
def encryptBatched (sessions : List SessionIdentifier) (plaintext : Bytes) :
    Mut (ProteusCentral P) (AList (fun _ : String => Bytes)) :=
  encryptBatchedLoop plaintext sessions ∅

end ProteusCentral

/-! ## A library instance -/

/-- A counting Proteus: a session is the number of messages it has been through, an envelope
is its bytes, and the envelope `[i]` opens a session with prekey `i`, which it consumes. -/
def tallyProteus : ProteusLib where
  IdentityKeyPair := Unit
  Session := Nat
  PreKeyBundle := Unit
  Envelope := Bytes
  secretKeyBytes _ := List.replicate 64 1
  fingerprint _ := "pk"
  hexDecode _ := .ok (List.replicate 32 2)
  fromRawKeyPair _ _ := ()
  preKeyBundleDeserialise _ := .ok ()
  initFromPrekey _ _ := .ok 0
  envelopeDeserialise bytes := .ok bytes
  initFromMessage _ prekeys envelope :=
    match envelope with
    | [i] =>
      if (prekeys.lookup i.toUInt16).isSome then .ok (0, [42], some i.toUInt16)
      else .error ⟨"unknown prekey"⟩
    | _ => .error ⟨"not a prekey message"⟩
  sessionEncrypt n plaintext := .ok (n + 1, plaintext)
  envelopeSerialise envelope := .ok envelope
  sessionDecrypt n _ envelope := .ok (n + 1, envelope, none)
  sessionSerialise n := .ok (List.replicate n 0)
  sessionDeserialise _ bytes := .ok bytes.length
  sessionLocalIdentity _ := ()
  identityKeyPairDeserialise _ := .ok ()
  identityDeserialise _ := .ok (some ())
  preKeyDeserialise _ := .ok ()

/-- A call on an initialized `ProteusCentral`. -/
inductive ProteusCall (P : ProteusLib) where
  | sessionFromPrekey (sessionId : SessionIdentifier) (key : Bytes)
  | sessionFromMessage (sessionId : SessionIdentifier) (envelope : Bytes)
  | sessionSave (sessionId : SessionIdentifier)
  | sessionDelete (sessionId : SessionIdentifier) (answer : KeystoreAnswer)
  | encrypt (sessionId : SessionIdentifier) (plaintext : Bytes)
  | decrypt (sessionId : SessionIdentifier) (ciphertext : Bytes)
  | encryptBatched (sessions : List SessionIdentifier) (plaintext : Bytes)

/-- Run a call, forgetting what it returns. -/
def ProteusCall.run : ProteusCall P → Mut (ProteusWorld P) Unit
  | .sessionFromPrekey sessionId key => ProteusCentral.sessionFromPrekey sessionId key
  | .sessionFromMessage sessionId envelope => do
    let _ ← ProteusCentral.sessionFromMessage sessionId envelope
  | .sessionSave sessionId => ProteusCentral.sessionSave sessionId
  | .sessionDelete sessionId answer => ProteusCentral.sessionDelete sessionId answer
  | .encrypt sessionId plaintext => do
    let _ ← Mut.zoomFst (ProteusCentral.encrypt sessionId plaintext)
  | .decrypt sessionId ciphertext => do
    let _ ← ProteusCentral.decrypt sessionId ciphertext
  | .encryptBatched sessions plaintext => do
    let _ ← Mut.zoomFst (ProteusCentral.encryptBatched sessions plaintext)

end CoreCrypto
