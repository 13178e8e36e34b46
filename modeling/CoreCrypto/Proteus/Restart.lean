import CoreCrypto.Proteus.Sessions
import CoreCrypto.Proteus.Remigration

/-!
# Proteus in `CoreCrypto` (`proteus.rs:80-232`), and restarting it

`CoreCrypto` keeps its Proteus client as an `Option<ProteusCentral>` beside the keystore of
the MLS backend. `proteus_init` builds the client with `ProteusCentral::try_new`; every other
`proteus_*` call except `proteus_cryptobox_migrate` first takes the client, or returns
`ProteusNotInitialized` (`withProteus`).

* **Restart.** In every state reachable from any keystore by any sequence of these calls, once
  there is a client, `proteus_init` (again, or in a new process on the same keystore) succeeds,
  writes nothing, keeps the identity, and rebuilds exactly the sessions the keystore holds a
  row for, each as `Session::deserialise` reads its row (`reachable_proteusInit_restores`). A
  session that lives only in memory is gone, and one that moved on since its row was written
  comes back as the row has it.
* **Saved sessions come back.** A session `proteus_session_save` wrote comes back from that
  restart as it was in memory (`sessionSave_survives_restart`). Every session in memory
  belongs to the client's identity (`SessionsOwned`), the one a restart deserialises its row
  under.
* **Responder sessions.** `proteus_session_from_message` writes no session row; the session
  it opened comes back from a restart once `proteus_session_save` has written it
  (`sessionFromMessage_saved_survives_restart`).

Three library laws are assumed, each named where it is used.
-/

namespace CoreCrypto

variable {P : ProteusLib}

/-! ## Library laws -/

/-- Sessions and their identity. `Session::deserialise`, under the session's own identity, reads
back the session `Session::serialise` wrote (under another identity it fails with
`LocalIdentityChanged`); and a session belongs to the identity it was made with, the one
`init_from_prekey`, `init_from_message` and `deserialise` were given, through every `encrypt`
and `decrypt`. -/
structure ProteusLib.SessionRoundTrip (P : ProteusLib) : Prop where
  readBack : ∀ s bytes, P.sessionSerialise s = .ok bytes →
    P.sessionDeserialise (P.sessionLocalIdentity s) bytes = .ok s
  fromPrekey : ∀ kp bundle s, P.initFromPrekey kp bundle = .ok s → P.sessionLocalIdentity s = kp
  fromMessage : ∀ kp prekeys envelope s r, P.initFromMessage kp prekeys envelope = .ok (s, r) →
    P.sessionLocalIdentity s = kp
  deserialise : ∀ kp bytes s, P.sessionDeserialise kp bytes = .ok s → P.sessionLocalIdentity s = kp
  encrypt : ∀ s plaintext s' envelope, P.sessionEncrypt s plaintext = .ok (s', envelope) →
    P.sessionLocalIdentity s' = P.sessionLocalIdentity s
  decrypt : ∀ s prekeys envelope s' r, P.sessionDecrypt s prekeys envelope = .ok (s', r) →
    P.sessionLocalIdentity s' = P.sessionLocalIdentity s

/-- `create_identity` stores blobs of the sizes `find_one` checks. -/
def ProteusLib.KeySizes (P : ProteusLib) (PK_KEY_SIZE SK_KEY_SIZE : Nat) : Prop :=
  ∀ kp pk, P.hexDecode (P.fingerprint kp) = .ok pk →
    pk.length = PK_KEY_SIZE ∧ (P.secretKeyBytes kp).length = SK_KEY_SIZE

theorem tallyProteus_sessionRoundTrip : tallyProteus.SessionRoundTrip where
  readBack n bytes h := by
    simp only [tallyProteus, Except.ok.injEq] at h
    subst h
    simp [tallyProteus]
  fromPrekey _ _ _ _ := rfl
  fromMessage _ _ _ _ _ _ := rfl
  deserialise _ _ _ _ := rfl
  encrypt _ _ _ _ _ := rfl
  decrypt _ _ _ _ _ _ := rfl

theorem tallyProteus_keySizes : tallyProteus.KeySizes 32 64 := by
  intro _ pk h
  simp only [tallyProteus, Except.ok.injEq] at h
  subst h
  simp [tallyProteus]

/-- Decrypting moves the keystore only by the prekey the library consumed. -/
theorem ProteusConversationSession.decrypt_keystore (s : ProteusConversationSession P)
    (ks : Keystore) (ciphertext : Bytes) :
    ∃ consumed, (s.decrypt ks ciphertext).1.2 = removePrekey consumed ks := by
  unfold ProteusConversationSession.decrypt
  split
  · exact ⟨none, rfl⟩
  · split
    · exact ⟨none, rfl⟩
    · exact ⟨_, rfl⟩

namespace ProteusCentral

/-- `ProteusCentral::new_prekey` (`proteus.rs:433-446`): `prekey` and `bundle` are what
`serialise` returned for the freshly drawn `PreKey` and for the `PreKeyBundle` built from it
and the identity's public key. The row is saved last, once both serialised; `save` upserts,
so a prekey id already in use is overwritten. -/
def newPrekey (id : UInt16) (prekey bundle : Except ProteusError Bytes) :
    Mut (ProteusWorld P) Bytes := do
  let raw ← Mut.lift (prekey.mapError .proteusError)
  let bundle ← Mut.lift (bundle.mapError .proteusError)
  Mut.modify fun w => (w.1, w.2.prekeySave id raw)
  pure bundle

/-! ## What each session call leaves -/

/-- `session_from_prekey` fails with nothing changed, or inserts under the id the session
`init_from_prekey` made under the client's identity. -/
theorem sessionFromPrekey_cases (sessionId : SessionIdentifier) (key : Bytes) (w : ProteusWorld P) :
    (∃ e, sessionFromPrekey sessionId key w = (w, .error e)) ∨
      ∃ bundle session, P.initFromPrekey w.1.proteusIdentity bundle = .ok session ∧
        sessionFromPrekey sessionId key w =
          (({ w.1 with proteusSessions := w.1.proteusSessions.insert sessionId ⟨sessionId, session⟩ },
            w.2), .ok ()) := by
  simp only [sessionFromPrekey, Mut.get_bind_apply]
  rcases P.preKeyBundleDeserialise key with e | bundle
  · exact .inl ⟨_, rfl⟩
  rcases hi : P.initFromPrekey w.1.proteusIdentity bundle with e | session
  · exact .inl ⟨.proteusError e, by simp [hi, Except.mapError]⟩
  · exact .inr ⟨bundle, session, hi, by simp [hi, Except.mapError]⟩

/-- `session_from_message` fails with nothing changed, or inserts under the id the session
`init_from_message` made under the client's identity, with the prekey it consumed removed. -/
theorem sessionFromMessage_cases (sessionId : SessionIdentifier) (envelope : Bytes)
    (w : ProteusWorld P) :
    (∃ e, sessionFromMessage sessionId envelope w = (w, .error e)) ∨
      ∃ message session payload consumed,
        P.initFromMessage w.1.proteusIdentity w.2.proteusPrekeys message =
          .ok (session, payload, consumed) ∧
        sessionFromMessage sessionId envelope w =
          (({ w.1 with proteusSessions := w.1.proteusSessions.insert sessionId ⟨sessionId, session⟩ },
            removePrekey consumed w.2), .ok payload) := by
  simp only [sessionFromMessage, Mut.get_bind_apply]
  rcases P.envelopeDeserialise envelope with e | message
  · exact .inl ⟨_, rfl⟩
  rcases hi : P.initFromMessage w.1.proteusIdentity w.2.proteusPrekeys message with
    e | ⟨session, payload, consumed⟩
  · exact .inl ⟨.proteusError e, by simp [hi, Except.mapError]⟩
  · exact .inr ⟨message, session, payload, consumed, hi, by simp [hi, Except.mapError]; rfl⟩

/-- `session_save` fails with nothing changed, does nothing for an id without a session, or
writes the serialisation of the session in memory. -/
theorem sessionSave_cases (sessionId : SessionIdentifier) (w : ProteusWorld P) :
    (∃ e, sessionSave sessionId w = (w, .error e)) ∨
      (w.1.proteusSessions.lookup sessionId = none ∧ sessionSave sessionId w = (w, .ok ())) ∨
      ∃ s bytes, w.1.proteusSessions.lookup sessionId = some s ∧
        P.sessionSerialise s.session = .ok bytes ∧
        sessionSave sessionId w = ((w.1, w.2.sessionSave sessionId bytes), .ok ()) := by
  simp only [sessionSave, Mut.get_bind_apply]
  rcases hs : w.1.proteusSessions.lookup sessionId with _ | s
  · exact .inr (.inl ⟨rfl, rfl⟩)
  rcases hb : P.sessionSerialise s.session with e | bytes
  · exact .inl ⟨.proteusError e, by simp [hb, Except.mapError]⟩
  · exact .inr (.inr ⟨s, bytes, rfl, hb, by simp [hb, Except.mapError]⟩)

end ProteusCentral

/-! ## Sessions belong to the client's identity -/

/-- Every session of the map belongs to `identity`. -/
def SessionsOwned (identity : P.IdentityKeyPair)
    (sessions : AList (fun _ : SessionIdentifier => ProteusConversationSession P)) : Prop :=
  ∀ sessionId s, sessions.lookup sessionId = some s → P.sessionLocalIdentity s.session = identity

namespace SessionsOwned

variable {identity : P.IdentityKeyPair}
  {sessions : AList (fun _ : SessionIdentifier => ProteusConversationSession P)}

theorem insert (h : SessionsOwned identity sessions) {sessionId : SessionIdentifier}
    {s : ProteusConversationSession P} (hs : P.sessionLocalIdentity s.session = identity) :
    SessionsOwned identity (sessions.insert sessionId s) :=
  forall_lookup_insert h hs

theorem erase (h : SessionsOwned identity sessions) (sessionId : SessionIdentifier) :
    SessionsOwned identity (sessions.erase sessionId) :=
  forall_lookup_erase h sessionId

/-- A session replaced by a successor with the same identity keeps the map owned. -/
theorem replace (h : SessionsOwned identity sessions) {sessionId : SessionIdentifier}
    {s s' : ProteusConversationSession P} (hs : sessions.lookup sessionId = some s)
    (hid : P.sessionLocalIdentity s'.session = P.sessionLocalIdentity s.session) :
    SessionsOwned identity (sessions.insert sessionId s') :=
  h.insert (hid.trans (h _ _ hs))

end SessionsOwned

section Owned

variable (hrt : P.SessionRoundTrip)
include hrt

theorem ProteusConversationSession.encrypt_localIdentity (s : ProteusConversationSession P)
    (plaintext : Bytes) :
    P.sessionLocalIdentity (s.encrypt plaintext).1.session = P.sessionLocalIdentity s.session := by
  unfold ProteusConversationSession.encrypt
  split
  · rfl
  · exact hrt.encrypt _ _ _ _ ‹_›

theorem ProteusConversationSession.decrypt_localIdentity (s : ProteusConversationSession P)
    (ks : Keystore) (ciphertext : Bytes) :
    P.sessionLocalIdentity (s.decrypt ks ciphertext).1.1.session = P.sessionLocalIdentity s.session := by
  unfold ProteusConversationSession.decrypt
  split
  · rfl
  · split
    · rfl
    · exact hrt.decrypt _ _ _ _ _ ‹_›

namespace ProteusCentral

/-- The sessions `restore_sessions` rebuilds belong to the identity it deserialised them under. -/
theorem tryNew_owned (PK_KEY_SIZE SK_KEY_SIZE : Nat) {fresh : P.IdentityKeyPair} {ks ks' : Keystore}
    {c : ProteusCentral P} (h : tryNew PK_KEY_SIZE SK_KEY_SIZE fresh ks = (ks', .ok c)) :
    SessionsOwned c.proteusIdentity c.proteusSessions :=
  foldlM_restoreSession_induction _ (SessionsOwned c.proteusIdentity)
    (fun _ _ _ h hd => h.insert (hrt.deserialise _ _ _ hd)) _ (fun _ _ h => by cases h)
    (tryNew_eq_ok _ _ h).2

theorem encrypt_owned (sessionId : SessionIdentifier) (plaintext : Bytes) :
    Mut.Preserves (fun c : ProteusCentral P => SessionsOwned c.proteusIdentity c.proteusSessions)
      (encrypt sessionId plaintext) := by
  intro c h
  unfold encrypt
  split
  · exact h.replace ‹_› (ProteusConversationSession.encrypt_localIdentity hrt _ _)
  · exact h

theorem encryptBatchedLoop_owned (plaintext : Bytes) (sessions : List SessionIdentifier)
    (acc : AList (fun _ : String => Bytes)) :
    Mut.Preserves (fun c : ProteusCentral P => SessionsOwned c.proteusIdentity c.proteusSessions)
      (encryptBatchedLoop plaintext sessions acc) := by
  induction sessions generalizing acc with
  | nil => exact Mut.Preserves.pure _
  | cons sessionId sessions ih =>
    intro c h
    unfold encryptBatchedLoop
    split
    · exact ih acc c h
    · rename_i session hs
      have hid := ProteusConversationSession.encrypt_localIdentity hrt session plaintext
      rcases he : session.encrypt plaintext with ⟨session', _ | ciphertext⟩ <;> rw [he] at hid
      · exact h.replace hs hid
      · exact ih _ _ (h.replace hs hid)

end ProteusCentral

end Owned

namespace ProteusCentral

/-! ## Restoring the sessions -/

/-- What the loop of `restore_sessions` makes of rows that all deserialise: it succeeds; each
session of the result was in the map already or is a row's, under the row's id; and the
result holds every row's id. -/
theorem foldlM_restoreSession_spec (identity : P.IdentityKeyPair)
    (rows : List (Σ _ : SessionIdentifier, Bytes))
    (hrows : ∀ row ∈ rows, ∃ s, P.sessionDeserialise identity row.2 = .ok s)
    (acc : AList (fun _ : SessionIdentifier => ProteusConversationSession P)) :
    ∃ sessions, rows.foldlM (restoreSession identity) acc = .ok sessions ∧
      (∀ sessionId s, sessions.lookup sessionId = some s → acc.lookup sessionId = some s ∨
        s.identifier = sessionId ∧
          ∃ row ∈ rows, row.1 = sessionId ∧ P.sessionDeserialise identity row.2 = .ok s.session) ∧
      ∀ sessionId, sessionId ∈ sessions ↔ sessionId ∈ acc ∨ ∃ row ∈ rows, row.1 = sessionId := by
  induction rows generalizing acc with
  | nil => exact ⟨acc, rfl, fun _ _ h => .inl h, fun _ => by simp⟩
  | cons row rows ih =>
    obtain ⟨s, hs⟩ := hrows row (List.mem_cons_self _ _)
    obtain ⟨sessions, h1, h2, h3⟩ :=
      ih (fun r hr => hrows r (List.mem_cons_of_mem _ hr)) (acc.insert row.1 ⟨row.1, s⟩)
    refine ⟨sessions, by simpa [restoreSession, hs, bind, Except.bind, Except.mapError, pure,
      Except.pure] using h1, fun sessionId s' hlk => ?_, fun sessionId => ?_⟩
    · rcases h2 sessionId s' hlk with hins | ⟨hid, r, hr, rfl, hrs⟩
      · by_cases hid : sessionId = row.1
        · subst hid
          rw [AList.lookup_insert] at hins
          cases hins
          exact .inr ⟨rfl, row, List.mem_cons_self _ _, rfl, hs⟩
        · exact .inl (by rwa [AList.lookup_insert_ne hid] at hins)
      · exact .inr ⟨hid, r, List.mem_cons_of_mem _ hr, rfl, hrs⟩
    · rw [h3, AList.mem_insert]
      simp only [List.mem_cons, or_and_right, exists_or, exists_eq_left, @eq_comm _ row.1 sessionId]
      exact or_assoc.trans or_left_comm

/-- On a keystore whose session rows all deserialise, `restore_sessions` succeeds, rebuilds
each session from the row under its id, and rebuilds every row. -/
theorem restoreSessions_of_rows (identity : P.IdentityKeyPair) {ks : Keystore}
    (hks : ∀ sessionId bytes, ks.proteusSessions.lookup sessionId = some bytes →
      ∃ s, P.sessionDeserialise identity bytes = .ok s) :
    ∃ sessions, restoreSessions identity ks.proteusSessions.entries = .ok sessions ∧
      (∀ sessionId s, sessions.lookup sessionId = some s → s.identifier = sessionId ∧
        ∃ bytes, ks.proteusSessions.lookup sessionId = some bytes ∧
          P.sessionDeserialise identity bytes = .ok s.session) ∧
      ∀ sessionId, sessionId ∈ sessions ↔ sessionId ∈ ks.proteusSessions := by
  have hrow : ∀ row ∈ ks.proteusSessions.entries, ks.proteusSessions.lookup row.1 = some row.2 :=
    fun row hr => AList.mem_lookup_iff.2 hr
  obtain ⟨sessions, h1, h2, h3⟩ := foldlM_restoreSession_spec identity ks.proteusSessions.entries
    (fun row hr => hks _ _ (hrow row hr)) ∅
  refine ⟨sessions, h1, fun sessionId s hlk => ?_, fun sessionId => ?_⟩
  · rcases h2 sessionId s hlk with h | ⟨hid, row, hr, rfl, hrs⟩
    · cases h
    · exact ⟨hid, row.2, hrow row hr, hrs⟩
  · rw [h3]
    constructor
    · rintro (h | ⟨row, hr, rfl⟩)
      · exact absurd h (AList.not_mem_empty _)
      · exact AList.lookup_isSome.1 (by rw [hrow row hr]; rfl)
    · intro h
      obtain ⟨b, hb⟩ := Option.isSome_iff_exists.1 (AList.lookup_isSome.2 h)
      exact .inr ⟨⟨sessionId, b⟩, AList.mem_lookup_iff.1 hb, rfl⟩

/-- A loop of `restore_sessions` that succeeded deserialised every row. -/
theorem foldlM_restoreSession_deserialises (identity : P.IdentityKeyPair)
    (rows : List (Σ _ : SessionIdentifier, Bytes))
    {acc sessions : AList (fun _ : SessionIdentifier => ProteusConversationSession P)}
    (h : rows.foldlM (restoreSession identity) acc = .ok sessions) :
    ∀ row ∈ rows, ∃ s, P.sessionDeserialise identity row.2 = .ok s := by
  induction rows generalizing acc with
  | nil => simp
  | cons row rows ih =>
    rw [List.foldlM_cons] at h
    rcases hd : P.sessionDeserialise identity row.2 with e | s
    · simp [restoreSession, hd, bind, Except.bind, Except.mapError] at h
    · rcases hr : restoreSession identity acc row with e | acc'
      · rw [hr] at h; cases h
      · rw [hr] at h
        exact fun r hr' => (List.mem_cons.1 hr').elim (fun h => h ▸ ⟨s, hd⟩) (ih h r)

/-! ## What a restart needs of the keystore -/

section Restorable

variable (PK_KEY_SIZE SK_KEY_SIZE : Nat)

/-- What a restart needs of the keystore, for a client whose identity is `identity`: the first
row of the identity table has the sizes `find_one` checks and rebuilds `identity`, and every
session row deserialises under it. -/
structure Restorable (identity : P.IdentityKeyPair) (ks : Keystore) : Prop where
  identityRow : ∃ r rest, ks.proteusIdentities = r :: rest ∧ r.pk.length = PK_KEY_SIZE ∧
    r.sk.length = SK_KEY_SIZE ∧ P.fromRawKeyPair r.sk r.pk = identity
  sessionRows : ∀ sessionId bytes, ks.proteusSessions.lookup sessionId = some bytes →
    ∃ s, P.sessionDeserialise identity bytes = .ok s

namespace Restorable

variable {PK_KEY_SIZE SK_KEY_SIZE} {identity : P.IdentityKeyPair} {ks : Keystore}

/-- A write that touches neither the identities nor the sessions. -/
theorem of_eq (h : Restorable PK_KEY_SIZE SK_KEY_SIZE identity ks) {ks' : Keystore}
    (hid : ks'.proteusIdentities = ks.proteusIdentities)
    (hs : ks'.proteusSessions = ks.proteusSessions) :
    Restorable PK_KEY_SIZE SK_KEY_SIZE identity ks' :=
  ⟨hid ▸ h.identityRow, hs ▸ h.sessionRows⟩

theorem removePrekey (h : Restorable PK_KEY_SIZE SK_KEY_SIZE identity ks) (consumed : Option UInt16) :
    Restorable PK_KEY_SIZE SK_KEY_SIZE identity (CoreCrypto.removePrekey consumed ks) :=
  h.of_eq (by cases consumed <;> rfl) (by cases consumed <;> rfl)

theorem sessionSave (h : Restorable PK_KEY_SIZE SK_KEY_SIZE identity ks) {sessionId : SessionIdentifier}
    {bytes : Bytes} (hb : ∃ s, P.sessionDeserialise identity bytes = .ok s) :
    Restorable PK_KEY_SIZE SK_KEY_SIZE identity (ks.sessionSave sessionId bytes) := by
  refine ⟨h.identityRow, fun k b hk => ?_⟩
  by_cases hkid : k = sessionId
  · subst hkid
    rw [Keystore.sessionSave_proteusSessions, AList.lookup_insert] at hk
    cases hk
    exact hb
  · rw [Keystore.sessionSave_proteusSessions, AList.lookup_insert_ne hkid] at hk
    exact h.sessionRows k b hk

theorem sessionRemove (h : Restorable PK_KEY_SIZE SK_KEY_SIZE identity ks)
    {sessionId : SessionIdentifier} {answer : KeystoreAnswer} {ks' : Keystore}
    (hr : ks.sessionRemove sessionId answer = .ok ks') :
    Restorable PK_KEY_SIZE SK_KEY_SIZE identity ks' := by
  obtain ⟨_, -, rfl⟩ := Except.map_eq_ok hr
  refine ⟨h.identityRow, fun k b hk => h.sessionRows k b ?_⟩
  by_cases hkid : k = sessionId
  · subst hkid; simp at hk
  · rwa [AList.lookup_erase_ne hkid] at hk

end Restorable

/-! ## Restarting -/

/-- **Restart.** On a keystore a restart can use, `try_new` writes nothing, rebuilds the
identity, and rebuilds exactly the session rows. -/
theorem Restorable.tryNew_eq {PK_KEY_SIZE SK_KEY_SIZE : Nat} {identity : P.IdentityKeyPair} {ks : Keystore}
    (h : Restorable PK_KEY_SIZE SK_KEY_SIZE identity ks) (fresh : P.IdentityKeyPair) :
    ∃ c, tryNew PK_KEY_SIZE SK_KEY_SIZE fresh ks = (ks, .ok c) ∧ c.proteusIdentity = identity ∧
      (∀ sessionId s, c.proteusSessions.lookup sessionId = some s → s.identifier = sessionId ∧
        ∃ bytes, ks.proteusSessions.lookup sessionId = some bytes ∧
          P.sessionDeserialise identity bytes = .ok s.session) ∧
      ∀ sessionId, sessionId ∈ c.proteusSessions ↔ sessionId ∈ ks.proteusSessions := by
  obtain ⟨r, rest, hr, hpk, hsk, rfl⟩ := h.identityRow
  obtain ⟨sessions, hs, hlk, hmem⟩ := restoreSessions_of_rows _ h.sessionRows
  refine ⟨⟨_, sessions⟩, ?_, rfl, hlk, hmem⟩
  simp only [tryNew, loadOrCreateIdentity, Mut.bind_apply, Mut.get_apply, Mut.lift_apply,
    Keystore.identityFindOne, hr, hpk, hsk, ne_eq, not_true_eq_false, ite_false, Except.mapError,
    Mut.pure_apply, hs]

/-- On a table whose first row is `r`, `load_or_create_identity` writes nothing, and returns
the row's key pair once the row's sizes check. -/
theorem loadOrCreateIdentity_of_cons {fresh kp : P.IdentityKeyPair} {ks ks' : Keystore}
    {r : ProteusIdentity} {rest : List ProteusIdentity} (hr : ks.proteusIdentities = r :: rest)
    (h : loadOrCreateIdentity PK_KEY_SIZE SK_KEY_SIZE fresh ks = (ks', .ok kp)) :
    ks' = ks ∧ r.pk.length = PK_KEY_SIZE ∧ r.sk.length = SK_KEY_SIZE ∧ kp = P.fromRawKeyPair r.sk r.pk := by
  simp only [loadOrCreateIdentity, Mut.bind_apply, Mut.get_apply, Mut.lift_apply,
    Keystore.identityFindOne, hr] at h
  split_ifs at h with hpk hsk <;> simp_all [Except.mapError, Mut.pure_apply]

/-- A client `try_new` built leaves a keystore a restart can use. -/
theorem tryNew_restorable (hround : P.RawKeyPairRoundTrip) (hsizes : P.KeySizes PK_KEY_SIZE SK_KEY_SIZE)
    {fresh : P.IdentityKeyPair} {ks ks' : Keystore} {c : ProteusCentral P}
    (h : tryNew PK_KEY_SIZE SK_KEY_SIZE fresh ks = (ks', .ok c)) :
    Restorable PK_KEY_SIZE SK_KEY_SIZE c.proteusIdentity ks' := by
  obtain ⟨hload, hrestore⟩ := tryNew_eq_ok _ _ h
  refine ⟨?_, fun sessionId bytes hb => foldlM_restoreSession_deserialises _ _ hrestore
    ⟨sessionId, bytes⟩ (AList.mem_lookup_iff.1 hb)⟩
  cases hr : ks.proteusIdentities with
  | nil =>
    obtain ⟨pk, hpk, hkp, hrow⟩ := loadOrCreateIdentity_of_nil _ _ hr hload
    exact ⟨_, [], hrow, (hsizes _ _ hpk).1, (hsizes _ _ hpk).2, by rw [hkp]; exact hround _ _ hpk⟩
  | cons r rest =>
    obtain ⟨rfl, hpk, hsk, hkp⟩ := loadOrCreateIdentity_of_cons _ _ hr hload
    exact ⟨r, rest, hr, hpk, hsk, hkp.symm⟩

/-! ## Every call keeps the keystore restorable -/

theorem encrypt_proteusIdentity (sessionId : SessionIdentifier) (plaintext : Bytes)
    (c : ProteusCentral P) : (encrypt sessionId plaintext c).1.proteusIdentity = c.proteusIdentity := by
  unfold encrypt; split <;> rfl

theorem encryptBatchedLoop_proteusIdentity (plaintext : Bytes) (sessions : List SessionIdentifier)
    (acc : AList (fun _ : String => Bytes)) (c : ProteusCentral P) :
    (encryptBatchedLoop plaintext sessions acc c).1.proteusIdentity = c.proteusIdentity := by
  induction sessions generalizing acc c with
  | nil => rfl
  | cons sessionId sessions ih =>
    unfold encryptBatchedLoop
    split
    · exact ih acc c
    · split
      · rfl
      · exact ih _ _

/-- The invariant of a client over its keystore: the keystore is one a restart can use, and
every session in memory belongs to the client's identity. -/
def WorldRestorable (w : ProteusWorld P) : Prop :=
  Restorable PK_KEY_SIZE SK_KEY_SIZE w.1.proteusIdentity w.2 ∧
    SessionsOwned w.1.proteusIdentity w.1.proteusSessions

/-- **Step lemma.** Every session call keeps the identity, a keystore a restart can use, and
sessions of the client's identity: `session_save` writes only the serialisation of a session of
that identity, which `Session::deserialise` reads back under it. -/
theorem run_restorable (hrt : P.SessionRoundTrip) (call : ProteusCall P) :
    Mut.Preserves (WorldRestorable PK_KEY_SIZE SK_KEY_SIZE) call.run := by
  cases call with
  | sessionFromPrekey sessionId key =>
    intro w h
    rcases sessionFromPrekey_cases sessionId key w with ⟨e, hs⟩ | ⟨_, session, hi, hs⟩ <;>
      show WorldRestorable _ _ (sessionFromPrekey sessionId key w).1 <;> rw [hs]
    · exact h
    · exact ⟨h.1, h.2.insert (hrt.fromPrekey _ _ _ hi)⟩
  | sessionFromMessage sessionId envelope =>
    refine .bind (fun w h => ?_) fun _ => .pure _
    rcases sessionFromMessage_cases sessionId envelope w with ⟨e, hs⟩ | ⟨_, session, _, consumed, hi, hs⟩ <;>
      rw [hs]
    · exact h
    · exact ⟨h.1.removePrekey consumed, h.2.insert (hrt.fromMessage _ _ _ _ _ hi)⟩
  | sessionSave sessionId =>
    intro w h
    rcases sessionSave_cases sessionId w with ⟨e, hs⟩ | ⟨-, hs⟩ | ⟨s, bytes, hs, hb, hsave⟩
    · show WorldRestorable _ _ (sessionSave sessionId w).1; rw [hs]; exact h
    · show WorldRestorable _ _ (sessionSave sessionId w).1; rw [hs]; exact h
    · show WorldRestorable _ _ (sessionSave sessionId w).1
      rw [hsave]
      exact ⟨h.1.sessionSave ⟨s.session, h.2 _ _ hs ▸ hrt.readBack _ _ hb⟩, h.2⟩
  | sessionDelete sessionId answer =>
    intro w h
    show WorldRestorable PK_KEY_SIZE SK_KEY_SIZE (sessionDelete sessionId answer w).1
    unfold sessionDelete
    split
    · exact ⟨h.1.sessionRemove ‹_›, h.2.erase sessionId⟩
    · exact h
  | encrypt sessionId plaintext =>
    refine .bind (fun w h => ⟨?_, encrypt_owned hrt sessionId plaintext w.1 h.2⟩) fun _ => .pure _
    show Restorable PK_KEY_SIZE SK_KEY_SIZE (encrypt sessionId plaintext w.1).1.proteusIdentity w.2
    rw [encrypt_proteusIdentity]
    exact h.1
  | decrypt sessionId ciphertext =>
    refine .bind (fun w h => ?_) fun _ => .pure _
    show WorldRestorable PK_KEY_SIZE SK_KEY_SIZE (decrypt sessionId ciphertext w).1
    unfold decrypt
    split
    · next session hs =>
      obtain ⟨consumed, hks⟩ := ProteusConversationSession.decrypt_keystore session w.2 ciphertext
      have hid := ProteusConversationSession.decrypt_localIdentity hrt session w.2 ciphertext
      rcases hd : session.decrypt w.2 ciphertext with ⟨⟨session', ks'⟩, r⟩
      rw [hd] at hks hid
      subst hks
      exact ⟨h.1.removePrekey consumed, h.2.replace hs hid⟩
    · exact h
  | encryptBatched sessions plaintext =>
    refine .bind (fun w h => ⟨?_, encryptBatchedLoop_owned hrt plaintext sessions ∅ w.1 h.2⟩)
      fun _ => .pure _
    show Restorable PK_KEY_SIZE SK_KEY_SIZE
      (encryptBatchedLoop plaintext sessions ∅ w.1).1.proteusIdentity w.2
    rw [encryptBatchedLoop_proteusIdentity]
    exact h.1

theorem newPrekey_restorable (id : UInt16) (prekey bundle : Except ProteusError Bytes) :
    Mut.Preserves (WorldRestorable PK_KEY_SIZE SK_KEY_SIZE) (newPrekey (P := P) id prekey bundle) :=
  .bind (.lift _) fun _ => .bind (.lift _) fun _ =>
    .bind (.modify fun _ h => ⟨h.1.of_eq rfl rfl, h.2⟩) fun _ => .pure _

/-- The session loop of the migration saves only rows that deserialise under its identity. -/
theorem migrateSessions_restorable {identity : P.IdentityKeyPair}
    (entries : List (String × Bytes)) {ks : Keystore}
    (h : Restorable PK_KEY_SIZE SK_KEY_SIZE identity ks) :
    Restorable PK_KEY_SIZE SK_KEY_SIZE identity (migrateSessions identity entries ks) := by
  induction entries generalizing ks with
  | nil => exact h
  | cons entry entries ih =>
    obtain ⟨sessionId, rawSession⟩ := entry
    simp only [migrateSessions]
    split
    · exact ih h
    · split
      · rename_i hok
        rcases hd : P.sessionDeserialise identity rawSession with e | s <;> rw [hd] at hok
        · cases hok
        · exact ih (h.sessionSave ⟨s, hd⟩)
      · exact ih h

theorem migrateEntries_restorable (identity : P.IdentityKeyPair) (folder : CryptoboxFolder) :
    Mut.Preserves (Restorable PK_KEY_SIZE SK_KEY_SIZE identity) (migrateEntries identity folder) :=
  .bind (.lift _) fun entries =>
    .bind (.modify fun _ h => migrateSessions_restorable _ _ entries h) fun _ =>
      .bind (.lift _) fun entries => fun ks h =>
        h.of_eq (migratePrekeys_preserves (· = ks.proteusIdentities) entries ks rfl)
          (migratePrekeys_proteusSessions entries ks)

/-- With an identity stored, the migration runs under it and writes no identity, so it keeps
a keystore a restart can use. -/
theorem cryptoboxMigrate_restorable {identity : P.IdentityKeyPair} (cryptoboxMigrateFeature : Bool)
    (folder : CryptoboxFolder) (fresh : P.IdentityKeyPair) :
    Mut.Preserves (Restorable PK_KEY_SIZE SK_KEY_SIZE identity)
      (cryptoboxMigrate PK_KEY_SIZE SK_KEY_SIZE cryptoboxMigrateFeature folder fresh) := by
  intro ks h
  obtain ⟨r, rest, hr, -, -, hid⟩ := h.identityRow
  unfold cryptoboxMigrate
  split
  · rcases migrateIdentity_of_cons (P := P) PK_KEY_SIZE SK_KEY_SIZE folder hr with ⟨e, he⟩ | he <;>
      simp only [cryptoboxMigrateImpl, Mut.bind_apply, he, hid, Mut.pure_apply]
    · exact h
    · exact migrateEntries_restorable _ _ identity folder ks h
  · exact h

/-- **A saved session comes back.** From a client whose keystore a restart can use and whose
sessions are its own, a `session_save` that returned `Ok` for a session in memory wrote what
`try_new` then restores under the id: that session, as it was. -/
theorem WorldRestorable.sessionSave_restores (hrt : P.SessionRoundTrip) {w w' : ProteusWorld P}
    (h : WorldRestorable PK_KEY_SIZE SK_KEY_SIZE w) {sessionId : SessionIdentifier}
    {s : ProteusConversationSession P} (hs : w.1.proteusSessions.lookup sessionId = some s)
    (hsave : sessionSave sessionId w = (w', .ok ())) (fresh : P.IdentityKeyPair) :
    ∃ c', tryNew PK_KEY_SIZE SK_KEY_SIZE fresh w'.2 = (w'.2, .ok c') ∧
      c'.proteusIdentity = w.1.proteusIdentity ∧
      c'.proteusSessions.lookup sessionId = some ⟨sessionId, s.session⟩ := by
  rcases sessionSave_cases sessionId w with ⟨e, he⟩ | ⟨hnone, -⟩ | ⟨s', bytes, hs', hb, he⟩
  · rw [he] at hsave; cases hsave
  · rw [hs] at hnone; cases hnone
  rw [hs, Option.some.injEq] at hs'
  subst hs'
  rw [he] at hsave
  cases hsave
  -- the session belongs to the client, so its row reads back under the client's identity
  have hdes : P.sessionDeserialise w.1.proteusIdentity bytes = .ok s.session :=
    h.2 _ _ hs ▸ hrt.readBack _ _ hb
  have hres : Restorable PK_KEY_SIZE SK_KEY_SIZE w.1.proteusIdentity
      (w.2.sessionSave sessionId bytes) := h.1.sessionSave ⟨_, hdes⟩
  obtain ⟨c', htry, hid, hlk, hmem⟩ := hres.tryNew_eq fresh
  obtain ⟨s', hs'⟩ := Option.isSome_iff_exists.1
    (AList.lookup_isSome.2 ((hmem sessionId).2 (by simp [Keystore.sessionSave])))
  obtain ⟨hid', bytes', hrow, hdes'⟩ := hlk sessionId s' hs'
  simp only [Keystore.sessionSave_proteusSessions, AList.lookup_insert, Option.some.injEq] at hrow
  subst hrow
  rw [hdes, Except.ok.injEq] at hdes'
  refine ⟨c', htry, hid, ?_⟩
  rw [hs']
  cases s'
  cases hid'
  cases hdes'
  rfl

end Restorable

end ProteusCentral

/-! ## The Proteus API of `CoreCrypto` -/

/-- The Proteus half of `CoreCrypto`: its `proteus` field, and the keystore of the MLS backend
it borrows. -/
structure CoreCryptoProteus (P : ProteusLib) where
  proteus : Option (ProteusCentral P)
  keystore : Keystore

namespace CoreCryptoProteus

/-- `self.proteus.as_mut().ok_or(CryptoError::ProteusNotInitialized)?`, then the call on the
client and the keystore: the gate in front of every `proteus_*` call but `proteus_init` and
`proteus_cryptobox_migrate`. -/
def withProteus {α : Type} (m : Mut (ProteusWorld P) α) : Mut (CoreCryptoProteus P) α := fun w =>
  match w.proteus with
  | none => (w, .error .proteusNotInitialized)
  | some c => (⟨some (m (c, w.keystore)).1.1, (m (c, w.keystore)).1.2⟩, (m (c, w.keystore)).2)

/-- `CoreCrypto::proteus_session_from_prekey`. -/
def proteusSessionFromPrekey (sessionId : SessionIdentifier) (prekey : Bytes) :
    Mut (CoreCryptoProteus P) Unit :=
  withProteus (ProteusCentral.sessionFromPrekey sessionId prekey)

/-- `CoreCrypto::proteus_session_save`. -/
def proteusSessionSave (sessionId : SessionIdentifier) : Mut (CoreCryptoProteus P) Unit :=
  withProteus (ProteusCentral.sessionSave sessionId)

/-- `CoreCrypto::proteus_session_delete`. -/
def proteusSessionDelete (sessionId : SessionIdentifier) (answer : KeystoreAnswer) :
    Mut (CoreCryptoProteus P) Unit :=
  withProteus (ProteusCentral.sessionDelete sessionId answer)

/-- `CoreCrypto::proteus_session`. -/
def proteusSession (sessionId : SessionIdentifier) :
    Mut (CoreCryptoProteus P) (Option (ProteusConversationSession P)) :=
  withProteus fun w => (w, .ok (w.1.proteusSessions.lookup sessionId))

/-- `CoreCrypto::proteus_session_exists`. -/
def proteusSessionExists (sessionId : SessionIdentifier) : Mut (CoreCryptoProteus P) Bool :=
  withProteus fun w => (w, .ok (w.1.sessionExists sessionId))

/-- `CoreCrypto::proteus_decrypt`. -/
def proteusDecrypt (sessionId : SessionIdentifier) (ciphertext : Bytes) :
    Mut (CoreCryptoProteus P) Bytes :=
  withProteus (ProteusCentral.decrypt sessionId ciphertext)

/-- `CoreCrypto::proteus_encrypt`. -/
def proteusEncrypt (sessionId : SessionIdentifier) (plaintext : Bytes) :
    Mut (CoreCryptoProteus P) Bytes :=
  withProteus (Mut.zoomFst (ProteusCentral.encrypt sessionId plaintext))

/-- `CoreCrypto::proteus_encrypt_batched`. -/
def proteusEncryptBatched (sessions : List SessionIdentifier) (plaintext : Bytes) :
    Mut (CoreCryptoProteus P) (AList (fun _ : String => Bytes)) :=
  withProteus (Mut.zoomFst (ProteusCentral.encryptBatched sessions plaintext))

/-- `CoreCrypto::proteus_new_prekey`. -/
def proteusNewPrekey (prekeyId : UInt16) (prekey bundle : Except ProteusError Bytes) :
    Mut (CoreCryptoProteus P) Bytes :=
  withProteus (ProteusCentral.newPrekey prekeyId prekey bundle)

/-- `CoreCrypto::proteus_identity`. -/
def proteusIdentity : Mut (CoreCryptoProteus P) P.IdentityKeyPair :=
  withProteus fun w => (w, .ok w.1.proteusIdentity)

/-- `CoreCrypto::proteus_fingerprint`: the hex fingerprint of the identity's public key. -/
def proteusFingerprint : Mut (CoreCryptoProteus P) String :=
  withProteus fun w => (w, .ok (P.fingerprint w.1.proteusIdentity))

section Init

variable (PK_KEY_SIZE SK_KEY_SIZE : Nat)

/-- `CoreCrypto::proteus_init` (`proteus.rs:81-87`), given the key pair `create_identity` would
draw. What `try_new` wrote stays when it then fails; the client is set only when it succeeds,
and a client already there is replaced, not refused. -/
def proteusInit (fresh : P.IdentityKeyPair) : Mut (CoreCryptoProteus P) Unit := fun w =>
  match ProteusCentral.tryNew PK_KEY_SIZE SK_KEY_SIZE fresh w.keystore with
  | (ks, .ok c) => (⟨some c, ks⟩, .ok ())
  | (ks, .error e) => (⟨w.proteus, ks⟩, .error e)

/-- `CoreCrypto::proteus_cryptobox_migrate`: no gate, the keystore only. -/
def proteusCryptoboxMigrate (cryptoboxMigrateFeature : Bool) (folder : CryptoboxFolder)
    (fresh : P.IdentityKeyPair) : Mut (CoreCryptoProteus P) Unit := fun w =>
  (⟨w.proteus, (ProteusCentral.cryptoboxMigrate PK_KEY_SIZE SK_KEY_SIZE cryptoboxMigrateFeature
      folder fresh w.keystore).1⟩,
    (ProteusCentral.cryptoboxMigrate PK_KEY_SIZE SK_KEY_SIZE cryptoboxMigrateFeature folder fresh
      w.keystore).2)

end Init

/-- Before `proteus_init`, every gated call returns `ProteusNotInitialized` and changes
nothing. -/
@[simp] theorem withProteus_none {α : Type} (m : Mut (ProteusWorld P) α) (ks : Keystore) :
    withProteus m ⟨none, ks⟩ = (⟨none, ks⟩, .error .proteusNotInitialized) := rfl

@[simp] theorem withProteus_some {α : Type} (m : Mut (ProteusWorld P) α) (c : ProteusCentral P)
    (ks : Keystore) :
    withProteus m ⟨some c, ks⟩ = (⟨some (m (c, ks)).1.1, (m (c, ks)).1.2⟩, (m (c, ks)).2) := rfl

end CoreCryptoProteus

/-! ## Runs -/

/-- A call of the Proteus API of `CoreCrypto` that can change state. -/
inductive ProteusApiCall (P : ProteusLib) where
  | proteusInit (fresh : P.IdentityKeyPair)
  /-- `proteus_session_from_prekey`, `proteus_session_from_message`, `proteus_session_save`,
  `proteus_session_delete`, `proteus_encrypt`, `proteus_decrypt` and
  `proteus_encrypt_batched`: the session call behind the gate -/
  | session (call : ProteusCall P)
  | proteusNewPrekey (prekeyId : UInt16) (prekey bundle : Except ProteusError Bytes)
  | proteusCryptoboxMigrate (cryptoboxMigrateFeature : Bool) (folder : CryptoboxFolder)
      (fresh : P.IdentityKeyPair)

section Runs

variable (PK_KEY_SIZE SK_KEY_SIZE : Nat)

/-- Run a call, forgetting what it returns. -/
def ProteusApiCall.run : ProteusApiCall P → Mut (CoreCryptoProteus P) Unit
  | .proteusInit fresh => CoreCryptoProteus.proteusInit PK_KEY_SIZE SK_KEY_SIZE fresh
  | .session call => CoreCryptoProteus.withProteus call.run
  | .proteusNewPrekey prekeyId prekey bundle => do
    let _ ← CoreCryptoProteus.proteusNewPrekey prekeyId prekey bundle
  | .proteusCryptoboxMigrate feature folder fresh =>
    CoreCryptoProteus.proteusCryptoboxMigrate PK_KEY_SIZE SK_KEY_SIZE feature folder fresh

/-- The calls one after the other, each on the state the one before left. -/
def runApi (calls : List (ProteusApiCall P)) (w : CoreCryptoProteus P) : CoreCryptoProteus P :=
  calls.foldl (fun w call => (call.run PK_KEY_SIZE SK_KEY_SIZE w).1) w

/-- States reached from any keystore, with no client yet, by any sequence of calls, whatever
each returned. -/
inductive ApiReachable : CoreCryptoProteus P → Prop
  | start (ks : Keystore) : ApiReachable ⟨none, ks⟩
  | call {w : CoreCryptoProteus P} (call : ProteusApiCall P) :
      ApiReachable w → ApiReachable (call.run PK_KEY_SIZE SK_KEY_SIZE w).1

theorem ApiReachable.runApi {w : CoreCryptoProteus P} (hw : ApiReachable PK_KEY_SIZE SK_KEY_SIZE w)
    (calls : List (ProteusApiCall P)) :
    ApiReachable PK_KEY_SIZE SK_KEY_SIZE (runApi PK_KEY_SIZE SK_KEY_SIZE calls w) := by
  induction calls generalizing w with
  | nil => exact hw
  | cons call calls ih => exact ih (.call call hw)

/-- Once there is a client, the keystore is one a restart can use and the client's sessions are
its own. -/
def ApiRestorable (w : CoreCryptoProteus P) : Prop :=
  ∀ c, w.proteus = some c → ProteusCentral.WorldRestorable PK_KEY_SIZE SK_KEY_SIZE (c, w.keystore)

theorem withProteus_restorable {α : Type} {m : Mut (ProteusWorld P) α}
    (hm : Mut.Preserves (ProteusCentral.WorldRestorable PK_KEY_SIZE SK_KEY_SIZE) m) :
    Mut.Preserves (ApiRestorable PK_KEY_SIZE SK_KEY_SIZE) (CoreCryptoProteus.withProteus m) := by
  rintro ⟨_ | c, ks⟩ h
  · exact h
  · rintro c' ⟨⟩
    exact hm (c, ks) (h c rfl)

section Laws

variable {PK_KEY_SIZE SK_KEY_SIZE} (hround : P.RawKeyPairRoundTrip)
  (hsizes : P.KeySizes PK_KEY_SIZE SK_KEY_SIZE) (hrt : P.SessionRoundTrip)
include hround hsizes hrt

/-- **Step lemma.** Every call keeps the keystore one a restart can use, once there is a
client. A `proteus_init` on a client cannot fail, since the restart succeeds. -/
theorem ProteusApiCall.run_restorable (call : ProteusApiCall P) :
    Mut.Preserves (ApiRestorable PK_KEY_SIZE SK_KEY_SIZE) (call.run PK_KEY_SIZE SK_KEY_SIZE) := by
  cases call with
  | proteusInit fresh =>
    intro w h
    show ApiRestorable PK_KEY_SIZE SK_KEY_SIZE (CoreCryptoProteus.proteusInit PK_KEY_SIZE SK_KEY_SIZE fresh w).1
    unfold CoreCryptoProteus.proteusInit
    split
    · next ks c hc =>
      rintro c' ⟨⟩
      exact ⟨ProteusCentral.tryNew_restorable PK_KEY_SIZE SK_KEY_SIZE hround hsizes hc,
        ProteusCentral.tryNew_owned hrt PK_KEY_SIZE SK_KEY_SIZE hc⟩
    · next ks e he =>
      intro c hc
      obtain ⟨c', hok, -⟩ := (h c hc).1.tryNew_eq fresh
      rw [hok] at he
      cases he
  | session call => exact withProteus_restorable _ _ (ProteusCentral.run_restorable _ _ hrt call)
  | proteusNewPrekey prekeyId prekey bundle =>
    exact .bind (withProteus_restorable _ _ (ProteusCentral.newPrekey_restorable _ _ _ _ _))
      fun _ => .pure _
  | proteusCryptoboxMigrate feature folder fresh =>
    intro w h c hc
    exact ⟨ProteusCentral.cryptoboxMigrate_restorable _ _ feature folder fresh w.keystore (h c hc).1,
      (h c hc).2⟩

/-- **Run lemma.** In every reachable state with a client, the keystore is one a restart can
use. -/
theorem ApiReachable.restorable {w : CoreCryptoProteus P} (hw : ApiReachable PK_KEY_SIZE SK_KEY_SIZE w) :
    ApiRestorable PK_KEY_SIZE SK_KEY_SIZE w := by
  induction hw with
  | start ks => intro c hc; cases hc
  | call call _ ih => exact ProteusApiCall.run_restorable hround hsizes hrt call _ ih

/-- **Restart.** In every reachable state with a client, `proteus_init`, on this client or in
a new process on the same keystore, succeeds and writes nothing; the new client has the same
identity, and its sessions are exactly the session rows of the keystore, each under its own
id and as `Session::deserialise` reads its row. -/
theorem reachable_proteusInit_restores {w : CoreCryptoProteus P}
    (hw : ApiReachable PK_KEY_SIZE SK_KEY_SIZE w) {c : ProteusCentral P} (hc : w.proteus = some c)
    (proteus : Option (ProteusCentral P)) (fresh : P.IdentityKeyPair) :
    ∃ c', CoreCryptoProteus.proteusInit PK_KEY_SIZE SK_KEY_SIZE fresh ⟨proteus, w.keystore⟩ =
        (⟨some c', w.keystore⟩, .ok ()) ∧
      c'.proteusIdentity = c.proteusIdentity ∧
      (∀ sessionId s, c'.proteusSessions.lookup sessionId = some s → s.identifier = sessionId ∧
        ∃ bytes, w.keystore.proteusSessions.lookup sessionId = some bytes ∧
          P.sessionDeserialise c.proteusIdentity bytes = .ok s.session) ∧
      ∀ sessionId, sessionId ∈ c'.proteusSessions ↔ sessionId ∈ w.keystore.proteusSessions := by
  obtain ⟨c', h, hid, hlk, hmem⟩ := (hw.restorable hround hsizes hrt c hc).1.tryNew_eq fresh
  exact ⟨c', by simp only [CoreCryptoProteus.proteusInit, h], hid, hlk, hmem⟩

/-- **Saved sessions come back.** In every reachable state with a client, once
`proteus_session_save` returned `Ok` for a session in memory, `proteus_init` on the keystore it
left, on this client or in a new process, restores that very session under its id. -/
theorem sessionSave_survives_restart {w w' : CoreCryptoProteus P}
    (hw : ApiReachable PK_KEY_SIZE SK_KEY_SIZE w) {c : ProteusCentral P} (hc : w.proteus = some c)
    (sessionId : SessionIdentifier) {s : ProteusConversationSession P}
    (hs : c.proteusSessions.lookup sessionId = some s)
    (hsave : CoreCryptoProteus.proteusSessionSave sessionId w = (w', .ok ()))
    (proteus : Option (ProteusCentral P)) (fresh : P.IdentityKeyPair) :
    ∃ c', CoreCryptoProteus.proteusInit PK_KEY_SIZE SK_KEY_SIZE fresh ⟨proteus, w'.keystore⟩ =
        (⟨some c', w'.keystore⟩, .ok ()) ∧
      c'.proteusSessions.lookup sessionId = some ⟨sessionId, s.session⟩ := by
  obtain ⟨p, ks⟩ := w
  cases hc
  rcases hr : ProteusCentral.sessionSave sessionId (c, ks) with ⟨w₁, res⟩
  simp only [CoreCryptoProteus.proteusSessionSave, CoreCryptoProteus.withProteus_some, hr,
    Prod.mk.injEq] at hsave
  obtain ⟨rfl, rfl⟩ := hsave
  obtain ⟨c', h, -, hlk⟩ :=
    (hw.restorable hround hsizes hrt c rfl).sessionSave_restores _ _ hrt hs hr fresh
  exact ⟨c', by simp only [CoreCryptoProteus.proteusInit, h], hlk⟩

end Laws

/-- A client initialized on an empty keystore, with a session for `"alice"` opened from a
prekey and not saved. -/
def aliceOpened : CoreCryptoProteus tallyProteus :=
  runApi 32 64 [.proteusInit (), .session (.sessionFromPrekey "alice" [])] ⟨none, Keystore.empty⟩

theorem aliceOpened_reachable : ApiReachable 32 64 aliceOpened :=
  (ApiReachable.start _).runApi 32 64 _

/-- Restarting `aliceOpened`: the client comes back with no session, since `"alice"` was never
saved. -/
theorem aliceOpened_restart :
    ∃ c, aliceOpened.proteus = some c ∧
      ∃ c', CoreCryptoProteus.proteusInit 32 64 () ⟨none, aliceOpened.keystore⟩ =
          (⟨some c', aliceOpened.keystore⟩, .ok ()) ∧
        c'.proteusIdentity = c.proteusIdentity ∧
        (∀ sessionId s, c'.proteusSessions.lookup sessionId = some s → s.identifier = sessionId ∧
          ∃ bytes, aliceOpened.keystore.proteusSessions.lookup sessionId = some bytes ∧
            tallyProteus.sessionDeserialise c.proteusIdentity bytes = .ok s.session) ∧
        ∀ sessionId, sessionId ∈ c'.proteusSessions ↔ sessionId ∈ aliceOpened.keystore.proteusSessions :=
  ⟨_, rfl, reachable_proteusInit_restores (fun _ _ _ => rfl) tallyProteus_keySizes
    tallyProteus_sessionRoundTrip aliceOpened_reachable rfl none ()⟩

/-- Saving `"alice"` in `aliceOpened`, then restarting: the session comes back. -/
theorem alice_saved_session_restored :
    ∃ c s w', aliceOpened.proteus = some c ∧ c.proteusSessions.lookup "alice" = some s ∧
      CoreCryptoProteus.proteusSessionSave "alice" aliceOpened = (w', .ok ()) ∧
      ∃ c', CoreCryptoProteus.proteusInit 32 64 () ⟨none, w'.keystore⟩ =
          (⟨some c', w'.keystore⟩, .ok ()) ∧
        c'.proteusSessions.lookup "alice" = some ⟨"alice", s.session⟩ :=
  ⟨_, _, _, rfl, rfl, rfl, sessionSave_survives_restart (fun _ _ _ => rfl) tallyProteus_keySizes
    tallyProteus_sessionRoundTrip aliceOpened_reachable rfl "alice" rfl rfl none ()⟩

end Runs

end CoreCrypto
