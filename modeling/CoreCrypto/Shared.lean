import CoreCrypto.Mls.Central
import CoreCrypto.Proteus.Restart

/-!
# MLS and Proteus over one keystore

`CoreCrypto` (not in the sources; `proteus.rs` reads its `mls` and `proteus` fields) holds the
MLS central and the Proteus client over the one keystore of the MLS backend.

* **Each half keeps to its own tables.** Every MLS call commutes with replacing the identity,
  session and prekey tables (`CentralCall.run_commutes`), and every Proteus call with
  replacing `mls_groups` and `mls_pending_groups` (`ProteusApiCall.run_commutes`): neither
  reads nor writes the other's tables (`CentralCall.run_proteusTables`,
  `ProteusApiCall.run_mlsTables`).
* **Both halves.** So over any interleaving of MLS and Proteus calls from
  `MlsCentral::try_new`, each half keeps what it keeps alone: every conversation and MLS row
  stays filed under its own id, and once there is a Proteus client a restart restores exactly
  the session rows (`reachable_both_halves`).
* **Two systems side by side.** Any interleaving ends where the MLS central, run on the MLS
  calls alone, and the Proteus API, run on the Proteus calls alone, end, each on its own
  tables; and every call returns what it returns there (`runCoreCrypto_eq_join`).
-/

namespace CoreCrypto

/-- The identity, session and prekey tables. -/
abbrev ProteusTables : Type :=
  List ProteusIdentity × AList (fun _ : SessionIdentifier => Bytes) × AList (fun _ : UInt16 => Bytes)

/-- The `mls_groups` and `mls_pending_groups` tables. -/
abbrev MlsTables : Type :=
  AList (fun _ : ConversationId => Bytes) × AList (fun _ : ConversationId => Bytes × Bytes)

namespace Keystore

/-- The Proteus tables of the keystore. -/
def proteusTables (ks : Keystore) : ProteusTables :=
  (ks.proteusIdentities, ks.proteusSessions, ks.proteusPrekeys)

/-- The MLS tables of the keystore. -/
def mlsTables (ks : Keystore) : MlsTables := (ks.mlsGroups, ks.mlsPendingGroups)

/-- The keystore with its Proteus tables replaced by `t`. -/
def withProteusTables (t : ProteusTables) (ks : Keystore) : Keystore :=
  { ks with proteusIdentities := t.1, proteusSessions := t.2.1, proteusPrekeys := t.2.2 }

/-- The keystore with its MLS tables replaced by `m`. -/
def withMlsTables (m : MlsTables) (ks : Keystore) : Keystore :=
  { ks with mlsGroups := m.1, mlsPendingGroups := m.2 }

@[simp] theorem withMlsTables_proteusSessions (m : MlsTables) (ks : Keystore) :
    (withMlsTables m ks).proteusSessions = ks.proteusSessions := rfl

@[simp] theorem withMlsTables_proteusPrekeys (m : MlsTables) (ks : Keystore) :
    (withMlsTables m ks).proteusPrekeys = ks.proteusPrekeys := rfl

@[simp] theorem withMlsTables_proteusIdentities (m : MlsTables) (ks : Keystore) :
    (withMlsTables m ks).proteusIdentities = ks.proteusIdentities := rfl

theorem identitySave_withMlsTables (m : MlsTables) (ks : Keystore) (identity : ProteusIdentity) :
    (withMlsTables m ks).identitySave identity = withMlsTables m (ks.identitySave identity) := by
  by_cases h : ks.proteusIdentities.length = 1 <;>
    simp only [identitySave, identityCount_eq, withMlsTables_proteusIdentities, h, if_true, if_false]
  rfl

theorem removePrekey_withMlsTables (m : MlsTables) (consumed : Option UInt16) (ks : Keystore) :
    removePrekey consumed (withMlsTables m ks) = withMlsTables m (removePrekey consumed ks) := by
  cases consumed <;> rfl

end Keystore

/-! ## MLS keeps to its tables -/

section MlsCommutes

variable {L : OpenMls} (t : ProteusTables)

namespace MlsConversation

theorem persistRow_commutes (id : ConversationId) (buf : Bytes) (answer : KeystoreAnswer) :
    Mut.Commutes (Keystore.withProteusTables t) (persistRow id buf answer) :=
  fun _ => by cases answer <;> rfl

theorem create_commutes (id : ConversationId) (hash : Except CryptoError Bytes)
    (config : MlsConversationConfiguration L) (answer : KeystoreAnswer) :
    Mut.Commutes (Keystore.withProteusTables t) (create id hash config answer) :=
  .bind (.lift _) fun _ => .bind (.lift _) fun _ => .bind (.lift _) fun _ => .bind (.lift _) fun _ =>
    .bind (persistRow_commutes t _ _ _) fun _ => .pure _

theorem fromWelcomeMessage_commutes (welcome : L.Welcome)
    (config : MlsConversationConfiguration L) (answer : KeystoreAnswer) :
    Mut.Commutes (Keystore.withProteusTables t) (fromWelcomeMessage welcome config answer) :=
  .bind (.lift _) fun _ => .bind (.lift _) fun _ =>
    .bind (persistRow_commutes t _ _ _) fun _ => .pure _

theorem fromMlsGroup_commutes (group : MlsGroup L) (config : MlsConversationConfiguration L)
    (answer : KeystoreAnswer) :
    Mut.Commutes (Keystore.withProteusTables t) (fromMlsGroup group config answer) :=
  .bind (.lift _) fun _ => .bind (persistRow_commutes t _ _ _) fun _ => .pure _

theorem groupCall_commutes {α : Type} (f : L.GroupState → Except MlsError (L.GroupState × α)) :
    Mut.Commutes (Mut.onSnd (Keystore.withProteusTables t)) (groupCall f) := fun w => by
  dsimp only [groupCall, Mut.onSnd]
  split <;> rfl

theorem persistWhenChanged_commutes (answer : KeystoreAnswer) :
    Mut.Commutes (Mut.onSnd (Keystore.withProteusTables t)) (persistWhenChanged (L := L) answer) := by
  refine .bind (fun _ => rfl) fun b => ?_
  cases b
  · exact .pure _
  · refine .bind (fun w => ?_) fun buf w => by cases answer <;> rfl
    dsimp only [groupSave, Mut.onSnd]
    split <;> rfl

theorem commitAndMerge_commutes {α : Type} (f : L.GroupState → Except MlsError (L.GroupState × α)) :
    Mut.Commutes (Mut.onSnd (Keystore.withProteusTables t)) (commitAndMerge f) :=
  .bind (groupCall_commutes t f) fun _ => .bind (groupCall_commutes t _) fun _ => .pure _

theorem run_commutes (call : ConversationCall L) :
    Mut.Commutes (Mut.onSnd (Keystore.withProteusTables t)) call.run := by
  cases call with
  | addMembers ms answer =>
    exact .bind (.bind (commitAndMerge_commutes t _) fun _ =>
      .bind (persistWhenChanged_commutes t answer) fun _ => .pure _) fun _ => .pure _
  | removeMembers ms answer =>
    exact .bind (.bind (fun _ => rfl) fun _ =>
      .bind (.bind (commitAndMerge_commutes t _) fun _ => .pure _) fun _ =>
        .bind (persistWhenChanged_commutes t answer) fun _ => .pure _) fun _ => .pure _
  | decryptMessage message answer =>
    refine .bind (.bind (.lift _) fun _ => .bind (groupCall_commutes t _) fun _ =>
      .bind (groupCall_commutes t _) fun p => ?_) fun _ => .pure _
    cases p with
    | applicationMessage bytes => exact .pure _
    | proposalMessage q =>
      exact .bind (groupCall_commutes t _) fun _ =>
        .bind (persistWhenChanged_commutes t answer) fun _ => .pure _
    | stagedCommitMessage c =>
      exact .bind (groupCall_commutes t _) fun _ =>
        .bind (persistWhenChanged_commutes t answer) fun _ => .pure _

end MlsConversation

/-- The central with the Proteus tables of its keystore replaced by `t`. -/
def CentralWorld.withProteusTables (w : CentralWorld L) : CentralWorld L :=
  { w with keystore := Keystore.withProteusTables t w.keystore }

namespace MlsCentral

theorem onKeystore_commutes {α : Type} {m : Mut Keystore α}
    (hm : Mut.Commutes (Keystore.withProteusTables t) m) :
    Mut.Commutes (CentralWorld.withProteusTables (L := L) t) (onKeystore m) := fun w => by
  simp only [onKeystore, CentralWorld.withProteusTables, hm w.keystore]

theorem initClient_commutes (init : Except CryptoError ClientId) :
    Mut.Commutes (CentralWorld.withProteusTables (L := L) t) (initClient init) := by
  rintro ⟨_ | c, central, ks⟩
  · cases init <;> rfl
  · rfl

theorem getFetch_commutes (id : ConversationId) :
    Mut.Commutes (CentralWorld.withProteusTables (L := L) t) (getFetch id) := fun w => by
  dsimp only [getFetch, CentralWorld.withProteusTables, Keystore.withProteusTables]
  split
  · rfl
  · split
    · rfl
    · split <;> rfl

theorem getConversation_commutes (id : ConversationId) :
    Mut.Commutes (CentralWorld.withProteusTables (L := L) t) (getConversation id) :=
  .bind (getFetch_commutes t id) fun
    | some _ => .pure _
    | none => .lift _

theorem conversationExists_commutes (id : ConversationId) :
    Mut.Commutes (CentralWorld.withProteusTables (L := L) t) (conversationExists id) := fun w => by
  simp only [conversationExists, getFetch_commutes t id w]

theorem onStore_commutes {α : Type} {m : Mut (MlsCentral L × Keystore) α}
    (hm : Mut.Commutes (Mut.onSnd (Keystore.withProteusTables t)) m) :
    Mut.Commutes (CentralWorld.withProteusTables t) (onStore m) := fun w => by
  simp only [onStore, CentralWorld.withProteusTables]
  rw [show (w.central, Keystore.withProteusTables t w.keystore) =
    Mut.onSnd (Keystore.withProteusTables t) (w.central, w.keystore) from rfl, hm]

theorem restoreFromDisk_commutes (hasRoom : AList (fun _ : ConversationId => MlsConversation L) → Bool) :
    Mut.Commutes (CentralWorld.withProteusTables t) (restoreFromDisk hasRoom) := fun w => by
  dsimp only [restoreFromDisk, restoreGroups, CentralWorld.withProteusTables, Keystore.withProteusTables]
  split <;> rfl

theorem pendingGroupsSave_commutes (id : ConversationId) (state cfg : Bytes) (answer : KeystoreAnswer) :
    Mut.Commutes (Keystore.withProteusTables t) (pendingGroupsSave id state cfg answer) :=
  fun _ => by cases answer <;> rfl

theorem pendingGroupsDelete_commutes (id : ConversationId) (answer : KeystoreAnswer) :
    Mut.Commutes (Keystore.withProteusTables t) (pendingGroupsDelete id answer) :=
  fun _ => by cases answer <;> rfl

theorem joinByExternalCommit_commutes (serializedCfg : Except String Bytes)
    (joined : Except MlsError (L.GroupState × L.MlsMessageOut)) (bundled : Except CryptoError Unit)
    (answer : KeystoreAnswer) :
    Mut.Commutes (CentralWorld.withProteusTables t)
      (joinByExternalCommit serializedCfg joined bundled answer) :=
  .bind (fun _ => rfl) fun _ => .bind (.lift _) fun _ => .bind (.lift _) fun ⟨_, _⟩ =>
    .bind (.lift _) fun ⟨_, _⟩ => .bind (onKeystore_commutes t (pendingGroupsSave_commutes t _ _ _ _))
      fun _ => .bind (.lift _) fun _ => .pure _

theorem mergePendingGroup_commutes (customConfigFromSlice : Bytes → Except String Unit)
    (id : ConversationId) (persistAnswer deleteAnswer : KeystoreAnswer) :
    Mut.Commutes (Mut.onSnd (Keystore.withProteusTables t))
      (mergePendingGroupFromExternalCommit (L := L) customConfigFromSlice id persistAnswer
        deleteAnswer) :=
  .get_bind (fun _ => rfl) fun _ => .bind (.lift _) fun _ => .bind (.lift _) fun _ =>
    .bind (.lift _) fun _ => .bind (.lift _) fun _ =>
      .bind (.zoomSnd (MlsConversation.fromMlsGroup_commutes t _ _ _)) fun _ =>
        .bind (.modify fun _ => rfl) fun _ => .zoomSnd (pendingGroupsDelete_commutes t id deleteAnswer)

end MlsCentral

/-- **MLS keeps to its tables.** Every MLS call commutes with replacing the Proteus tables: it
neither reads nor writes them. -/
theorem CentralCall.run_commutes
    (hasRoom : AList (fun _ : ConversationId => MlsConversation L) → Bool) (call : CentralCall L) :
    Mut.Commutes (CentralWorld.withProteusTables t) (call.run hasRoom) := by
  cases call with
  | mlsInit init | mlsInitWithClientId _ init => exact MlsCentral.initClient_commutes t _
  | newConversation id hash config answer =>
    exact .bind (fun _ => rfl) fun _ => .bind (MlsCentral.onKeystore_commutes t
      (MlsConversation.create_commutes t id hash config answer)) fun _ => .modify fun _ => rfl
  | processWelcomeMessage welcome answer =>
    exact .bind (.bind (MlsCentral.onKeystore_commutes t
      (MlsConversation.fromWelcomeMessage_commutes t welcome {} answer)) fun _ =>
        .bind (.modify fun _ => rfl) fun _ => .pure _) fun _ => .pure _
  | joinByExternalCommit serializedCfg joined bundled answer =>
    exact .bind (MlsCentral.joinByExternalCommit_commutes t serializedCfg joined bundled answer)
      fun _ => .pure _
  | mergePendingGroupFromExternalCommit customConfigFromSlice id persistAnswer deleteAnswer =>
    exact MlsCentral.onStore_commutes t
      (MlsCentral.mergePendingGroup_commutes t customConfigFromSlice id persistAnswer deleteAnswer)
  | clearPendingGroupFromExternalCommit id answer =>
    exact MlsCentral.onKeystore_commutes t (MlsCentral.pendingGroupsDelete_commutes t id answer)
  | restoreFromDisk => exact MlsCentral.restoreFromDisk_commutes t hasRoom
  | getConversation id =>
    exact .bind (MlsCentral.getConversation_commutes t id) fun _ => .pure _
  | conversationExists id =>
    exact .bind (MlsCentral.conversationExists_commutes t id) fun _ => .pure _
  | conversation id call =>
    refine .bind (MlsCentral.getConversation_commutes t id) fun c w => ?_
    simp only [CentralWorld.withProteusTables]
    rw [show (c, Keystore.withProteusTables t w.keystore) =
      Mut.onSnd (Keystore.withProteusTables t) (c, w.keystore) from rfl,
      MlsConversation.run_commutes]

/-- **MLS frame.** No MLS call writes a Proteus table, whatever it returns. -/
theorem CentralCall.run_proteusTables
    (hasRoom : AList (fun _ : ConversationId => MlsConversation L) → Bool) (call : CentralCall L) :
    Mut.Preserves (fun w : CentralWorld L => w.keystore.proteusTables = t) (call.run hasRoom) :=
  Mut.Commutes.preserves (fun _ => rfl) (fun _ _ => rfl) (fun t => CentralCall.run_commutes t hasRoom call) t

end MlsCommutes

/-! ## Proteus keeps to its tables -/

section ProteusCommutes

variable {P : ProteusLib} (m : MlsTables)

namespace ProteusCentral

variable (PK_KEY_SIZE SK_KEY_SIZE : Nat)

theorem createIdentity_commutes (fresh : P.IdentityKeyPair) :
    Mut.Commutes (Keystore.withMlsTables m) (createIdentity fresh) :=
  .bind (.lift _) fun _ =>
    .bind (.modify fun ks => Keystore.identitySave_withMlsTables m ks _) fun _ => .pure _

theorem tryNew_commutes (fresh : P.IdentityKeyPair) :
    Mut.Commutes (Keystore.withMlsTables m) (tryNew PK_KEY_SIZE SK_KEY_SIZE fresh) := by
  refine .bind (.get_bind (fun _ => rfl) fun _ => .bind (.lift _) fun r => ?_) fun _ =>
    .get_bind (fun _ => rfl) fun _ => .bind (.lift _) fun _ => .pure _
  cases r with
  | some identity => exact .pure _
  | none => exact createIdentity_commutes m fresh

theorem decrypt_withMlsTables (s : ProteusConversationSession P) (ks : Keystore) (ciphertext : Bytes) :
    s.decrypt (Keystore.withMlsTables m ks) ciphertext =
      (((s.decrypt ks ciphertext).1.1, Keystore.withMlsTables m (s.decrypt ks ciphertext).1.2),
        (s.decrypt ks ciphertext).2) := by
  simp only [ProteusConversationSession.decrypt, Keystore.withMlsTables_proteusPrekeys]
  split
  · rfl
  · split
    · rfl
    · rw [Keystore.removePrekey_withMlsTables]

theorem decrypt_commutes (sessionId : SessionIdentifier) (ciphertext : Bytes) :
    Mut.Commutes (Mut.onSnd (Keystore.withMlsTables m)) (decrypt (P := P) sessionId ciphertext) :=
  fun w => by
  dsimp only [decrypt, Mut.onSnd]
  split
  · rw [decrypt_withMlsTables]
  · rfl

theorem run_commutes (call : ProteusCall P) :
    Mut.Commutes (Mut.onSnd (Keystore.withMlsTables m)) call.run := by
  cases call with
  | sessionFromPrekey sessionId key =>
    exact .get_bind (fun _ => rfl) fun _ => .bind (.lift _) fun _ => .bind (.lift _) fun _ =>
      .modify fun _ => rfl
  | sessionFromMessage sessionId envelope =>
    refine .bind (.get_bind (fun _ => rfl) fun _ => .bind (.lift _) fun _ =>
      .bind (.lift _) fun ⟨_, _, consumed⟩ => ?_) fun _ => .pure _
    exact .bind (.modify fun w => congrArg (w.1, ·) (Keystore.removePrekey_withMlsTables m _ w.2))
      fun _ => .bind (.modify fun _ => rfl) fun _ => .pure _
  | sessionSave sessionId =>
    refine .get_bind (fun _ => rfl) fun w => ?_
    split
    · exact .bind (.lift _) fun _ => .modify fun _ => rfl
    · exact .pure _
  | sessionDelete sessionId answer => exact fun _ => by cases answer <;> rfl
  | encrypt sessionId plaintext => exact .bind (.zoomFst _ _) fun _ => .pure _
  | decrypt sessionId ciphertext => exact .bind (decrypt_commutes m sessionId ciphertext) fun _ => .pure _
  | encryptBatched sessions plaintext => exact .bind (.zoomFst _ _) fun _ => .pure _

theorem migrateSessions_withMlsTables (identity : P.IdentityKeyPair) (entries : List (String × Bytes))
    (ks : Keystore) :
    migrateSessions identity entries (Keystore.withMlsTables m ks) =
      Keystore.withMlsTables m (migrateSessions identity entries ks) := by
  induction entries generalizing ks with
  | nil => rfl
  | cons entry entries ih =>
    obtain ⟨sessionId, rawSession⟩ := entry
    simp only [migrateSessions, Keystore.withMlsTables_proteusSessions]
    split
    · exact ih ks
    · split
      · exact ih (ks.sessionSave sessionId rawSession)
      · exact ih ks

theorem migratePrekey_commutes (name : String) (rawPrekey : Bytes) :
    Mut.Commutes (Keystore.withMlsTables m) (migratePrekey P name rawPrekey) := fun ks => by
  unfold migratePrekey
  rcases parseU16 name with e | prekeyId
  · rfl
  · by_cases hin : (ks.proteusPrekeys.lookup prekeyId).isSome
    · simp only [Keystore.withMlsTables_proteusPrekeys, hin, if_true]
    · by_cases hok : (P.preKeyDeserialise rawPrekey).isOk <;>
        simp only [Keystore.withMlsTables_proteusPrekeys, hin, hok, if_true, if_false] <;> rfl

theorem migratePrekeys_commutes (entries : List (String × Bytes)) :
    Mut.Commutes (Keystore.withMlsTables m) (migratePrekeys P entries) := by
  induction entries with
  | nil => exact .pure _
  | cons entry entries ih => exact .bind (migratePrekey_commutes m _ _) fun _ => ih

theorem migrateIdentity_commutes (folder : CryptoboxFolder) :
    Mut.Commutes (Keystore.withMlsTables m) (migrateIdentity (P := P) PK_KEY_SIZE SK_KEY_SIZE folder) := by
  refine .get_bind (fun _ => rfl) fun _ => .bind (.lift _) fun r => ?_
  rcases r with _ | storeKp
  · refine .bind (.lift _) fun check => ?_
    rcases check with _ | ⟨kp, delete⟩
    · exact .pure _
    · exact .bind (.lift _) fun _ =>
        .bind (.modify fun ks => Keystore.identitySave_withMlsTables m ks _) fun _ => .pure _
  · exact .pure _

theorem migrateEntries_commutes (identity : P.IdentityKeyPair) (folder : CryptoboxFolder) :
    Mut.Commutes (Keystore.withMlsTables m) (migrateEntries identity folder) :=
  .bind (.lift _) fun _ => .bind (.modify fun ks => migrateSessions_withMlsTables m _ _ ks)
    fun _ => .bind (.lift _) fun _ => migratePrekeys_commutes m _

theorem cryptoboxMigrate_commutes (cryptoboxMigrateFeature : Bool) (folder : CryptoboxFolder)
    (fresh : P.IdentityKeyPair) :
    Mut.Commutes (Keystore.withMlsTables m)
      (cryptoboxMigrate PK_KEY_SIZE SK_KEY_SIZE cryptoboxMigrateFeature folder fresh) := by
  unfold cryptoboxMigrate
  split
  · refine .bind (migrateIdentity_commutes m PK_KEY_SIZE SK_KEY_SIZE folder) fun identity => ?_
    rcases identity with _ | identity
    · exact .bind (createIdentity_commutes m fresh) fun i => migrateEntries_commutes m i folder
    · exact .bind (.pure _) fun i => migrateEntries_commutes m i folder
  · exact .lift _

theorem newPrekey_commutes (id : UInt16) (prekey bundle : Except ProteusError Bytes) :
    Mut.Commutes (Mut.onSnd (Keystore.withMlsTables m)) (newPrekey (P := P) id prekey bundle) :=
  .bind (.lift _) fun _ => .bind (.lift _) fun _ => .bind (.modify fun _ => rfl) fun _ => .pure _

end ProteusCentral

/-- The Proteus half with the MLS tables of its keystore replaced by `m`. -/
def CoreCryptoProteus.withMlsTables (w : CoreCryptoProteus P) : CoreCryptoProteus P :=
  { w with keystore := Keystore.withMlsTables m w.keystore }

theorem withProteus_commutes {α : Type} {op : Mut (ProteusWorld P) α}
    (hm : Mut.Commutes (Mut.onSnd (Keystore.withMlsTables m)) op) :
    Mut.Commutes (CoreCryptoProteus.withMlsTables m) (CoreCryptoProteus.withProteus op) := by
  rintro ⟨_ | c, ks⟩
  · rfl
  · exact congrArg (fun r => ((⟨some r.1.1, r.1.2⟩ : CoreCryptoProteus P), r.2)) (hm (c, ks))

variable (PK_KEY_SIZE SK_KEY_SIZE : Nat)

/-- **Proteus keeps to its tables.** Every Proteus call commutes with replacing the MLS
tables: it neither reads nor writes them. -/
theorem ProteusApiCall.run_commutes (call : ProteusApiCall P) :
    Mut.Commutes (CoreCryptoProteus.withMlsTables m) (call.run PK_KEY_SIZE SK_KEY_SIZE) := by
  cases call with
  | proteusInit fresh =>
    intro w
    have h := ProteusCentral.tryNew_commutes m PK_KEY_SIZE SK_KEY_SIZE fresh w.keystore
    simp only [ProteusApiCall.run, CoreCryptoProteus.proteusInit, CoreCryptoProteus.withMlsTables, h]
    rcases ProteusCentral.tryNew PK_KEY_SIZE SK_KEY_SIZE fresh w.keystore with ⟨ks, _ | c⟩ <;> rfl
  | session call => exact withProteus_commutes m (ProteusCentral.run_commutes m call)
  | proteusNewPrekey prekeyId prekey bundle =>
    exact .bind (withProteus_commutes m (ProteusCentral.newPrekey_commutes m _ _ _)) fun _ => .pure _
  | proteusCryptoboxMigrate feature folder fresh =>
    intro w
    have h := ProteusCentral.cryptoboxMigrate_commutes m PK_KEY_SIZE SK_KEY_SIZE feature folder fresh
      w.keystore
    simp only [ProteusApiCall.run, CoreCryptoProteus.proteusCryptoboxMigrate,
      CoreCryptoProteus.withMlsTables, h]

/-- **Proteus frame.** No Proteus call writes an MLS table, whatever it returns. -/
theorem ProteusApiCall.run_mlsTables (call : ProteusApiCall P) :
    Mut.Preserves (fun w : CoreCryptoProteus P => w.keystore.mlsTables = m)
      (call.run PK_KEY_SIZE SK_KEY_SIZE) :=
  Mut.Commutes.preserves (fun _ => rfl) (fun _ _ => rfl)
    (fun m => ProteusApiCall.run_commutes m PK_KEY_SIZE SK_KEY_SIZE call) m

end ProteusCommutes

/-! ## One keystore, two halves -/

/-- `KeystoreKeyed` reads the MLS tables only. -/
theorem KeystoreKeyed.of_mlsTables {L : OpenMls} {ks ks' : Keystore} (h : KeystoreKeyed L ks)
    (ht : ks'.mlsTables = ks.mlsTables) : KeystoreKeyed L ks' := by
  obtain ⟨hg, hp⟩ := Prod.mk.inj ht
  exact ⟨fun id buf hb => h.groups id buf (hg ▸ hb), fun id row hr => h.pending id row (hp ▸ hr)⟩

/-- `ApiRestorable` reads the Proteus tables only. -/
theorem ApiRestorable.of_proteusTables {P : ProteusLib} {PK_KEY_SIZE SK_KEY_SIZE : Nat}
    {proteus : Option (ProteusCentral P)} {ks ks' : Keystore}
    (h : ApiRestorable PK_KEY_SIZE SK_KEY_SIZE ⟨proteus, ks⟩) (ht : ks'.proteusTables = ks.proteusTables) :
    ApiRestorable PK_KEY_SIZE SK_KEY_SIZE ⟨proteus, ks'⟩ := by
  obtain ⟨hid, hrest⟩ := Prod.mk.inj ht
  exact fun c hc => ⟨(h c hc).1.of_eq hid (Prod.mk.inj hrest).1, (h c hc).2⟩

/-- `CoreCrypto`, as `proteus.rs` uses it: the MLS central `self.mls` (its client, its group
store, and the keystore of its `mls_backend`) and `self.proteus`, which borrows that
keystore. -/
structure CoreCryptoWorld (L : OpenMls) (P : ProteusLib) where
  mlsClient : Option ClientId
  central : MlsCentral L
  proteus : Option (ProteusCentral P)
  keystore : Keystore

namespace CoreCryptoWorld

variable {L : OpenMls} {P : ProteusLib}

/-- `self.mls`. -/
def mls (w : CoreCryptoWorld L P) : CentralWorld L := ⟨w.mlsClient, w.central, w.keystore⟩

/-- What the Proteus API reads: `self.proteus`, and the keystore it borrows. -/
def proteusHalf (w : CoreCryptoWorld L P) : CoreCryptoProteus P := ⟨w.proteus, w.keystore⟩

/-- An MLS call, on `self.mls`. -/
def onMls {α : Type} (m : Mut (CentralWorld L) α) : Mut (CoreCryptoWorld L P) α := fun w =>
  let r := m w.mls
  (⟨r.1.mlsClient, r.1.central, w.proteus, r.1.keystore⟩, r.2)

/-- A Proteus call, on `self.proteus` and the borrowed keystore. -/
def onProteus {α : Type} (m : Mut (CoreCryptoProteus P) α) : Mut (CoreCryptoWorld L P) α := fun w =>
  let r := m w.proteusHalf
  (⟨w.mlsClient, w.central, r.1.proteus, r.1.keystore⟩, r.2)

end CoreCryptoWorld

/-- A call on `CoreCrypto`: an MLS call, or a call of its Proteus API. -/
inductive CoreCryptoCall (L : OpenMls) (P : ProteusLib) where
  | mls (call : CentralCall L)
  | proteus (call : ProteusApiCall P)

section Runs

variable {L : OpenMls} {P : ProteusLib}
  (hasRoom : AList (fun _ : ConversationId => MlsConversation L) → Bool) (PK_KEY_SIZE SK_KEY_SIZE : Nat)

/-- Run a call, forgetting what it returns. -/
def CoreCryptoCall.run : CoreCryptoCall L P → Mut (CoreCryptoWorld L P) Unit
  | .mls call => CoreCryptoWorld.onMls (call.run hasRoom)
  | .proteus call => CoreCryptoWorld.onProteus (call.run PK_KEY_SIZE SK_KEY_SIZE)

/-- Run calls in order, whatever each returns. -/
def runCoreCrypto (calls : List (CoreCryptoCall L P)) (w : CoreCryptoWorld L P) : CoreCryptoWorld L P :=
  calls.foldl (fun w call => (call.run hasRoom PK_KEY_SIZE SK_KEY_SIZE w).1) w

/-- States reached from `MlsCentral::try_new` on a keystore with everything filed, with no
Proteus client yet, by any interleaving of MLS and Proteus calls, whatever each returned. -/
inductive CoreCryptoReachable : CoreCryptoWorld L P → Prop
  | tryNew {clientInit : Option (Except CryptoError ClientId)} {ks : Keystore} {w : CentralWorld L} :
      KeystoreKeyed L ks → MlsCentral.tryNew hasRoom clientInit ks = .ok w →
      CoreCryptoReachable ⟨w.mlsClient, w.central, none, w.keystore⟩
  | call {w : CoreCryptoWorld L P} (call : CoreCryptoCall L P) :
      CoreCryptoReachable w → CoreCryptoReachable (call.run hasRoom PK_KEY_SIZE SK_KEY_SIZE w).1

theorem CoreCryptoReachable.runCoreCrypto {w : CoreCryptoWorld L P}
    (hw : CoreCryptoReachable hasRoom PK_KEY_SIZE SK_KEY_SIZE w) (calls : List (CoreCryptoCall L P)) :
    CoreCryptoReachable hasRoom PK_KEY_SIZE SK_KEY_SIZE (runCoreCrypto hasRoom PK_KEY_SIZE SK_KEY_SIZE calls w) := by
  induction calls generalizing w with
  | nil => exact hw
  | cons call calls ih => exact ih (.call call hw)

/-- What each half keeps alone: everything MLS filed under its own id, and a keystore the
Proteus client can restart from. -/
structure BothKept (w : CoreCryptoWorld L P) : Prop where
  mls : CentralKeyed w.mls
  proteus : ApiRestorable PK_KEY_SIZE SK_KEY_SIZE w.proteusHalf

/-- `try_new` on a keystore whose groups restore. -/
theorem MlsCentral.tryNew_of_restoreGroups {ks : Keystore}
    {mlsGroups : AList (fun _ : ConversationId => MlsConversation L)}
    (h : MlsCentral.restoreGroups hasRoom ks = .ok mlsGroups) (mlsClient : Option ClientId) :
    MlsCentral.tryNew hasRoom (mlsClient.map .ok) ks = .ok ⟨mlsClient, ⟨mlsGroups⟩, ks⟩ := by
  unfold MlsCentral.tryNew
  rw [h]
  cases mlsClient <;> rfl

section Laws

variable {hasRoom PK_KEY_SIZE SK_KEY_SIZE}
  (hnew : L.NewKeepsId) (hid : L.MutationsKeepId) (happ : L.ApplicationKeepsRoster)
  (hload : L.LoadInvertsSave) (hround : P.RawKeyPairRoundTrip)
  (hsizes : P.KeySizes PK_KEY_SIZE SK_KEY_SIZE) (hrt : P.SessionRoundTrip)
include hnew hid happ hload hround hsizes hrt

/-- **Step lemma.** Each call keeps both halves' invariants: its own half's by its own step
lemma, the other half's through the frame. -/
theorem CoreCryptoCall.run_bothKept (call : CoreCryptoCall L P) :
    Mut.Preserves (BothKept PK_KEY_SIZE SK_KEY_SIZE) (call.run hasRoom PK_KEY_SIZE SK_KEY_SIZE) := by
  rintro w ⟨hmls, hpro⟩
  cases call with
  | mls call =>
    exact ⟨CentralCall.run_keyed hasRoom hnew hid happ hload call w.mls hmls,
      hpro.of_proteusTables (CentralCall.run_proteusTables _ hasRoom call w.mls rfl)⟩
  | proteus call =>
    exact ⟨⟨hmls.store, hmls.keystore.of_mlsTables
        (ProteusApiCall.run_mlsTables _ PK_KEY_SIZE SK_KEY_SIZE call w.proteusHalf rfl)⟩,
      ProteusApiCall.run_restorable hround hsizes hrt call w.proteusHalf hpro⟩

/-- **Run lemma.** Every reachable state keeps both halves' invariants. -/
theorem CoreCryptoReachable.bothKept {w : CoreCryptoWorld L P}
    (hw : CoreCryptoReachable hasRoom PK_KEY_SIZE SK_KEY_SIZE w) : BothKept PK_KEY_SIZE SK_KEY_SIZE w := by
  induction hw with
  | tryNew hks h => exact ⟨MlsCentral.tryNew_keyed hasRoom hload hks h, fun _ hc => by cases hc⟩
  | call call _ ih => exact CoreCryptoCall.run_bothKept hnew hid happ hload hround hsizes hrt call _ ih

/-- **Both halves.** In every state `CoreCrypto` reaches, over any interleaving of MLS and
Proteus calls and whatever each returned: every conversation in memory and every pending row
is filed under its own id; `MlsCentral::try_new` on the keystore, in a new process, restores
the groups, each from the row under its own id; and once there is a Proteus client,
`proteus_init` there rebuilds its identity and exactly the session rows. -/
theorem reachable_both_halves {w : CoreCryptoWorld L P}
    (hw : CoreCryptoReachable hasRoom PK_KEY_SIZE SK_KEY_SIZE w) (mlsClient : Option ClientId)
    (fresh : P.IdentityKeyPair) :
    (∀ id c, w.central.mlsGroups.lookup id = some c → c.id = id ∧ L.groupId c.group.state = id) ∧
    (∀ id row, w.keystore.mlsPendingGroups.lookup id = some row →
      ∃ s, L.save s = .ok row.1 ∧ L.groupId s = id) ∧
    (∃ mlsGroups, MlsCentral.tryNew hasRoom (mlsClient.map .ok) w.keystore =
        .ok ⟨mlsClient, ⟨mlsGroups⟩, w.keystore⟩ ∧
      ∀ id c, mlsGroups.lookup id = some c → c.id = id ∧
        ∃ buf, w.keystore.mlsGroups.lookup id = some buf ∧
          MlsConversation.fromSerializedState buf = .ok c) ∧
    ∀ c, w.proteus = some c →
      ∃ c', CoreCryptoProteus.proteusInit PK_KEY_SIZE SK_KEY_SIZE fresh ⟨none, w.keystore⟩ =
          (⟨some c', w.keystore⟩, .ok ()) ∧
        c'.proteusIdentity = c.proteusIdentity ∧
        ∀ sessionId, sessionId ∈ c'.proteusSessions ↔ sessionId ∈ w.keystore.proteusSessions := by
  have hk := hw.bothKept hnew hid happ hload hround hsizes hrt
  obtain ⟨mlsGroups, hr, hlk, -⟩ := MlsCentral.restoreGroups_of_keyed hasRoom hload hk.mls.keystore
  refine ⟨hk.mls.store, hk.mls.keystore.pending,
    ⟨mlsGroups, MlsCentral.tryNew_of_restoreGroups hasRoom hr mlsClient,
      fun id c hc => ⟨(hlk id c hc).1.1, (hlk id c hc).2⟩⟩, fun c hc => ?_⟩
  obtain ⟨c', h, hid', -, hmem⟩ := (hk.proteus c hc).1.tryNew_eq fresh
  dsimp only [CoreCryptoWorld.proteusHalf] at h hmem
  exact ⟨c', by simp only [CoreCryptoProteus.proteusInit, h], hid', hmem⟩

end Laws

end Runs

/-- `CoreCrypto` after `try_new` on an empty keystore for client `[7]`, then conversation `[1]`
created, `proteus_init`, and a session for `"alice"` opened from a prekey and saved. -/
def bothOpened : CoreCryptoWorld tallyLib tallyProteus :=
  runCoreCrypto (fun _ => true) 32 64
    [.mls (.newConversation [1] (.ok []) {} (.ok ())), .proteus (.proteusInit ()),
      .proteus (.session (.sessionFromPrekey "alice" [])), .proteus (.session (.sessionSave "alice"))]
    ⟨some [7], ⟨∅⟩, none, Keystore.empty⟩

theorem bothOpened_reachable : CoreCryptoReachable (fun _ => true) 32 64 bothOpened :=
  (@CoreCryptoReachable.tryNew tallyLib tallyProteus (fun _ => true) 32 64 (some (.ok [7]))
    Keystore.empty ⟨some [7], ⟨∅⟩, Keystore.empty⟩ KeystoreKeyed.empty rfl).runCoreCrypto _ _ _ _

/-- Both halves of the `CoreCrypto` above restart from its keystore. -/
theorem bothOpened_restart :
    (∃ c, bothOpened.proteus = some c) ∧
    (∀ id c, bothOpened.central.mlsGroups.lookup id = some c →
      c.id = id ∧ tallyLib.groupId c.group.state = id) ∧
    (∀ id row, bothOpened.keystore.mlsPendingGroups.lookup id = some row →
      ∃ s, tallyLib.save s = .ok row.1 ∧ tallyLib.groupId s = id) ∧
    (∃ mlsGroups : AList fun _ : ConversationId => MlsConversation tallyLib,
      MlsCentral.tryNew (fun _ => true) ((some [7]).map .ok) bothOpened.keystore =
        .ok ⟨some [7], ⟨mlsGroups⟩, bothOpened.keystore⟩ ∧
      ∀ id c, mlsGroups.lookup id = some c → c.id = id ∧
        ∃ buf, bothOpened.keystore.mlsGroups.lookup id = some buf ∧
          MlsConversation.fromSerializedState buf = .ok c) ∧
    ∀ c, bothOpened.proteus = some c →
      ∃ c', CoreCryptoProteus.proteusInit 32 64 () ⟨none, bothOpened.keystore⟩ =
          (⟨some c', bothOpened.keystore⟩, .ok ()) ∧
        c'.proteusIdentity = c.proteusIdentity ∧
        ∀ sessionId, sessionId ∈ c'.proteusSessions ↔ sessionId ∈ bothOpened.keystore.proteusSessions :=
  ⟨⟨_, rfl⟩, reachable_both_halves tallyLib_newKeepsId tallyLib_mutationsKeepId
    tallyLib_applicationKeepsRoster tallyLib_loadInvertsSave (fun _ _ _ => rfl) tallyProteus_keySizes
    tallyProteus_sessionRoundTrip bothOpened_reachable (some [7]) ()⟩

/-! ## Two systems side by side -/

section Join

variable {L : OpenMls} {P : ProteusLib}
  (hasRoom : AList (fun _ : ConversationId => MlsConversation L) → Bool) (PK_KEY_SIZE SK_KEY_SIZE : Nat)

/-- `CoreCrypto` with the MLS half of `m` and the Proteus half of `p`: the client, the group
store and the MLS tables of `m`, the Proteus client and the Proteus tables of `p`. -/
def CoreCryptoWorld.join (m : CentralWorld L) (p : CoreCryptoProteus P) : CoreCryptoWorld L P :=
  ⟨m.mlsClient, m.central, p.proteus, Keystore.withProteusTables p.keystore.proteusTables m.keystore⟩

/-- The MLS calls of a sequence, in order. -/
def CoreCryptoCall.mlsCalls : List (CoreCryptoCall L P) → List (CentralCall L) :=
  List.filterMap fun
    | .mls call => some call
    | .proteus _ => none

/-- The Proteus calls of a sequence, in order. -/
def CoreCryptoCall.proteusCalls : List (CoreCryptoCall L P) → List (ProteusApiCall P) :=
  List.filterMap fun
    | .mls _ => none
    | .proteus call => some call

/-- An MLS call runs on the MLS half alone. -/
theorem CoreCryptoCall.run_mls_join (call : CentralCall L) (m : CentralWorld L) (p : CoreCryptoProteus P) :
    (CoreCryptoCall.mls call).run hasRoom PK_KEY_SIZE SK_KEY_SIZE (CoreCryptoWorld.join m p) =
      (CoreCryptoWorld.join (call.run hasRoom m).1 p, (call.run hasRoom m).2) :=
  congrArg (fun r : CentralWorld L × Except CryptoError Unit =>
      ((⟨r.1.mlsClient, r.1.central, p.proteus, r.1.keystore⟩ : CoreCryptoWorld L P), r.2))
    (CentralCall.run_commutes p.keystore.proteusTables hasRoom call m)

/-- A Proteus call runs on the Proteus half alone. -/
theorem CoreCryptoCall.run_proteus_join (call : ProteusApiCall P) (m : CentralWorld L)
    (p : CoreCryptoProteus P) :
    (CoreCryptoCall.proteus call).run hasRoom PK_KEY_SIZE SK_KEY_SIZE (CoreCryptoWorld.join m p) =
      (CoreCryptoWorld.join m (call.run PK_KEY_SIZE SK_KEY_SIZE p).1,
        (call.run PK_KEY_SIZE SK_KEY_SIZE p).2) :=
  congrArg (fun r : CoreCryptoProteus P × Except CryptoError Unit =>
      ((⟨m.mlsClient, m.central, r.1.proteus, r.1.keystore⟩ : CoreCryptoWorld L P), r.2))
    (ProteusApiCall.run_commutes m.keystore.mlsTables PK_KEY_SIZE SK_KEY_SIZE call p)

theorem runCoreCrypto_join (calls : List (CoreCryptoCall L P)) (m : CentralWorld L)
    (p : CoreCryptoProteus P) :
    runCoreCrypto hasRoom PK_KEY_SIZE SK_KEY_SIZE calls (CoreCryptoWorld.join m p) =
      CoreCryptoWorld.join (runCalls hasRoom (CoreCryptoCall.mlsCalls calls) m)
        (runApi PK_KEY_SIZE SK_KEY_SIZE (CoreCryptoCall.proteusCalls calls) p) := by
  induction calls generalizing m p with
  | nil => rfl
  | cons call calls ih =>
    cases call with
    | mls call =>
      show runCoreCrypto hasRoom PK_KEY_SIZE SK_KEY_SIZE calls (CoreCryptoCall.run hasRoom PK_KEY_SIZE
        SK_KEY_SIZE (.mls call) (CoreCryptoWorld.join m p)).1 = _
      rw [CoreCryptoCall.run_mls_join]
      exact ih _ p
    | proteus call =>
      show runCoreCrypto hasRoom PK_KEY_SIZE SK_KEY_SIZE calls (CoreCryptoCall.run hasRoom PK_KEY_SIZE
        SK_KEY_SIZE (.proteus call) (CoreCryptoWorld.join m p)).1 = _
      rw [CoreCryptoCall.run_proteus_join]
      exact ih m _

/-- **Two systems side by side.** Whatever the interleaving of MLS and Proteus calls and
whatever each returned, `CoreCrypto` ends where the MLS central, run on the MLS calls alone,
and the Proteus API, run on the Proteus calls alone, end: the client, the group store and the
MLS tables of the one, the Proteus client and the Proteus tables of the other. And a call made
next returns what it returns on its own half run alone. -/
theorem runCoreCrypto_eq_join (calls : List (CoreCryptoCall L P)) (w : CoreCryptoWorld L P) :
    runCoreCrypto hasRoom PK_KEY_SIZE SK_KEY_SIZE calls w =
        CoreCryptoWorld.join (runCalls hasRoom (CoreCryptoCall.mlsCalls calls) w.mls)
          (runApi PK_KEY_SIZE SK_KEY_SIZE (CoreCryptoCall.proteusCalls calls) w.proteusHalf) ∧
      (∀ call : CentralCall L,
        ((CoreCryptoCall.mls call).run hasRoom PK_KEY_SIZE SK_KEY_SIZE
            (runCoreCrypto hasRoom PK_KEY_SIZE SK_KEY_SIZE calls w)).2 =
          (call.run hasRoom (runCalls hasRoom (CoreCryptoCall.mlsCalls calls) w.mls)).2) ∧
      ∀ call : ProteusApiCall P,
        ((CoreCryptoCall.proteus call).run hasRoom PK_KEY_SIZE SK_KEY_SIZE
            (runCoreCrypto hasRoom PK_KEY_SIZE SK_KEY_SIZE calls w)).2 =
          (call.run PK_KEY_SIZE SK_KEY_SIZE
            (runApi PK_KEY_SIZE SK_KEY_SIZE (CoreCryptoCall.proteusCalls calls) w.proteusHalf)).2 := by
  -- `w` is the join of its own two halves
  have h : runCoreCrypto hasRoom PK_KEY_SIZE SK_KEY_SIZE calls w = _ :=
    runCoreCrypto_join hasRoom PK_KEY_SIZE SK_KEY_SIZE calls w.mls w.proteusHalf
  refine ⟨h, fun call => ?_, fun call => ?_⟩ <;> rw [h]
  · exact congrArg Prod.snd (CoreCryptoCall.run_mls_join hasRoom PK_KEY_SIZE SK_KEY_SIZE call _ _)
  · exact congrArg Prod.snd (CoreCryptoCall.run_proteus_join hasRoom PK_KEY_SIZE SK_KEY_SIZE call _ _)

end Join

end CoreCrypto
