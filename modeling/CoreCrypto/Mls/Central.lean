import CoreCrypto.Mls.ExternalCommit
import CoreCrypto.E2eIdentity.State

/-!
# `MlsCentral` (`mls/mod.rs`)

Every conversation goes through the central: it is created (`new_conversation`), joined
(`process_welcome_message`, `join_by_external_commit` and the merge of `external_commit.rs`),
looked up (`get_fetch`, which hydrates a conversation from its row), operated on, and
restored (`restore_groups`, run by `try_new` and `restore_from_disk`). The group store
(`GroupStore`) is not in the sources; it is modelled from the spec, as a map by conversation
id whose `insert` replaces.

* **Filed under its own id.** Over any run of central calls from `try_new`, whatever each
  call returns, every conversation of the group store sits under its own id and holds a group
  of that id, and every row of both MLS partitions holds a group serialized under its own id
  (`reachable_filed_under_own_id`). Four openmls laws are assumed, each named where it is used.
* **Restart.** On every reachable keystore `restore_groups` succeeds, restores each
  conversation under its own id as `from_serialized_state` reads its row, and, with a store
  that has room, every row (`reachable_restoreGroups`).
* **Lookups.** On every reachable state `get_fetch` never fails and returns a conversation
  filed under the id asked for, and `conversation_exists` answers whether the id is in memory
  or in the keystore (`reachable_getFetch`).
* **Retried joins.** A `join_by_external_commit` that succeeds after an earlier attempt for
  the same group leaves exactly the state it would have left alone (`join_retry_overwrites`).
* **One client.** Once the client is initialized, no call replaces it
  (`runCalls_mlsClient`).
-/

namespace CoreCrypto

variable {L : OpenMls}

/-! ## Rows filed under their group's id -/

/-- A serialized group filed under its own group id. -/
def FiledUnder (L : OpenMls) (id : ConversationId) (buf : Bytes) : Prop :=
  ∃ s, L.save s = .ok buf ∧ L.groupId s = id

/-- Every row of both MLS partitions holds a group serialized under its own group id. -/
structure KeystoreKeyed (L : OpenMls) (ks : Keystore) : Prop where
  groups : ∀ id buf, ks.mlsGroups.lookup id = some buf → FiledUnder L id buf
  pending : ∀ id row, ks.mlsPendingGroups.lookup id = some row → FiledUnder L id row.1

/-- A conversation filed under `id`: its own id and its group's id are `id`. -/
def ConversationKeyed (id : ConversationId) (c : MlsConversation L) : Prop :=
  c.id = id ∧ L.groupId c.group.state = id

namespace KeystoreKeyed

variable {ks : Keystore} {id : ConversationId}

theorem persist (h : KeystoreKeyed L ks) {buf : Bytes} (hf : FiledUnder L id buf) :
    KeystoreKeyed L { ks with mlsGroups := ks.mlsGroups.insert id buf } :=
  ⟨forall_lookup_insert h.groups hf, h.pending⟩

theorem savePending (h : KeystoreKeyed L ks) {state : Bytes} (hf : FiledUnder L id state)
    (cfg : Bytes) :
    KeystoreKeyed L { ks with mlsPendingGroups := ks.mlsPendingGroups.insert id (state, cfg) } :=
  ⟨h.groups, forall_lookup_insert (Q := fun (id : ConversationId) (row : Bytes × Bytes) => FiledUnder L id row.1)
    h.pending hf⟩

theorem deletePending (h : KeystoreKeyed L ks) (id : ConversationId) :
    KeystoreKeyed L { ks with mlsPendingGroups := ks.mlsPendingGroups.erase id } :=
  ⟨h.groups, forall_lookup_erase h.pending id⟩

theorem empty : KeystoreKeyed L Keystore.empty :=
  ⟨fun _ _ h => (by cases h), fun _ _ h => (by cases h)⟩

end KeystoreKeyed

/-- With `load` inverting `save`, a row filed under `id` reads back as a conversation filed
under `id`. -/
theorem fromSerializedState_of_filed (hload : L.LoadInvertsSave) {id : ConversationId}
    {buf : Bytes} (hf : FiledUnder L id buf) :
    ∃ c : MlsConversation L, MlsConversation.fromSerializedState buf = .ok c ∧
      ConversationKeyed id c := by
  obtain ⟨s, hs, rfl⟩ := hf
  exact ⟨_, MlsConversation.fromSerializedState_of_load (hload s buf hs), rfl, rfl⟩

/-! ## Conversation operations keep their rows filed -/

namespace MlsConversation

/-- The world of the conversation filed under `id`, over a keystore whose rows are filed. -/
def WorldKeyed (id : ConversationId) (w : World L) : Prop :=
  ConversationKeyed id w.1 ∧ KeystoreKeyed L w.2

variable {id : ConversationId}

theorem groupCall_keyed {α : Type} {f : L.GroupState → Except MlsError (L.GroupState × α)}
    (hf : ∀ s s' a, f s = .ok (s', a) → L.groupId s' = L.groupId s) :
    Mut.Preserves (WorldKeyed id) (groupCall f) := by
  rintro ⟨c, ks⟩ ⟨⟨hcid, hgid⟩, hks⟩
  unfold groupCall
  split
  · next s a hfs => exact ⟨⟨hcid, (hf _ _ _ hfs).trans hgid⟩, hks⟩
  · exact ⟨⟨hcid, hgid⟩, hks⟩

/-- The persistence block writes the serialization of the group under the conversation's
id, which is the group's. -/
theorem persistWhenChanged_keyed (answer : KeystoreAnswer) :
    Mut.Preserves (WorldKeyed (L := L) id) (persistWhenChanged answer) := by
  rintro w ⟨⟨hcid, hgid⟩, hks⟩
  rcases h : persistWhenChanged answer w with ⟨w', e | u⟩
  · obtain ⟨h2, h1⟩ := persistWhenChanged_eq_error h
    show ConversationKeyed id w'.1 ∧ KeystoreKeyed L w'.2
    rw [h1, h2]
    exact ⟨⟨hcid, hgid⟩, hks⟩
  · simp only [persistWhenChanged, Mut.bind_apply, groupStateChanged_apply] at h
    split at h
    · obtain ⟨w₁, buf, h1, h2⟩ := Mut.bind_eq_ok h
      obtain ⟨hs, rfl⟩ := groupSave_eq_ok h1
      obtain ⟨-, rfl⟩ := groupPersist_eq_ok h2
      exact ⟨⟨hcid, hgid⟩, hks.persist ⟨_, hs, hgid.trans hcid.symm⟩⟩
    · cases h
      exact ⟨⟨hcid, hgid⟩, hks⟩

section Laws

variable (hid : L.MutationsKeepId)
include hid

theorem commitAndMerge_keyed {α : Type} {f : L.GroupState → Except MlsError (L.GroupState × α)}
    (hf : ∀ s s' a, f s = .ok (s', a) → L.groupId s' = L.groupId s) :
    Mut.Preserves (WorldKeyed id) (commitAndMerge f) :=
  .bind (groupCall_keyed hf) fun _ =>
    .bind (groupCall_keyed fun s s' _ h => by
      obtain ⟨_, hm, hpair⟩ := Except.map_eq_ok h
      cases hpair
      exact hid.2.2.1 _ _ hm) fun _ => .pure _

theorem afterProcessing_keyed (answer : KeystoreAnswer) (p : ProcessedMessage L.StagedCommit) :
    Mut.Preserves (WorldKeyed id) (afterProcessing answer p) := by
  cases p with
  | applicationMessage bytes => exact .pure _
  | proposalMessage q =>
    exact .bind (groupCall_keyed fun s s' _ h => by cases h; exact hid.2.2.2.2.1 _ _) fun _ =>
      .bind (persistWhenChanged_keyed answer) fun _ => .pure _
  | stagedCommitMessage c =>
    refine .bind (groupCall_keyed fun s s' _ h => ?_) fun _ =>
      .bind (persistWhenChanged_keyed answer) fun _ => .pure _
    obtain ⟨_, hm, hpair⟩ := Except.map_eq_ok h
    cases hpair
    exact hid.2.2.2.2.2 _ _ _ hm

/-- **Step lemma, one conversation.** `add_members`, `remove_members` and
`decrypt_message` keep the conversation and the rows filed, whatever they return. -/
theorem run_keyed (happ : L.ApplicationKeepsRoster) (call : ConversationCall L) :
    Mut.Preserves (WorldKeyed id) call.run := by
  cases call with
  | addMembers ms answer =>
    exact .bind (.bind (commitAndMerge_keyed hid fun _ _ _ h => hid.1 _ _ _ _ _ h) fun _ =>
      .bind (persistWhenChanged_keyed answer) fun _ => .pure _) fun _ => .pure _
  | removeMembers ms answer =>
    refine .bind (.bind (fun _ h => h) fun _ =>
      .bind (.bind (commitAndMerge_keyed hid fun _ _ a h => ?_) fun _ => .pure _) fun _ =>
        .bind (persistWhenChanged_keyed answer) fun _ => .pure _) fun _ => .pure _
    obtain ⟨_, _⟩ := a
    exact hid.2.1 _ _ _ _ _ h
  | decryptMessage message answer =>
    exact .bind (.bind (.lift _) fun _ =>
      .bind (groupCall_keyed fun _ _ _ h => (happ.1 _ _ _ _ h).1) fun _ =>
        .bind (groupCall_keyed fun _ _ _ h => hid.2.2.2.1 _ _ _ _ h) fun _ =>
          afterProcessing_keyed hid answer _) fun _ => .pure _

end Laws

/-! ## Construction keeps rows filed -/

theorem persistRow_eq_error {id : ConversationId} {buf : Bytes} {answer : KeystoreAnswer}
    {ks ks' : Keystore} {e : CryptoError} (h : persistRow id buf answer ks = (ks', .error e)) :
    ks' = ks := by
  obtain _ | ⟨⟨⟩⟩ := answer <;> cases h
  rfl

/-- A failed `create` wrote nothing. -/
theorem create_eq_error {hash : Except CryptoError Bytes} {config : MlsConversationConfiguration L}
    {answer : KeystoreAnswer} {ks ks' : Keystore} {e : CryptoError}
    (h : create id hash config answer ks = (ks', .error e)) : ks' = ks := by
  rcases Mut.lift_bind_eq_error h with ⟨rfl, -⟩ | ⟨_, -, h⟩
  · rfl
  rcases Mut.lift_bind_eq_error h with ⟨rfl, -⟩ | ⟨_, -, h⟩
  · rfl
  rcases Mut.lift_bind_eq_error h with ⟨rfl, -⟩ | ⟨⟨_, _⟩, -, h⟩
  · rfl
  rcases Mut.lift_bind_eq_error h with ⟨rfl, -⟩ | ⟨⟨_, _⟩, -, h⟩
  · rfl
  rcases Mut.bind_eq_error h with h | ⟨_, _, -, h⟩
  · exact persistRow_eq_error h
  · cases h

/-- A failed `from_welcome_message` wrote nothing. -/
theorem fromWelcomeMessage_eq_error {welcome : L.Welcome}
    {config : MlsConversationConfiguration L} {answer : KeystoreAnswer} {ks ks' : Keystore}
    {e : CryptoError} (h : fromWelcomeMessage welcome config answer ks = (ks', .error e)) :
    ks' = ks := by
  rcases Mut.lift_bind_eq_error h with ⟨rfl, -⟩ | ⟨_, -, h⟩
  · rfl
  rcases Mut.lift_bind_eq_error h with ⟨rfl, -⟩ | ⟨⟨_, _⟩, -, h⟩
  · rfl
  rcases Mut.bind_eq_error h with h | ⟨_, _, -, h⟩
  · exact persistRow_eq_error h
  · cases h

end MlsConversation

/-- A `create` that succeeded filed its conversation under the id it was given, and its row
too; one that failed wrote nothing. -/
theorem MlsConversation.create_ensures (hnew : L.NewKeepsId) (hid : L.MutationsKeepId)
    (id : ConversationId) (hash : Except CryptoError Bytes) (config : MlsConversationConfiguration L)
    (answer : KeystoreAnswer) :
    Mut.Ensures (KeystoreKeyed L) (MlsConversation.create id hash config answer)
      (fun r => ConversationKeyed id r.1) := by
  intro ks hks
  rcases h : MlsConversation.create id hash config answer ks with ⟨ks', e | ⟨c, m⟩⟩
  · cases MlsConversation.create_eq_error h
    exact ⟨hks, fun _ h => by cases h⟩
  · obtain ⟨_, _, s, buf, -, hn, hx, hs, -, rfl, rfl⟩ := MlsConversation.create_eq_ok h
    have hsid : L.groupId s = id :=
      (MlsConversation.addExtraMembers_groupId hid hx).trans (hnew _ _ _ hn)
    exact ⟨hks.persist ⟨s, hs, hsid⟩, fun _ h => by cases h; exact ⟨rfl, hsid⟩⟩

/-- A `from_welcome_message` that succeeded filed its conversation under the group's id, and
its row too; one that failed wrote nothing. -/
theorem MlsConversation.fromWelcomeMessage_ensures (welcome : L.Welcome)
    (config : MlsConversationConfiguration L) (answer : KeystoreAnswer) :
    Mut.Ensures (KeystoreKeyed L) (MlsConversation.fromWelcomeMessage welcome config answer)
      (fun c => ConversationKeyed c.id c) := by
  intro ks hks
  rcases h : MlsConversation.fromWelcomeMessage welcome config answer ks with ⟨ks', e | c⟩
  · cases MlsConversation.fromWelcomeMessage_eq_error h
    exact ⟨hks, fun _ h => by cases h⟩
  · obtain ⟨s, buf, -, hs, -, rfl, rfl⟩ := MlsConversation.fromWelcomeMessage_eq_ok h
    exact ⟨hks.persist ⟨s, hs, rfl⟩, fun _ h => by cases h; exact ⟨rfl, rfl⟩⟩

/-! ## The central -/

/-- `MlsCentral` as a whole: the client, by its id (`mls_client`, `None` until initialized),
the group store, and the keystore behind `mls_backend`. -/
structure CentralWorld (L : OpenMls) where
  mlsClient : Option ClientId
  central : MlsCentral L
  keystore : Keystore

namespace MlsCentral

/-- A call over the group store and the keystore, run inside the central. -/
def onStore {α : Type} (m : Mut (MlsCentral L × Keystore) α) : Mut (CentralWorld L) α := fun w =>
  let r := m (w.central, w.keystore)
  ({ w with central := r.1.1, keystore := r.1.2 }, r.2)

/-- A call over the keystore alone, run inside the central. -/
def onKeystore {α : Type} (m : Mut Keystore α) : Mut (CentralWorld L) α := fun w =>
  let r := m w.keystore
  ({ w with keystore := r.1 }, r.2)

/-- `self.mls_client.as_ref().ok_or(CryptoError::MlsNotInitialized)?`. -/
def requireClient : Mut (CentralWorld L) ClientId := fun w =>
  (w, match w.mlsClient with
    | some clientId => .ok clientId
    | none => .error .mlsNotInitialized)

/-- The conversation `c` into the group store under `id`, replacing any there. -/
def insertConversation (id : ConversationId) (c : MlsConversation L) : Mut (CentralWorld L) Unit :=
  Mut.modify fun w => { w with central := ⟨w.central.mlsGroups.insert id c⟩ }

/-! ### The client -/

/-- What `mls_init` and `mls_init_with_client_id` share: an initialized central refuses, with
nothing changed; otherwise the client's initialization runs and the central keeps the client
it built, by its id. -/
def initClient (init : Except CryptoError ClientId) : Mut (CentralWorld L) Unit := fun w =>
  match w.mlsClient with
  | some _ => (w, .error .implementationError)
  | none =>
    match init with
    | .ok clientId => ({ w with mlsClient := some clientId }, .ok ())
    | .error e => (w, .error e)

/-- `MlsCentral::mls_init` (`mod.rs:276-288`), given what `Client::init` returned. -/
def mlsInit (init : Except CryptoError ClientId) : Mut (CentralWorld L) Unit :=
  initClient init

/-- `MlsCentral::mls_init_with_client_id` (`mod.rs:306-322`), given what
`Client::init_with_external_client_id` returned: the client has the id it was given. -/
def mlsInitWithClientId (clientId : ClientId) (init : Except CryptoError Unit) :
    Mut (CentralWorld L) Unit :=
  initClient (init.map fun _ => clientId)

/-- `MlsCentral::mls_generate_keypairs` (`mod.rs:294-300`), given what
`Client::generate_raw_keypairs` returned. -/
def mlsGenerateKeypairs (generated : Except CryptoError (List Bytes)) :
    Mut (CentralWorld L) (List Bytes) := fun w =>
  match w.mlsClient with
  | some _ => (w, .error .implementationError)
  | none => (w, generated)

/-- `MlsCentral::client_id` (`mod.rs:381-388`). -/
def clientId : Mut (CentralWorld L) ClientId := requireClient

/-! ### Conversations -/

/-- `MlsCentral::new_conversation` (`mod.rs:434-451`), given what the client's
`keypackage_hash` returned: `create` (the four-argument one of this version of
`conversation.rs`, whose creation message `new_conversation` does not return), then the
conversation into the store, replacing any under the same id. -/
def newConversation (id : ConversationId) (authorKeypackageHash : Except CryptoError Bytes)
    (config : MlsConversationConfiguration L) (answer : KeystoreAnswer) :
    Mut (CentralWorld L) Unit := do
  let _ ← requireClient
  let (conversation, _) ← onKeystore (MlsConversation.create id authorKeypackageHash config answer)
  insertConversation id conversation

/-- `MlsCentral::process_welcome_message` (`mod.rs:495-510`), with the default configuration
(its custom part is read by no modelled code): the conversation goes into the store under its
own id, which is returned. -/
def processWelcomeMessage (welcome : L.Welcome) (answer : KeystoreAnswer) :
    Mut (CentralWorld L) ConversationId := do
  let conversation ← onKeystore (MlsConversation.fromWelcomeMessage welcome {} answer)
  insertConversation conversation.id conversation
  pure conversation.id

/-- Modelled from the spec: `GroupStore::get_fetch(id, keystore)`. The conversation in
memory; else the one `from_serialized_state` reads from the keystore's row, which joins the
store; `None` when there is neither. A row that does not deserialize is an error. -/
def getFetch (id : ConversationId) : Mut (CentralWorld L) (Option (MlsConversation L)) := fun w =>
  match w.central.mlsGroups.lookup id with
  | some c => (w, .ok (some c))
  | none =>
    match w.keystore.mlsGroups.lookup id with
    | none => (w, .ok none)
    | some buf =>
      match MlsConversation.fromSerializedState buf with
      | .ok c => ({ w with central := ⟨w.central.mlsGroups.insert id c⟩ }, .ok (some c))
      | .error e => (w, .error e)

/-- The conversations the central holds, as its callers see them: the one in memory under
`id`, else the one `from_serialized_state` reads from the row under `id`. -/
def storedConversation (w : CentralWorld L) (id : ConversationId) : Option (MlsConversation L) :=
  match w.central.mlsGroups.lookup id with
  | some c => some c
  | none => (w.keystore.mlsGroups.lookup id).bind fun buf =>
    (MlsConversation.fromSerializedState buf).toOption

/-- Modelled from the spec: `MlsCentral::get_conversation` (not in the sources), as
`conversation_epoch` spells it out: `get_fetch`, and `ConversationNotFound(id)` for `None`. -/
def getConversation (id : ConversationId) : Mut (CentralWorld L) (MlsConversation L) :=
  getFetch id >>= fun
    | some c => pure c
    | none => Mut.lift (.error (.conversationNotFound id))

/-- `MlsCentral::conversation_exists` (`mod.rs:456-463`): whether `get_fetch` found the
conversation, an error counting as not found. -/
def conversationExists (id : ConversationId) : Mut (CentralWorld L) Bool := fun w =>
  ((getFetch id w).1, .ok (match (getFetch id w).2 with
    | .ok (some _) => true
    | _ => false))

/-- `MlsCentral::e2ei_conversation_state` (`e2e_identity/state.rs:24-26`). -/
def e2eiConversationState (X : X509Ext L) (id : ConversationId) :
    Mut (CentralWorld L) E2eiConversationState := do
  let c ← getConversation id
  pure (X.e2eiConversationState c)

/-- Modelled from the spec: an operation on a stored conversation, as the central's
`add_members_to_conversation`, `remove_members_from_conversation` and `decrypt_message`
(`mls/conversation.rs`, not in the sources) run it: the conversation `get_conversation`
returns, the operation on it and the keystore, and the store's handle pointing at the
conversation as the operation left it, whatever it returned. -/
def conversationCall (id : ConversationId) (call : ConversationCall L) : Mut (CentralWorld L) Unit :=
  getConversation id >>= fun c w =>
    let r := call.run (c, w.keystore)
    ({ w with central := ⟨w.central.mlsGroups.insert id r.1.1⟩, keystore := r.1.2 }, r.2)

/-! ### External commits -/

/-- `keystore.mls_pending_groups_save(id, state, cfg).await?`. -/
def pendingGroupsSave (id : ConversationId) (state cfg : Bytes) (answer : KeystoreAnswer) :
    Mut Keystore Unit := fun ks =>
  match ks.mlsPendingGroupsSave id state cfg answer with
  | .ok ks' => (ks', .ok ())
  | .error e => (ks, .error (.keyStoreError e))

/-- `MlsCentral::join_by_external_commit` (`external_commit.rs:76-116`), given what
`serde_json::to_vec(&custom_cfg)` returned, what `MlsGroup::join_by_external_commit`
returned (the joined group and the commit; converting the configuration it is given is part
of that outcome), what `MlsPublicGroupStateBundle::try_new_full_plaintext` returned, and the
backend's answer to the pending row's save. The bundle is built after the save, so a failure
there leaves the pending row written. -/
def joinByExternalCommit (serializedCfg : Except String Bytes)
    (joined : Except MlsError (L.GroupState × L.MlsMessageOut)) (bundled : Except CryptoError Unit)
    (answer : KeystoreAnswer) : Mut (CentralWorld L) (ConversationId × L.MlsMessageOut) := do
  let _ ← requireClient
  let cfg ← Mut.lift (serializedCfg.mapError fun e => .mlsError (.mlsKeystoreSerializationError e))
  let (s, commit) ← Mut.lift (joined.mapError .mlsError)
  let (buf, _) ← Mut.lift (MlsGroup.mutate s).save
  onKeystore (pendingGroupsSave (L.groupId s) buf cfg answer)
  Mut.lift bundled
  pure (L.groupId s, commit)

/-- `MlsCentral::clear_pending_group_from_external_commit` (`external_commit.rs:161-163`). -/
def clearPendingGroupFromExternalCommit (id : ConversationId) (answer : KeystoreAnswer) :
    Mut (CentralWorld L) Unit :=
  onKeystore (pendingGroupsDelete id answer)

/-! ### Restoring the groups -/

section Restore

/-! `GroupStore::try_insert` (not in the sources) refuses a conversation when the store is
full; `hasRoom store` says whether the store takes one more. -/

variable (hasRoom : AList (fun _ : ConversationId => MlsConversation L) → Bool)

/-- The loop of `restore_groups` (`mod.rs:338-343`) over the persisted rows, in the order
`mls_groups_restore` yields them: each row's conversation is read back and inserted while the
store has room; a refusal ends the loop (`break`) with what was restored so far, and a row
that does not deserialize fails the whole restore. -/
def restoreGroupsLoop : List (Σ _ : ConversationId, Bytes) →
    AList (fun _ : ConversationId => MlsConversation L) →
      Except CryptoError (AList (fun _ : ConversationId => MlsConversation L))
  | [], store => .ok store
  | row :: rows, store => do
    let conversation ← MlsConversation.fromSerializedState row.2
    if hasRoom store then restoreGroupsLoop rows (store.insert row.1 conversation)
    else .ok store

/-- `MlsCentral::restore_groups` (`mod.rs:326-346`). The `parent_id` of a row is not read by
this version's `from_serialized_state`. -/
def restoreGroups (ks : Keystore) :
    Except CryptoError (AList (fun _ : ConversationId => MlsConversation L)) :=
  restoreGroupsLoop hasRoom ks.mlsGroups.entries ∅

/-- `MlsCentral::restore_from_disk` (`mod.rs:353-356`): the store is replaced only when the
restore succeeded. -/
def restoreFromDisk : Mut (CentralWorld L) Unit := fun w =>
  match restoreGroups hasRoom w.keystore with
  | .ok mlsGroups => ({ w with central := ⟨mlsGroups⟩ }, .ok ())
  | .error e => (w, .error e)

/-- `MlsCentral::try_new` and `try_new_in_memory` (`mod.rs:208-272`) on the keystore the
backend opened: the client `Client::init` built when the configuration names one
(`clientInit` is `none` when it names none), and the restored groups. -/
def tryNew (clientInit : Option (Except CryptoError ClientId)) (ks : Keystore) :
    Except CryptoError (CentralWorld L) := do
  let mlsClient ← match clientInit with
    | some init => some <$> init
    | none => pure none
  let mlsGroups ← restoreGroups hasRoom ks
  pure ⟨mlsClient, ⟨mlsGroups⟩, ks⟩

end Restore

end MlsCentral

/-- A call on the central. The reads through `get_conversation` (`e2ei_conversation_state`,
`export_public_group_state`) change the central only as `get_conversation` does. -/
inductive CentralCall (L : OpenMls) where
  | mlsInit (init : Except CryptoError ClientId)
  | mlsInitWithClientId (clientId : ClientId) (init : Except CryptoError Unit)
  | newConversation (id : ConversationId) (authorKeypackageHash : Except CryptoError Bytes)
      (config : MlsConversationConfiguration L) (answer : KeystoreAnswer)
  | processWelcomeMessage (welcome : L.Welcome) (answer : KeystoreAnswer)
  | joinByExternalCommit (serializedCfg : Except String Bytes)
      (joined : Except MlsError (L.GroupState × L.MlsMessageOut)) (bundled : Except CryptoError Unit)
      (answer : KeystoreAnswer)
  | mergePendingGroupFromExternalCommit (customConfigFromSlice : Bytes → Except String Unit)
      (id : ConversationId) (persistAnswer deleteAnswer : KeystoreAnswer)
  | clearPendingGroupFromExternalCommit (id : ConversationId) (answer : KeystoreAnswer)
  | restoreFromDisk
  | getConversation (id : ConversationId)
  | conversationExists (id : ConversationId)
  | conversation (id : ConversationId) (call : ConversationCall L)

/-- Run a call, forgetting what it returns. -/
def CentralCall.run (hasRoom : AList (fun _ : ConversationId => MlsConversation L) → Bool) :
    CentralCall L → Mut (CentralWorld L) Unit
  | .mlsInit init => MlsCentral.mlsInit init
  | .mlsInitWithClientId clientId init => MlsCentral.mlsInitWithClientId clientId init
  | .newConversation id hash config answer => MlsCentral.newConversation id hash config answer
  | .processWelcomeMessage welcome answer => do
    let _ ← MlsCentral.processWelcomeMessage welcome answer
  | .joinByExternalCommit serializedCfg joined bundled answer => do
    let _ ← MlsCentral.joinByExternalCommit serializedCfg joined bundled answer
  | .mergePendingGroupFromExternalCommit customConfigFromSlice id persistAnswer deleteAnswer =>
    MlsCentral.onStore (MlsCentral.mergePendingGroupFromExternalCommit customConfigFromSlice id
      persistAnswer deleteAnswer)
  | .clearPendingGroupFromExternalCommit id answer =>
    MlsCentral.clearPendingGroupFromExternalCommit id answer
  | .restoreFromDisk => MlsCentral.restoreFromDisk hasRoom
  | .getConversation id => do
    let _ ← MlsCentral.getConversation id
  | .conversationExists id => do
    let _ ← MlsCentral.conversationExists id
  | .conversation id call => MlsCentral.conversationCall id call

/-! ## Everything filed under its own id -/

/-- The group store and the keystore, with everything filed under its own id. -/
structure StoreKeyed (w : MlsCentral L × Keystore) : Prop where
  store : ∀ id c, w.1.mlsGroups.lookup id = some c → ConversationKeyed id c
  keystore : KeystoreKeyed L w.2

/-- The central, with everything filed under its own id. -/
def CentralKeyed (w : CentralWorld L) : Prop := StoreKeyed (w.central, w.keystore)

theorem StoreKeyed.withKeystore {w : MlsCentral L × Keystore} (h : StoreKeyed w) {ks : Keystore}
    (hks : KeystoreKeyed L ks) : StoreKeyed (w.1, ks) :=
  ⟨h.store, hks⟩

theorem StoreKeyed.insert {central : MlsCentral L} {ks : Keystore} (h : StoreKeyed (central, ks))
    {id : ConversationId} {c : MlsConversation L} (hc : ConversationKeyed id c) :
    StoreKeyed (⟨central.mlsGroups.insert id c⟩, ks) :=
  ⟨forall_lookup_insert h.store hc, h.keystore⟩

namespace MlsCentral

/-! ### One lemma per step -/

theorem onStore_keyed {α : Type} {m : Mut (MlsCentral L × Keystore) α}
    (hm : Mut.Preserves StoreKeyed m) : Mut.Preserves CentralKeyed (onStore m) :=
  fun _ hw => hm _ hw

theorem onKeystore_ensures {α : Type} {m : Mut Keystore α} {R : α → Prop}
    (hm : Mut.Ensures (KeystoreKeyed L) m R) :
    Mut.Ensures (CentralKeyed (L := L)) (onKeystore m) R :=
  fun _ hw => ⟨⟨hw.store, (hm _ hw.keystore).1⟩, (hm _ hw.keystore).2⟩

theorem onKeystore_keyed {α : Type} {m : Mut Keystore α} (hm : Mut.Preserves (KeystoreKeyed L) m) :
    Mut.Preserves (CentralKeyed (L := L)) (onKeystore m) :=
  fun _ hw => ⟨hw.store, hm _ hw.keystore⟩

theorem requireClient_keyed : Mut.Preserves (CentralKeyed (L := L)) requireClient :=
  fun _ h => h

theorem insertConversation_keyed {id : ConversationId} {c : MlsConversation L}
    (hc : ConversationKeyed id c) : Mut.Preserves CentralKeyed (insertConversation id c) :=
  fun _ hw => StoreKeyed.insert hw hc

theorem initClient_keyed (init : Except CryptoError ClientId) :
    Mut.Preserves (CentralKeyed (L := L)) (initClient init) := by
  intro w hw
  unfold initClient
  split
  · exact hw
  · split <;> exact hw

theorem newConversation_keyed (hnew : L.NewKeepsId) (hid : L.MutationsKeepId) (id : ConversationId)
    (hash : Except CryptoError Bytes) (config : MlsConversationConfiguration L)
    (answer : KeystoreAnswer) : Mut.Preserves CentralKeyed (newConversation id hash config answer) :=
  .bind requireClient_keyed fun _ =>
    (onKeystore_ensures (MlsConversation.create_ensures hnew hid id hash config answer)).bind
      fun ⟨_, _⟩ hc => insertConversation_keyed hc

theorem processWelcomeMessage_keyed (welcome : L.Welcome) (answer : KeystoreAnswer) :
    Mut.Preserves CentralKeyed (processWelcomeMessage welcome answer) :=
  (onKeystore_ensures (MlsConversation.fromWelcomeMessage_ensures welcome {} answer)).bind
    fun _ hc => .bind (insertConversation_keyed hc) fun _ => .pure _

/-- `get_fetch` keeps everything filed, and what it returns is filed under the id asked for:
a hydrated conversation comes from the row under that id. -/
theorem getFetch_ensures (hload : L.LoadInvertsSave) (id : ConversationId) :
    Mut.Ensures (CentralKeyed (L := L)) (getFetch id)
      (fun o => ∀ c, o = some c → ConversationKeyed id c) := by
  intro w hw
  unfold getFetch
  split
  · next c hc => exact ⟨hw, fun _ h c' hc' => by cases h; cases hc'; exact hw.store _ _ hc⟩
  · split
    · exact ⟨hw, fun _ h c hc => by cases h; cases hc⟩
    · next buf hbuf =>
      obtain ⟨c, hc, hck⟩ := fromSerializedState_of_filed hload (hw.keystore.groups _ _ hbuf)
      rw [hc]
      exact ⟨StoreKeyed.insert hw hck, fun _ h c' hc' => by cases h; cases hc'; exact hck⟩

theorem getConversation_ensures (hload : L.LoadInvertsSave) (id : ConversationId) :
    Mut.Ensures (CentralKeyed (L := L)) (getConversation id) (ConversationKeyed id) :=
  (getFetch_ensures hload id).bind_ensures fun
    | some c, hc => fun _ hw => ⟨hw, fun _ h => by cases h; exact hc c rfl⟩
    | none, _ => fun _ hw => ⟨hw, fun _ h => by cases h⟩

theorem conversationExists_keyed (hload : L.LoadInvertsSave) (id : ConversationId) :
    Mut.Preserves CentralKeyed (conversationExists (L := L) id) :=
  fun w hw => (getFetch_ensures hload id w hw).1

theorem conversationCall_keyed (hid : L.MutationsKeepId) (happ : L.ApplicationKeepsRoster)
    (hload : L.LoadInvertsSave) (id : ConversationId) (call : ConversationCall L) :
    Mut.Preserves CentralKeyed (conversationCall id call) :=
  (getConversation_ensures hload id).bind fun c hc w hw =>
    have h := MlsConversation.run_keyed hid happ call (c, w.keystore) ⟨hc, hw.keystore⟩
    StoreKeyed.insert (StoreKeyed.withKeystore hw h.2) h.1

theorem pendingGroupsSave_keyed {id : ConversationId} {state : Bytes} (hf : FiledUnder L id state)
    (cfg : Bytes) (answer : KeystoreAnswer) :
    Mut.Preserves (KeystoreKeyed L) (pendingGroupsSave id state cfg answer) := by
  intro ks hks
  obtain _ | ⟨⟨⟩⟩ := answer
  · exact hks
  · exact hks.savePending hf cfg

theorem pendingGroupsDelete_keyed (id : ConversationId) (answer : KeystoreAnswer) :
    Mut.Preserves (KeystoreKeyed L) (pendingGroupsDelete id answer) := by
  intro ks hks
  obtain _ | ⟨⟨⟩⟩ := answer
  · exact hks
  · exact hks.deletePending id

/-- A join files its pending row under the joined group's id. -/
theorem joinByExternalCommit_keyed (serializedCfg : Except String Bytes)
    (joined : Except MlsError (L.GroupState × L.MlsMessageOut)) (bundled : Except CryptoError Unit)
    (answer : KeystoreAnswer) :
    Mut.Preserves CentralKeyed (joinByExternalCommit serializedCfg joined bundled answer) :=
  .bind requireClient_keyed fun _ => .bind (.lift _) fun cfg => .bind (.lift _) fun ⟨s, _⟩ =>
    (Mut.Ensures.lift _).bind fun ⟨_, _⟩ hsave =>
      .bind (onKeystore_keyed
        (pendingGroupsSave_keyed ⟨s, (MlsGroup.save_eq_ok hsave).1, rfl⟩ cfg answer)) fun _ =>
        .bind (.lift _) fun _ => .pure _

/-- The group a pending row merges into carries the row's id. -/
theorem mergedPendingGroup_groupId (hload : L.LoadInvertsSave) (hid : L.MutationsKeepId)
    {customConfigFromSlice : Bytes → Except String Unit} {id : ConversationId} {ks : Keystore}
    {merged : L.GroupState} (hks : KeystoreKeyed L ks)
    (h : mergedPendingGroup customConfigFromSlice id ks = .ok merged) : L.groupId merged = id := by
  unfold mergedPendingGroup at h
  rcases hrow : ks.mlsPendingGroups.lookup id with _ | ⟨group, cfg⟩
  · simp [Keystore.mlsPendingGroupsLoad, hrow, bind, Except.bind, Except.mapError] at h
  obtain ⟨s, hs, rfl⟩ := hks.pending _ _ hrow
  rcases hm : L.mergePendingCommit s with e | merged'
  · simp [Keystore.mlsPendingGroupsLoad, hrow, MlsGroup.load, hload s group hs, hm, bind,
      Except.bind, Except.mapError, Except.map] at h
  · rcases hc : customConfigFromSlice cfg with e | ⟨⟩
    · simp [Keystore.mlsPendingGroupsLoad, hrow, MlsGroup.load, hload s group hs, hm, hc, bind,
        Except.bind, Except.mapError, Except.map] at h
    · simp [Keystore.mlsPendingGroupsLoad, hrow, MlsGroup.load, hload s group hs, hm, hc, bind,
        Except.bind, Except.mapError, Except.map, pure, Except.pure] at h
      exact h ▸ hid.2.2.1 _ _ hm

/-- The merge files the merged conversation, and its row, under the pending row's id. -/
theorem mergePendingGroup_keyed (hload : L.LoadInvertsSave) (hid : L.MutationsKeepId)
    (customConfigFromSlice : Bytes → Except String Unit) (id : ConversationId)
    (persistAnswer deleteAnswer : KeystoreAnswer) :
    Mut.Preserves (StoreKeyed (L := L))
      (mergePendingGroupFromExternalCommit customConfigFromSlice id persistAnswer deleteAnswer) := by
  intro w hw
  rcases h : mergePendingGroupFromExternalCommit customConfigFromSlice id persistAnswer
    deleteAnswer w with ⟨w', e | ⟨⟩⟩
  · rcases mergePendingGroup_eq_error customConfigFromSlice h with rfl | ⟨merged, buf, _, hm, hs, -, -, rfl⟩
    · exact hw
    · have hgid := mergedPendingGroup_groupId hload hid hw.keystore hm
      exact (hw.withKeystore (hw.keystore.persist ⟨merged, hs, rfl⟩)).insert ⟨hgid, hgid⟩
  · obtain ⟨merged, buf, hm, hs, -, -, rfl⟩ := mergePendingGroup_eq_ok customConfigFromSlice h
    have hgid := mergedPendingGroup_groupId hload hid hw.keystore hm
    exact (hw.withKeystore ((hw.keystore.persist ⟨merged, hs, rfl⟩).deletePending id)).insert
      ⟨hgid, hgid⟩

/-! ### Restoring -/

section Restore

variable (hasRoom : AList (fun _ : ConversationId => MlsConversation L) → Bool)

/-- What the loop makes of rows that all read back: it succeeds; each conversation of the
result was in the store or is a row's, read under the row's id; and when the store always has
room, the result holds every row. -/
theorem restoreGroupsLoop_spec (rows : List (Σ _ : ConversationId, Bytes))
    (hrows : ∀ row ∈ rows, ∃ c : MlsConversation L, MlsConversation.fromSerializedState row.2 = .ok c)
    (store : AList (fun _ : ConversationId => MlsConversation L)) :
    ∃ store', restoreGroupsLoop hasRoom rows store = .ok store' ∧
      (∀ id c, store'.lookup id = some c → store.lookup id = some c ∨
        ∃ row ∈ rows, row.1 = id ∧ MlsConversation.fromSerializedState row.2 = .ok c) ∧
      ((∀ s, hasRoom s = true) → ∀ id, id ∈ store' ↔ id ∈ store ∨ ∃ row ∈ rows, row.1 = id) := by
  induction rows generalizing store with
  | nil => exact ⟨store, rfl, fun _ _ h => .inl h, fun _ _ => by simp⟩
  | cons row rows ih =>
    obtain ⟨c, hc⟩ := hrows row (List.mem_cons_self _ _)
    obtain ⟨store', h1, h2, h3⟩ :=
      ih (fun r hr => hrows r (List.mem_cons_of_mem _ hr)) (store.insert row.1 c)
    cases hroom : hasRoom store
    · refine ⟨store, by simp [restoreGroupsLoop, hc, hroom, bind, Except.bind], fun _ _ h => .inl h,
        fun hall => ?_⟩
      simp [hall store] at hroom
    · refine ⟨store', by simp [restoreGroupsLoop, hc, hroom, bind, Except.bind, h1],
        fun id c' hlk => ?_, fun hall id => ?_⟩
      · rcases h2 id c' hlk with hins | ⟨r, hr, rfl, hrc⟩
        · by_cases hid : id = row.1
          · subst hid
            rw [AList.lookup_insert] at hins
            cases hins
            exact .inr ⟨row, List.mem_cons_self _ _, rfl, hc⟩
          · exact .inl (by rwa [AList.lookup_insert_ne hid] at hins)
        · exact .inr ⟨r, List.mem_cons_of_mem _ hr, rfl, hrc⟩
      · rw [h3 hall, AList.mem_insert]
        simp only [List.mem_cons, or_and_right, exists_or, exists_eq_left, @eq_comm _ row.1 id]
        exact or_assoc.trans or_left_comm

/-- On a keystore whose rows are filed, `restore_groups` succeeds; every conversation it
restores sits under its own id and is what `from_serialized_state` reads from the row under
that id; with a store that always has room, it restores every row. -/
theorem restoreGroups_of_keyed (hload : L.LoadInvertsSave) {ks : Keystore}
    (hks : KeystoreKeyed L ks) :
    ∃ mlsGroups, restoreGroups hasRoom ks = .ok mlsGroups ∧
      (∀ id c, mlsGroups.lookup id = some c → ConversationKeyed id c ∧
        ∃ buf, ks.mlsGroups.lookup id = some buf ∧ MlsConversation.fromSerializedState buf = .ok c) ∧
      ((∀ s, hasRoom s = true) → ∀ id, id ∈ mlsGroups ↔ id ∈ ks.mlsGroups) := by
  have hrow : ∀ row ∈ ks.mlsGroups.entries, ks.mlsGroups.lookup row.1 = some row.2 :=
    fun row hr => AList.mem_lookup_iff.2 hr
  have hfiled := fun row hr => fromSerializedState_of_filed hload (hks.groups _ _ (hrow row hr))
  obtain ⟨mlsGroups, h1, h2, h3⟩ := restoreGroupsLoop_spec hasRoom ks.mlsGroups.entries
    (fun row hr => (hfiled row hr).imp fun _ h => h.1) ∅
  refine ⟨mlsGroups, h1, fun id c hlk => ?_, fun hall id => ?_⟩
  · rcases h2 id c hlk with h | ⟨row, hr, rfl, hrc⟩
    · cases h
    · obtain ⟨c', hc', hkeyed⟩ := hfiled row hr
      rw [hrc] at hc'
      cases hc'
      exact ⟨hkeyed, row.2, hrow row hr, hrc⟩
  · rw [h3 hall]
    constructor
    · rintro (h | ⟨row, hr, rfl⟩)
      · exact absurd h (AList.not_mem_empty _)
      · exact AList.lookup_isSome.1 (by rw [hrow row hr]; rfl)
    · intro h
      obtain ⟨b, hb⟩ := Option.isSome_iff_exists.1 (AList.lookup_isSome.2 h)
      exact .inr ⟨⟨id, b⟩, AList.mem_lookup_iff.1 hb, rfl⟩

theorem restoreFromDisk_keyed (hload : L.LoadInvertsSave) :
    Mut.Preserves CentralKeyed (restoreFromDisk hasRoom) := by
  intro w hw
  obtain ⟨mlsGroups, h, hlk, -⟩ := restoreGroups_of_keyed hasRoom hload hw.keystore
  unfold restoreFromDisk
  rw [h]
  exact ⟨fun id c hc => (hlk id c hc).1, hw.keystore⟩

theorem tryNew_keyed (hload : L.LoadInvertsSave) {clientInit : Option (Except CryptoError ClientId)}
    {ks : Keystore} {w : CentralWorld L} (hks : KeystoreKeyed L ks)
    (h : tryNew hasRoom clientInit ks = .ok w) : CentralKeyed w := by
  obtain ⟨mlsGroups, hr, hlk, -⟩ := restoreGroups_of_keyed hasRoom hload hks
  unfold tryNew at h
  rcases clientInit with _ | _ | c <;>
    simp [hr, bind, Except.bind, pure, Except.pure, Functor.map, Except.map] at h <;>
    (subst h; exact ⟨fun id c hc => (hlk id c hc).1, hks⟩)

end Restore

end MlsCentral

/-! ## Runs -/

section Runs

variable (hasRoom : AList (fun _ : ConversationId => MlsConversation L) → Bool)

/-- Centrals reached from `try_new`, on a keystore whose rows are filed (the empty one, or one
a run left), by any sequence of calls, whatever each returned. -/
inductive CentralReachable : CentralWorld L → Prop
  | tryNew {clientInit : Option (Except CryptoError ClientId)} {ks : Keystore} {w : CentralWorld L} :
      KeystoreKeyed L ks → MlsCentral.tryNew hasRoom clientInit ks = .ok w → CentralReachable w
  | call {w : CentralWorld L} (call : CentralCall L) :
      CentralReachable w → CentralReachable (call.run hasRoom w).1

section Laws

variable (hnew : L.NewKeepsId) (hid : L.MutationsKeepId) (happ : L.ApplicationKeepsRoster)
  (hload : L.LoadInvertsSave)
include hnew hid happ hload

/-- **Step lemma.** Every call on the central keeps everything filed under its own id,
whatever it returns. -/
theorem CentralCall.run_keyed (call : CentralCall L) :
    Mut.Preserves CentralKeyed (call.run hasRoom) := by
  cases call with
  | mlsInit init => exact MlsCentral.initClient_keyed init
  | mlsInitWithClientId clientId init => exact MlsCentral.initClient_keyed _
  | newConversation id hash config answer =>
    exact MlsCentral.newConversation_keyed hnew hid id hash config answer
  | processWelcomeMessage welcome answer =>
    exact .bind (MlsCentral.processWelcomeMessage_keyed welcome answer) fun _ => .pure _
  | joinByExternalCommit serializedCfg joined bundled answer =>
    exact .bind (MlsCentral.joinByExternalCommit_keyed serializedCfg joined bundled answer)
      fun _ => .pure _
  | mergePendingGroupFromExternalCommit customConfigFromSlice id persistAnswer deleteAnswer =>
    exact MlsCentral.onStore_keyed (MlsCentral.mergePendingGroup_keyed hload hid
      customConfigFromSlice id persistAnswer deleteAnswer)
  | clearPendingGroupFromExternalCommit id answer =>
    exact MlsCentral.onKeystore_keyed (MlsCentral.pendingGroupsDelete_keyed id answer)
  | restoreFromDisk => exact MlsCentral.restoreFromDisk_keyed hasRoom hload
  | getConversation id =>
    exact .bind (MlsCentral.getConversation_ensures hload id).preserves fun _ => .pure _
  | conversationExists id =>
    exact .bind (MlsCentral.conversationExists_keyed hload id) fun _ => .pure _
  | conversation id call => exact MlsCentral.conversationCall_keyed hid happ hload id call

/-- **Run lemma.** In every reachable central, every conversation of the group store sits
under its own id and holds a group of that id, and every row of both MLS partitions holds a
group serialized under its own id. -/
theorem CentralReachable.keyed {w : CentralWorld L} (hw : CentralReachable hasRoom w) :
    CentralKeyed w := by
  induction hw with
  | tryNew hks h => exact MlsCentral.tryNew_keyed hasRoom hload hks h
  | call call _ ih => exact CentralCall.run_keyed hasRoom hnew hid happ hload call _ ih

/-- **Filed under its own id.** In every reachable central, whatever each call returned, every
conversation of the group store sits under its own id and holds a group of that id, and every
row of `mls_groups` and of `mls_pending_groups` holds a group serialized under its own id. -/
theorem reachable_filed_under_own_id {w : CentralWorld L} (hw : CentralReachable hasRoom w) :
    (∀ id c, w.central.mlsGroups.lookup id = some c → c.id = id ∧ L.groupId c.group.state = id) ∧
    (∀ id buf, w.keystore.mlsGroups.lookup id = some buf →
      ∃ s, L.save s = .ok buf ∧ L.groupId s = id) ∧
    (∀ id row, w.keystore.mlsPendingGroups.lookup id = some row →
      ∃ s, L.save s = .ok row.1 ∧ L.groupId s = id) :=
  have h := hw.keyed hasRoom hnew hid happ hload
  ⟨h.store, h.keystore.groups, h.keystore.pending⟩

/-- **Restart.** In every reachable central, restoring the groups from its keystore (as
`restore_from_disk`, or `try_new` in a new process, does) succeeds; each conversation it
restores sits under its own id and is what `from_serialized_state` reads from the row under
that id; and with a store that always has room, it restores exactly the persisted ids. -/
theorem reachable_restoreGroups {w : CentralWorld L} (hw : CentralReachable hasRoom w) :
    ∃ mlsGroups, MlsCentral.restoreGroups hasRoom w.keystore = .ok mlsGroups ∧
      (∀ id c, mlsGroups.lookup id = some c → c.id = id ∧
        ∃ buf, w.keystore.mlsGroups.lookup id = some buf ∧
          MlsConversation.fromSerializedState buf = .ok c) ∧
      ((∀ s, hasRoom s = true) → ∀ id, id ∈ mlsGroups ↔ id ∈ w.keystore.mlsGroups) := by
  obtain ⟨mlsGroups, h, hlk, hall⟩ :=
    MlsCentral.restoreGroups_of_keyed hasRoom hload (hw.keyed hasRoom hnew hid happ hload).keystore
  exact ⟨mlsGroups, h, fun id c hc => ⟨(hlk id c hc).1.1, (hlk id c hc).2⟩, hall⟩

/-- **Lookups.** In every reachable central `get_fetch` never fails: it returns a
conversation filed under the id asked for (from memory, else read from the row), and `None`
exactly when the id is neither in memory nor in the keystore; so `conversation_exists`
answers just that. -/
theorem reachable_getFetch {w : CentralWorld L} (hw : CentralReachable hasRoom w)
    (id : ConversationId) :
    (∃ w' o, MlsCentral.getFetch id w = (w', .ok o) ∧
      (o.isSome ↔ id ∈ w.central.mlsGroups ∨ id ∈ w.keystore.mlsGroups) ∧
      ∀ c, o = some c → c.id = id) ∧
    (MlsCentral.conversationExists id w).2 =
      .ok (decide (id ∈ w.central.mlsGroups ∨ id ∈ w.keystore.mlsGroups)) := by
  have hk := hw.keyed hasRoom hnew hid happ hload
  have hfetch := (MlsCentral.getFetch_ensures hload id w hk).2
  simp only [← AList.lookup_isSome]
  unfold MlsCentral.conversationExists
  unfold MlsCentral.getFetch at hfetch ⊢
  rcases hmem : w.central.mlsGroups.lookup id with _ | c
  · rcases hrow : w.keystore.mlsGroups.lookup id with _ | buf
    · simp only [hmem, hrow]
      exact ⟨⟨w, none, rfl, by simp, fun _ h => by cases h⟩, by simp⟩
    · obtain ⟨c, hc, -⟩ := fromSerializedState_of_filed hload (hk.keystore.groups _ _ hrow)
      simp only [hmem, hrow, hc] at hfetch ⊢
      exact ⟨⟨_, _, rfl, by simp, fun _ h => (hfetch _ rfl _ h).1⟩, by simp⟩
  · simp only [hmem] at hfetch ⊢
    exact ⟨⟨_, _, rfl, by simp, fun _ h => (hfetch _ rfl _ h).1⟩, by simp⟩

/-- **The group store is a cache.** In every reachable central, `get_fetch` returns the
conversation the central holds under the id (in memory, else read from its row), and leaves
what it holds under every id, the keystore and the client as they were: hydrating a
conversation changes what no later lookup returns. -/
theorem reachable_getFetch_cached {w : CentralWorld L} (hw : CentralReachable hasRoom w)
    (id : ConversationId) :
    ∃ w', MlsCentral.getFetch id w = (w', .ok (MlsCentral.storedConversation w id)) ∧
      (∀ id', MlsCentral.storedConversation w' id' = MlsCentral.storedConversation w id') ∧
      w'.keystore = w.keystore ∧ w'.mlsClient = w.mlsClient := by
  have hk := hw.keyed hasRoom hnew hid happ hload
  unfold MlsCentral.getFetch
  rcases hmem : w.central.mlsGroups.lookup id with _ | c
  · rcases hrow : w.keystore.mlsGroups.lookup id with _ | buf
    · exact ⟨w, by simp [MlsCentral.storedConversation, hmem, hrow], fun _ => rfl, rfl, rfl⟩
    · -- a miss hydrates the row, which reads back on a reachable keystore
      obtain ⟨c, hc, -⟩ := fromSerializedState_of_filed hload (hk.keystore.groups _ _ hrow)
      refine ⟨{ w with central := ⟨w.central.mlsGroups.insert id c⟩ },
        by simp [MlsCentral.storedConversation, hmem, hrow, hc, Except.toOption], fun id' => ?_, rfl, rfl⟩
      by_cases h : id' = id
      · subst h
        simp [MlsCentral.storedConversation, hmem, hrow, hc, Except.toOption]
      · simp [MlsCentral.storedConversation, AList.lookup_insert_ne h]
  · exact ⟨w, by simp [MlsCentral.storedConversation, hmem], fun _ => rfl, rfl, rfl⟩

end Laws

/-- The central `try_new` opens for client `[7]` on an empty keystore, after a
`new_conversation` for `[1]`. -/
def createdCentral : CentralWorld tallyLib :=
  (CentralCall.run (fun _ => true) (.newConversation [1] (.ok []) {} (.ok ()))
    ⟨some [7], ⟨∅⟩, Keystore.empty⟩).1

theorem createdCentral_reachable : CentralReachable (fun _ => true) createdCentral :=
  .call _ (@CentralReachable.tryNew tallyLib (fun _ => true) (some (.ok [7])) Keystore.empty _
    KeystoreKeyed.empty rfl)

/-- Everything in the central above is filed under its own id. -/
theorem createdCentral_filed :
    (∀ id c, createdCentral.central.mlsGroups.lookup id = some c →
      c.id = id ∧ tallyLib.groupId c.group.state = id) ∧
    (∀ id buf, createdCentral.keystore.mlsGroups.lookup id = some buf →
      ∃ s, tallyLib.save s = .ok buf ∧ tallyLib.groupId s = id) ∧
    (∀ id row, createdCentral.keystore.mlsPendingGroups.lookup id = some row →
      ∃ s, tallyLib.save s = .ok row.1 ∧ tallyLib.groupId s = id) :=
  reachable_filed_under_own_id _ tallyLib_newKeepsId tallyLib_mutationsKeepId
    tallyLib_applicationKeepsRoster tallyLib_loadInvertsSave createdCentral_reachable

/-- Restarting the central above restores what its keystore holds. -/
theorem createdCentral_restart :
    ∃ mlsGroups : AList fun _ : ConversationId => MlsConversation tallyLib,
      MlsCentral.restoreGroups (fun _ => true) createdCentral.keystore = .ok mlsGroups ∧
      (∀ id c, mlsGroups.lookup id = some c → c.id = id ∧
        ∃ buf, createdCentral.keystore.mlsGroups.lookup id = some buf ∧
          MlsConversation.fromSerializedState buf = .ok c) ∧
      ((∀ s, (fun _ => true : AList (fun _ : ConversationId => MlsConversation tallyLib) → Bool) s
        = true) → ∀ id, id ∈ mlsGroups ↔ id ∈ createdCentral.keystore.mlsGroups) :=
  reachable_restoreGroups _ tallyLib_newKeepsId tallyLib_mutationsKeepId
    tallyLib_applicationKeepsRoster tallyLib_loadInvertsSave createdCentral_reachable

/-- The central above after a `restore_from_disk` in a process whose group store takes nothing:
the store is emptied, and conversation `[1]` is left only as its row. -/
def restoredCentral : CentralWorld tallyLib :=
  (CentralCall.run (fun _ => false) .restoreFromDisk createdCentral).1

theorem restoredCentral_reachable : CentralReachable (fun _ => false) restoredCentral :=
  .call _ (.call (.newConversation [1] (.ok []) {} (.ok ()))
    (@CentralReachable.tryNew tallyLib (fun _ => false) (some (.ok [7])) Keystore.empty _
      KeystoreKeyed.empty rfl))

/-- Fetching conversation `[1]` through the cache: from memory in the central above, and
hydrated from its row in the restored central, where it is only in the keystore. -/
theorem createdCentral_getFetch_cached :
    (∃ w', MlsCentral.getFetch [1] createdCentral =
        (w', .ok (MlsCentral.storedConversation createdCentral [1])) ∧
      (∀ id', MlsCentral.storedConversation w' id' = MlsCentral.storedConversation createdCentral id') ∧
      w'.keystore = createdCentral.keystore ∧ w'.mlsClient = createdCentral.mlsClient) ∧
    restoredCentral.central.mlsGroups.lookup [1] = none ∧
    restoredCentral.keystore.mlsGroups.lookup [1] = some [0] ∧
    (∃ w', MlsCentral.getFetch [1] restoredCentral =
        (w', .ok (MlsCentral.storedConversation restoredCentral [1])) ∧
      (∀ id', MlsCentral.storedConversation w' id' = MlsCentral.storedConversation restoredCentral id') ∧
      w'.keystore = restoredCentral.keystore ∧ w'.mlsClient = restoredCentral.mlsClient) :=
  ⟨reachable_getFetch_cached _ tallyLib_newKeepsId tallyLib_mutationsKeepId
    tallyLib_applicationKeepsRoster tallyLib_loadInvertsSave createdCentral_reachable [1], rfl, rfl,
    reachable_getFetch_cached _ tallyLib_newKeepsId tallyLib_mutationsKeepId
    tallyLib_applicationKeepsRoster tallyLib_loadInvertsSave restoredCentral_reachable [1]⟩

/-- Looking conversation `[1]` up in the central above, where it is in memory, and in the
restored central, where it is only in the keystore. -/
theorem createdCentral_getFetch :
    ((∃ w' o, MlsCentral.getFetch [1] createdCentral = (w', .ok o) ∧
      (o.isSome ↔ [1] ∈ createdCentral.central.mlsGroups ∨
        [1] ∈ createdCentral.keystore.mlsGroups) ∧
      ∀ c, o = some c → c.id = [1]) ∧
    (MlsCentral.conversationExists [1] createdCentral).2 =
      .ok (decide ([1] ∈ createdCentral.central.mlsGroups ∨
        [1] ∈ createdCentral.keystore.mlsGroups))) ∧
    restoredCentral.central.mlsGroups.lookup [1] = none ∧
    restoredCentral.keystore.mlsGroups.lookup [1] = some [0] ∧
    (∃ w' o, MlsCentral.getFetch [1] restoredCentral = (w', .ok o) ∧
      (o.isSome ↔ [1] ∈ restoredCentral.central.mlsGroups ∨
        [1] ∈ restoredCentral.keystore.mlsGroups) ∧
      ∀ c, o = some c → c.id = [1]) ∧
    (MlsCentral.conversationExists [1] restoredCentral).2 =
      .ok (decide ([1] ∈ restoredCentral.central.mlsGroups ∨
        [1] ∈ restoredCentral.keystore.mlsGroups)) :=
  ⟨reachable_getFetch _ tallyLib_newKeepsId tallyLib_mutationsKeepId
    tallyLib_applicationKeepsRoster tallyLib_loadInvertsSave createdCentral_reachable [1], rfl, rfl,
    reachable_getFetch _ tallyLib_newKeepsId tallyLib_mutationsKeepId
    tallyLib_applicationKeepsRoster tallyLib_loadInvertsSave restoredCentral_reachable [1]⟩

/-! ### One client -/

theorem MlsCentral.initClient_mlsClient (init : Except CryptoError ClientId) (w : CentralWorld L) :
    (MlsCentral.initClient init w).1.mlsClient = w.mlsClient ∨ w.mlsClient = none := by
  unfold MlsCentral.initClient
  split
  · exact .inl rfl
  · exact .inr ‹_›

/-- The client is one of the central's fields no call but the two initializations writes. -/
theorem CentralCall.run_mlsClient (call : CentralCall L) (w : CentralWorld L) :
    (call.run hasRoom w).1.mlsClient = w.mlsClient ∨ w.mlsClient = none := by
  have keep : ∀ {α : Type} (m : Mut (CentralWorld L) α),
      Mut.Preserves (fun w' : CentralWorld L => w'.mlsClient = w.mlsClient) m →
        (m w).1.mlsClient = w.mlsClient := fun m hm => hm w rfl
  have fetch : ∀ id, Mut.Preserves (fun w' : CentralWorld L => w'.mlsClient = w.mlsClient)
      (MlsCentral.getFetch id) := by
    intro id w' h
    unfold MlsCentral.getFetch
    split
    · exact h
    · split
      · exact h
      · split <;> exact h
  have conv : ∀ id, Mut.Preserves (fun w' : CentralWorld L => w'.mlsClient = w.mlsClient)
      (MlsCentral.getConversation id) := fun id =>
    Mut.Preserves.bind (m := MlsCentral.getFetch id) (fetch id) fun
      | some _ => .pure _
      | none => .lift _
  cases call with
  | mlsInit init => exact MlsCentral.initClient_mlsClient init w
  | mlsInitWithClientId _ init => exact MlsCentral.initClient_mlsClient _ w
  | newConversation id hash config answer =>
    exact .inl (keep _ (.bind (fun _ h => h) fun _ => .bind (fun _ h => h) fun _ _ h => h))
  | processWelcomeMessage welcome answer =>
    exact .inl (keep _ (.bind (.bind (fun _ h => h) fun _ =>
      .bind (fun _ h => h) fun _ => .pure _) fun _ => .pure _))
  | joinByExternalCommit serializedCfg joined bundled answer =>
    exact .inl (keep _ (.bind (.bind (fun _ h => h) fun _ => .bind (.lift _) fun _ =>
      .bind (.lift _) fun _ => .bind (.lift _) fun _ => .bind (fun _ h => h) fun _ =>
        .bind (.lift _) fun _ => .pure _) fun _ => .pure _))
  | mergePendingGroupFromExternalCommit _ _ _ _ | clearPendingGroupFromExternalCommit _ _ =>
    exact .inl rfl
  | restoreFromDisk =>
    refine .inl (keep (MlsCentral.restoreFromDisk hasRoom) fun w' h => ?_)
    show (MlsCentral.restoreFromDisk hasRoom w').1.mlsClient = w.mlsClient
    unfold MlsCentral.restoreFromDisk
    split <;> exact h
  | getConversation id => exact .inl (keep _ (.bind (conv id) fun _ => .pure _))
  | conversationExists id => exact .inl (keep _ (.bind (fun w' h => fetch id w' h) fun _ => .pure _))
  | conversation id call => exact .inl (keep _ (.bind (conv id) fun _ _ h => h))

/-- The calls one after the other, each on the central the one before left. -/
def runCalls (calls : List (CentralCall L)) (w : CentralWorld L) : CentralWorld L :=
  calls.foldl (fun w call => (call.run hasRoom w).1) w

/-- **One client.** Once the central has a client, no sequence of calls replaces it: a second
`mls_init` or `mls_init_with_client_id` is refused. -/
theorem runCalls_mlsClient (calls : List (CentralCall L)) {w : CentralWorld L} {c : ClientId}
    (h : w.mlsClient = some c) : (runCalls hasRoom calls w).mlsClient = some c := by
  induction calls generalizing w with
  | nil => exact h
  | cons call calls ih =>
    refine ih ?_
    rcases CentralCall.run_mlsClient hasRoom call w with h' | h'
    · exact h'.trans h
    · rw [h] at h'
      cases h'

/-- A central with client `[7]`: two more initializations later, the client is still `[7]`. -/
theorem second_init_keeps_client :
    (⟨some [7], ⟨∅⟩, Keystore.empty⟩ : CentralWorld tallyLib).mlsClient = some [7] ∧
      (runCalls (fun _ => true) [.mlsInit (.ok [8]), .mlsInitWithClientId [9] (.ok ())]
        (⟨some [7], ⟨∅⟩, Keystore.empty⟩ : CentralWorld tallyLib)).mlsClient = some [7] :=
  ⟨rfl, runCalls_mlsClient _ _ rfl⟩

end Runs

/-! ## Retried joins -/

namespace MlsCentral

theorem requireClient_eq_ok {w w' : CentralWorld L} {clientId : ClientId}
    (h : requireClient w = (w', .ok clientId)) : w' = w ∧ w.mlsClient = some clientId := by
  unfold requireClient at h
  split at h <;> cases h
  exact ⟨rfl, ‹_›⟩

theorem pendingGroupsSave_eq_ok {id : ConversationId} {state cfg : Bytes} {answer : KeystoreAnswer}
    {ks ks' : Keystore} {u : Unit} (h : pendingGroupsSave id state cfg answer ks = (ks', .ok u)) :
    answer = .ok () ∧
      ks' = { ks with mlsPendingGroups := ks.mlsPendingGroups.insert id (state, cfg) } := by
  obtain _ | ⟨⟨⟩⟩ := answer <;> cases h
  exact ⟨rfl, rfl⟩

theorem pendingGroupsSave_eq_error {id : ConversationId} {state cfg : Bytes}
    {answer : KeystoreAnswer} {ks ks' : Keystore} {e : CryptoError}
    (h : pendingGroupsSave id state cfg answer ks = (ks', .error e)) : ks' = ks := by
  obtain _ | ⟨⟨⟩⟩ := answer <;> cases h
  rfl

variable {serializedCfg : Except String Bytes} {joined : Except MlsError (L.GroupState × L.MlsMessageOut)}
  {bundled : Except CryptoError Unit} {answer : KeystoreAnswer}

/-- A successful join: every outcome was `Ok`, the central had a client, and the pending row
of the joined group's id now holds its serialization and the configuration. -/
theorem joinByExternalCommit_eq_ok {w w' : CentralWorld L} {r : ConversationId × L.MlsMessageOut}
    (h : joinByExternalCommit serializedCfg joined bundled answer w = (w', .ok r)) :
    ∃ clientId cfg s commit buf, w.mlsClient = some clientId ∧ serializedCfg = .ok cfg ∧
      joined = .ok (s, commit) ∧ L.save s = .ok buf ∧ answer = .ok () ∧ bundled = .ok () ∧
      r = (L.groupId s, commit) ∧
      w' = { w with keystore := { w.keystore with
        mlsPendingGroups := w.keystore.mlsPendingGroups.insert (L.groupId s) (buf, cfg) } } := by
  obtain ⟨w₀, clientId, h1, h2⟩ := Mut.bind_eq_ok h
  obtain ⟨rfl, hc⟩ := requireClient_eq_ok h1
  obtain ⟨cfg, hcfg, h3⟩ := Mut.lift_bind_eq_ok h2
  obtain ⟨⟨s, commit⟩, hj, h4⟩ := Mut.lift_bind_eq_ok h3
  obtain ⟨⟨buf, g⟩, hs, h5⟩ := Mut.lift_bind_eq_ok h4
  obtain ⟨w₁, _, h6, h7⟩ := Mut.bind_eq_ok h5
  simp only [onKeystore, Prod.mk.injEq] at h6
  obtain ⟨rfl, h6⟩ := h6
  obtain ⟨ha, hks⟩ := pendingGroupsSave_eq_ok
    (Prod.ext rfl h6 : pendingGroupsSave (L.groupId s) buf cfg answer w₀.keystore = (_, .ok _))
  obtain ⟨_, hb, h8⟩ := Mut.lift_bind_eq_ok h7
  obtain ⟨rfl, rfl⟩ := Mut.pure_eq_ok h8
  refine ⟨clientId, cfg, s, commit, buf, hc, Except.mapError_eq_ok hcfg, Except.mapError_eq_ok hj,
    (MlsGroup.save_eq_ok hs).1, ha, hb, rfl, ?_⟩
  congr 1

/-- A failed join changed nothing, or wrote the pending row and then failed to build the
public group state bundle. -/
theorem joinByExternalCommit_eq_error {w w' : CentralWorld L} {e : CryptoError}
    (h : joinByExternalCommit serializedCfg joined bundled answer w = (w', .error e)) :
    w' = w ∨ ∃ cfg s commit buf, joined = .ok (s, commit) ∧ w' = { w with keystore :=
      { w.keystore with
        mlsPendingGroups := w.keystore.mlsPendingGroups.insert (L.groupId s) (buf, cfg) } } := by
  rcases Mut.bind_eq_error h with h1 | ⟨w₀, _, h1, h2⟩
  · unfold requireClient at h1
    split at h1 <;> cases h1
    exact .inl rfl
  obtain ⟨rfl, -⟩ := requireClient_eq_ok h1
  rcases Mut.lift_bind_eq_error h2 with ⟨rfl, -⟩ | ⟨cfg, -, h3⟩
  · exact .inl rfl
  rcases Mut.lift_bind_eq_error h3 with ⟨rfl, -⟩ | ⟨⟨s, commit⟩, hj, h4⟩
  · exact .inl rfl
  rcases Mut.lift_bind_eq_error h4 with ⟨rfl, -⟩ | ⟨⟨buf, g⟩, -, h5⟩
  · exact .inl rfl
  rcases Mut.bind_eq_error h5 with h6 | ⟨w₁, _, h6, h7⟩
  · simp only [onKeystore, Prod.mk.injEq] at h6
    obtain ⟨rfl, h6⟩ := h6
    have hks := pendingGroupsSave_eq_error
      (Prod.ext rfl h6 : pendingGroupsSave (L.groupId s) buf cfg answer w₀.keystore = (_, .error e))
    exact .inl (by congr 1)
  simp only [onKeystore, Prod.mk.injEq] at h6
  obtain ⟨rfl, h6⟩ := h6
  obtain ⟨-, hks⟩ := pendingGroupsSave_eq_ok
    (Prod.ext rfl h6 : pendingGroupsSave (L.groupId s) buf cfg answer w₀.keystore = (_, .ok _))
  rcases Mut.lift_bind_eq_error h7 with ⟨rfl, -⟩ | ⟨_, -, h8⟩
  · exact .inr ⟨cfg, s, commit, buf, Except.mapError_eq_ok hj, by congr 1⟩
  · cases h8

/-- A join whose every step succeeds, computed. -/
theorem joinByExternalCommit_of_ok {w : CentralWorld L} {clientId : ClientId} {cfg buf : Bytes}
    {s : L.GroupState} {commit : L.MlsMessageOut} (hc : w.mlsClient = some clientId)
    (hs : L.save s = .ok buf) :
    joinByExternalCommit (.ok cfg) (.ok (s, commit)) (.ok ()) (.ok ()) w =
      ({ w with keystore := { w.keystore with
          mlsPendingGroups := w.keystore.mlsPendingGroups.insert (L.groupId s) (buf, cfg) } },
        .ok (L.groupId s, commit)) := by
  simp [joinByExternalCommit, requireClient, hc, MlsGroup.save, hs, onKeystore, pendingGroupsSave,
    Keystore.mlsPendingGroupsSave, Except.mapError, Except.map]
  rfl

/-- The central a join leaves: as it was, or with one pending row more, for the joined group. -/
theorem joinByExternalCommit_state (w : CentralWorld L) :
    (joinByExternalCommit serializedCfg joined bundled answer w).1 = w ∨
      ∃ s commit v, joined = .ok (s, commit) ∧
        (joinByExternalCommit serializedCfg joined bundled answer w).1 = { w with keystore :=
          { w.keystore with mlsPendingGroups := w.keystore.mlsPendingGroups.insert (L.groupId s) v } } := by
  rcases h : joinByExternalCommit serializedCfg joined bundled answer w with ⟨w₁, e | r⟩
  · rcases joinByExternalCommit_eq_error h with rfl | ⟨cfg, s, commit, buf, hj, rfl⟩
    · exact .inl rfl
    · exact .inr ⟨s, commit, (buf, cfg), hj, rfl⟩
  · obtain ⟨_, cfg, s, commit, buf, -, -, hj, -, -, -, -, rfl⟩ := joinByExternalCommit_eq_ok h
    exact .inr ⟨s, commit, (buf, cfg), hj, rfl⟩

/-- **Retried joins.** A join that succeeds after an earlier attempt for the same group, one
that failed at any step or succeeded, leaves the central exactly as it would have alone: the
retry overwrites the pending row, and the earlier attempt leaves no trace. -/
theorem join_retry_overwrites {serializedCfg₁ serializedCfg₂ : Except String Bytes}
    {joined₁ joined₂ : Except MlsError (L.GroupState × L.MlsMessageOut)}
    {bundled₁ bundled₂ : Except CryptoError Unit} {answer₁ answer₂ : KeystoreAnswer}
    {w w₂ : CentralWorld L} {r₂ : ConversationId × L.MlsMessageOut}
    (h : joinByExternalCommit serializedCfg₂ joined₂ bundled₂ answer₂
      (joinByExternalCommit serializedCfg₁ joined₁ bundled₁ answer₁ w).1 = (w₂, .ok r₂))
    (hsame : ∀ s₁ m₁, joined₁ = .ok (s₁, m₁) → L.groupId s₁ = r₂.1) :
    w₂ = (joinByExternalCommit serializedCfg₂ joined₂ bundled₂ answer₂ w).1 := by
  obtain ⟨clientId, cfg, s, commit, buf, hc, rfl, rfl, hs, rfl, rfl, rfl, rfl⟩ :=
    joinByExternalCommit_eq_ok h
  rcases (joinByExternalCommit_state w :
      (joinByExternalCommit serializedCfg₁ joined₁ bundled₁ answer₁ w).1 = w ∨ _)
    with hw₁ | ⟨s₁, m₁, v, hj, hw₁⟩
  · rw [hw₁] at hc ⊢
    rw [joinByExternalCommit_of_ok hc hs]
  · rw [hw₁] at hc ⊢
    have hc' : w.mlsClient = some clientId := hc
    rw [joinByExternalCommit_of_ok hc' hs, hsame s₁ m₁ hj]
    simp [AList.insert_insert]

/-- On `tallyLib`, for client `[7]`: a join whose bundle fails after the pending row was
written, then a retry that succeeds, end where the retry alone would have. -/
theorem retried_join_overwrites_failed_attempt :
    ∃ w₂ r₂, joinByExternalCommit (.ok [9]) (.ok (((2, 0) : Nat × Nat), ())) (.ok ()) (.ok ())
        (joinByExternalCommit (.ok []) (.ok (((1, 0) : Nat × Nat), ())) (.error (.other "bundle"))
          (.ok ()) (⟨some [7], ⟨∅⟩, Keystore.empty⟩ : CentralWorld tallyLib)).1 = (w₂, .ok r₂) ∧
      (∀ (s₁ : tallyLib.GroupState) m₁,
        (.ok (((1, 0) : Nat × Nat), ()) :
          Except MlsError (tallyLib.GroupState × tallyLib.MlsMessageOut)) = .ok (s₁, m₁) →
            tallyLib.groupId s₁ = r₂.1) ∧
      w₂ = (joinByExternalCommit (.ok [9]) (.ok (((2, 0) : Nat × Nat), ())) (.ok ()) (.ok ())
        (⟨some [7], ⟨∅⟩, Keystore.empty⟩ : CentralWorld tallyLib)).1 :=
  have h : joinByExternalCommit (.ok [9]) (.ok (((2, 0) : Nat × Nat), ())) (.ok ()) (.ok ())
      (joinByExternalCommit (.ok []) (.ok (((1, 0) : Nat × Nat), ())) (.error (.other "bundle"))
        (.ok ()) (⟨some [7], ⟨∅⟩, Keystore.empty⟩ : CentralWorld tallyLib)).1 =
        (_, .ok ([1], ())) := rfl
  ⟨_, _, h, fun _ _ _ => rfl, join_retry_overwrites h fun _ _ _ => rfl⟩

end MlsCentral

end CoreCrypto
