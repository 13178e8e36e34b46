import CoreCrypto.Mls.OpenMls

/-!
# `MlsConversation` (`conversation.rs`)

The conversation and its operations, region by region. The group sits behind an `RwLock`;
each function named `…Locked`, and each of `groupStateChanged`, `groupSave` and
`groupPersist`, is one region of the source: one lock acquisition (or, for the keystore
write, none). The operations are their compositions in source order, so the same regions
serve the sequential semantics here and the interleavings of `Mls.Interleaving`.

A conversation operation runs in `Mut (World L)`: the conversation and the keystore it
persists to. `create` and `from_welcome_message` build a conversation and run over the
keystore alone.
-/

namespace CoreCrypto

variable {L : OpenMls}

/-- Modelled from the spec: a `ConversationMember` as `add_members` and `remove_members`
see it through `keypackages_for_all_clients()` and `clients()` (methods not in this version
of `member.rs`): one entry per client of the member, with the key package it can hand out,
if any. -/
structure ConversationMember (L : OpenMls) where
  keypackagesForAllClients : List (ClientId × Option L.KeyPackage)

/-- `ConversationMember::clients`. -/
def ConversationMember.clients (m : ConversationMember L) : List ClientId :=
  m.keypackagesForAllClients.map Prod.fst

/-- `MlsConversationConfiguration` (its `key_rotation_span` is read by no modelled code). -/
structure MlsConversationConfiguration (L : OpenMls) where
  extraMembers : List (ConversationMember L) := []
  admins : List MemberId := []
  ciphersuite : MlsCiphersuite := 1

/-- `MlsConversation`: the group is the one behind the `RwLock`. -/
structure MlsConversation (L : OpenMls) where
  id : ConversationId
  group : MlsGroup L
  admins : List MemberId
  configuration : MlsConversationConfiguration L

/-- `MlsConversationCreationMessage`. -/
structure MlsConversationCreationMessage (L : OpenMls) where
  welcome : L.Welcome
  message : L.MlsMessageOut

/-- `MlsConversationReinitMessage`. -/
structure MlsConversationReinitMessage (L : OpenMls) where
  welcome : Option L.Welcome
  message : L.MlsMessageOut

/-- What a conversation operation reads and writes: the conversation and the keystore. -/
abbrev World (L : OpenMls) : Type := MlsConversation L × Keystore

namespace MlsConversation

/-- The key packages handed out by every client of every member, clients without one
skipped (`flat_map(keypackages_for_all_clients).filter_map(|(_, kp)| kp)`). -/
def keypackagesOf (members : List (ConversationMember L)) : List L.KeyPackage :=
  (members.flatMap ConversationMember.keypackagesForAllClients).filterMap Prod.snd

/-! ## Regions -/

/-- A mutating openmls call on the group, under the write lock: on success the group takes
the new state, flagged as changed; an openmls error becomes `CryptoError::MlsError`. -/
def groupCall {α : Type} (f : L.GroupState → Except MlsError (L.GroupState × α)) :
    Mut (World L) α := fun w =>
  match f w.1.group.state with
  | .ok (s, a) => (({ w.1 with group := MlsGroup.mutate s }, w.2), .ok a)
  | .error e => (w, .error (.mlsError e))

/-- `group.state_changed() == InnerState::Changed`, under a read lock. -/
def groupStateChanged : Mut (World L) Bool := fun w =>
  (w, .ok (w.1.group.stateChanged = .changed))

/-- `group.save(&mut buf)?`, under the write lock. -/
def groupSave : Mut (World L) Bytes := fun w =>
  match w.1.group.save with
  | .ok (buf, g) => (({ w.1 with group := g }, w.2), .ok buf)
  | .error e => (w, .error e)

/-- `backend.key_store().mls_group_persist(&self.id, &buf)?`, outside any lock. -/
def groupPersist (buf : Bytes) (answer : KeystoreAnswer) : Mut (World L) Unit := fun w =>
  match w.2.mlsGroupPersist w.1.id buf answer with
  | .ok ks => ((w.1, ks), .ok ())
  | .error e => (w, .error (.keyStoreError e))

/-! ### What each region does -/

theorem groupCall_eq_ok {α : Type} {f : L.GroupState → Except MlsError (L.GroupState × α)}
    {w w' : World L} {a : α} (h : groupCall f w = (w', .ok a)) :
    ∃ s, f w.1.group.state = .ok (s, a) ∧ w' = ({ w.1 with group := MlsGroup.mutate s }, w.2) := by
  unfold groupCall at h
  split at h <;> cases h
  exact ⟨_, ‹_›, rfl⟩

theorem groupCall_eq_error {α : Type} {f : L.GroupState → Except MlsError (L.GroupState × α)}
    {w w' : World L} {e : CryptoError} (h : groupCall f w = (w', .error e)) :
    w' = w ∧ ∃ e', f w.1.group.state = .error e' := by
  unfold groupCall at h
  split at h <;> cases h
  exact ⟨rfl, _, ‹_›⟩

@[simp] theorem groupStateChanged_apply (w : World L) :
    groupStateChanged w = (w, .ok (decide (w.1.group.stateChanged = .changed))) := rfl

theorem groupSave_eq_ok {w w' : World L} {buf : Bytes} (h : groupSave w = (w', .ok buf)) :
    L.save w.1.group.state = .ok buf ∧
      w' = ({ w.1 with group := { w.1.group with stateChanged := .persisted } }, w.2) := by
  unfold groupSave at h
  split at h <;> cases h
  obtain ⟨hs, rfl⟩ := MlsGroup.save_eq_ok ‹_›
  exact ⟨hs, rfl⟩

theorem groupSave_eq_error {w w' : World L} {e : CryptoError} (h : groupSave w = (w', .error e)) :
    w' = w ∧ L.save w.1.group.state = .error e := by
  unfold groupSave at h
  split at h <;> cases h
  exact ⟨rfl, MlsGroup.save_eq_error ‹_›⟩

theorem groupPersist_eq_ok {buf : Bytes} {answer : KeystoreAnswer} {w w' : World L} {u : Unit}
    (h : groupPersist buf answer w = (w', .ok u)) :
    answer = .ok () ∧ w' = (w.1, { w.2 with mlsGroups := w.2.mlsGroups.insert w.1.id buf }) := by
  unfold groupPersist at h
  obtain _ | ⟨⟨⟩⟩ := answer <;> simp_all

theorem groupPersist_eq_error {buf : Bytes} {answer : KeystoreAnswer} {w w' : World L}
    {e : CryptoError} (h : groupPersist buf answer w = (w', .error e)) : w' = w := by
  unfold groupPersist at h
  obtain _ | ⟨⟨⟩⟩ := answer <;> simp_all

/-- The persistence block shared by `add_members`, `remove_members` and `decrypt_message`:
save and persist the group if it changed. -/
def persistWhenChanged (answer : KeystoreAnswer) : Mut (World L) Unit := do
  if (← groupStateChanged) then
    let buf ← groupSave
    groupPersist buf answer

/-- The write-locked region of `add_members` and `remove_members`: stage a commit with the
openmls call `f`, then `merge_pending_commit`. -/
def commitAndMerge {α : Type} (f : L.GroupState → Except MlsError (L.GroupState × α)) :
    Mut (World L) α := do
  let a ← groupCall f
  groupCall fun s => (L.mergePendingCommit s).map (·, ())
  pure a

/-- The write-locked region of `add_members` (`conversation.rs:229-232`). -/
def addMembersLocked (keypackages : List L.KeyPackage) :
    Mut (World L) (L.MlsMessageOut × L.Welcome) :=
  commitAndMerge fun s => L.addMembers s keypackages

/-- The refs of the leaves whose credential identity is one of the clients
(`conversation.rs:255-267`). -/
def memberRefsOf (clients : List ClientId) (s : L.GroupState) :
    Except CryptoError (List L.KeyPackageRef) :=
  ((L.members s).filter fun kp =>
      clients.any fun c => decide (c = L.identity (L.credential kp))).mapM fun kp =>
    (L.hashRef kp).mapError .mlsError

/-- The read-locked region of `remove_members`. -/
def memberRefs (clients : List ClientId) : Mut (World L) (List L.KeyPackageRef) := fun w =>
  (w, memberRefsOf clients w.1.group.state)

/-- The write-locked region of `remove_members` (`conversation.rs:269-272`). -/
def removeMembersLocked (refs : List L.KeyPackageRef) : Mut (World L) L.MlsMessageOut := do
  let (message, _) ← commitAndMerge fun s => L.removeMembers s refs
  pure message

/-! ## Operations -/

/-- `MlsConversation::add_members`: commit the key packages of the members' clients, merge,
persist if changed. -/
def addMembers (members : List (ConversationMember L)) (answer : KeystoreAnswer) :
    Mut (World L) (MlsConversationCreationMessage L) := do
  let (message, welcome) ← addMembersLocked (keypackagesOf members)
  persistWhenChanged answer
  pure ⟨welcome, message⟩

/-- `MlsConversation::remove_members`. -/
def removeMembers (members : List (ConversationMember L)) (answer : KeystoreAnswer) :
    Mut (World L) L.MlsMessageOut := do
  let refs ← memberRefs (members.flatMap ConversationMember.clients)
  let message ← removeMembersLocked refs
  persistWhenChanged answer
  pure message

/-- What `decrypt_message` does with a processed message (`conversation.rs:299-317`): an
application message is returned at once; a proposal is stored and a staged commit merged,
then the group is persisted if changed. -/
def afterProcessing (answer : KeystoreAnswer) :
    ProcessedMessage L.StagedCommit → Mut (World L) (Option Bytes)
  | .applicationMessage bytes => pure (some bytes)
  | .proposalMessage proposal => do
    groupCall fun s => .ok (L.storePendingProposal s proposal, ())
    persistWhenChanged answer
    pure none
  | .stagedCommitMessage commit => do
    groupCall fun s => (L.mergeStagedCommit s commit).map (·, ())
    persistWhenChanged answer
    pure none

/-- The group state `afterProcessing` leads to from `s`, for a proposal or a staged commit. -/
def HandlesProcessed (p : ProcessedMessage L.StagedCommit) (s s' : L.GroupState) : Prop :=
  (∃ q, p = .proposalMessage q ∧ s' = L.storePendingProposal s q) ∨
  (∃ c, p = .stagedCommitMessage c ∧ L.mergeStagedCommit s c = .ok s')

/-- `MlsConversation::decrypt_message`; everything after parsing the bytes runs under one
write lock. -/
def decryptMessage (message : Bytes) (answer : KeystoreAnswer) :
    Mut (World L) (Option Bytes) := do
  let msgIn ← Mut.lift ((L.mlsMessageInTryFromBytes message).mapError .mlsError)
  let parsed ← groupCall fun s => L.parseMessage s msgIn
  let processed ← groupCall fun s => L.processUnverifiedMessage s parsed
  afterProcessing answer processed

/-- `MlsConversation::encrypt_message`. -/
def encryptMessage (message : Bytes) : Mut (World L) Bytes := do
  let out ← groupCall fun s => L.createMessage s message
  Mut.lift ((L.messageToBytes out).mapError .mlsError)

/-- `MlsConversation::reinit`. -/
def reinit : Mut (World L) (MlsConversationReinitMessage L) := do
  let (message, welcome) ← groupCall L.selfUpdate
  pure ⟨welcome, message⟩

/-! ## Construction -/

/-- `mls_group_persist` as a step over the keystore alone. -/
def persistRow (id : ConversationId) (buf : Bytes) (answer : KeystoreAnswer) :
    Mut Keystore Unit := fun ks =>
  match ks.mlsGroupPersist id buf answer with
  | .ok ks' => (ks', .ok ())
  | .error e => (ks, .error (.keyStoreError e))

/-- The `extra_members` block of `create` (`conversation.rs:119-135`). -/
def addExtraMembers (s : L.GroupState) (extraMembers : List (ConversationMember L)) :
    Except CryptoError (L.GroupState × Option (MlsConversationCreationMessage L)) :=
  if extraMembers.isEmpty then .ok (s, none)
  else
    match L.addMembers s (keypackagesOf extraMembers) with
    | .error e => .error (.mlsError e)
    | .ok (s₁, message, welcome) =>
      match L.mergePendingCommit s₁ with
      | .error e => .error (.mlsError e)
      | .ok s₂ => .ok (s₂, some ⟨welcome, message⟩)

/-- `MlsConversation::create`, given what `author_client.keypackage_hash(backend)` returned. -/
def create (id : ConversationId) (authorKeypackageHash : Except CryptoError Bytes)
    (config : MlsConversationConfiguration L) (answer : KeystoreAnswer) :
    Mut Keystore (MlsConversation L × Option (MlsConversationCreationMessage L)) := do
  let hash ← Mut.lift authorKeypackageHash
  let s₀ ← Mut.lift ((L.new id hash).mapError .mlsError)
  let (s, creationMessage) ← Mut.lift (addExtraMembers s₀ config.extraMembers)
  let (buf, group) ← Mut.lift (MlsGroup.mutate s).save
  persistRow id buf answer
  pure (⟨id, group, config.admins, config⟩, creationMessage)

/-- `MlsConversation::from_welcome_message`. -/
def fromWelcomeMessage (welcome : L.Welcome) (configuration : MlsConversationConfiguration L)
    (answer : KeystoreAnswer) : Mut Keystore (MlsConversation L) := do
  let s ← Mut.lift ((L.newFromWelcome welcome).mapError .mlsError)
  let (buf, group) ← Mut.lift (MlsGroup.mutate s).save
  persistRow (L.groupId s) buf answer
  pure ⟨L.groupId s, group, configuration.admins, configuration⟩

/-- `MlsConversation::from_serialized_state`: the configuration built with the group's
ciphersuite and defaults elsewhere, no admins. -/
def fromSerializedState (buf : Bytes) : Except CryptoError (MlsConversation L) := do
  let group ← MlsGroup.load buf
  pure ⟨L.groupId group.state, group, [], { ciphersuite := L.ciphersuite group.state }⟩

/-! ## Queries -/

/-- `MlsConversation::members`: the credentials of the leaves, grouped by identity. -/
def members (c : MlsConversation L) : AList (fun _ : MemberId => List L.Credential) :=
  (L.members c.group.state).foldl (fun acc kp =>
    let memberId := L.identity (L.credential kp)
    acc.insert memberId ((acc.lookup memberId).getD [] ++ [L.credential kp])) ∅

/-- `MlsConversation::can_user_act`. -/
def canUserAct (c : MlsConversation L) (uuid : MemberId) : Bool := c.admins.contains uuid

end MlsConversation

/-- A call of one of the operations that process handshakes on an existing conversation. -/
inductive ConversationCall (L : OpenMls) where
  | addMembers (members : List (ConversationMember L)) (answer : KeystoreAnswer)
  | removeMembers (members : List (ConversationMember L)) (answer : KeystoreAnswer)
  | decryptMessage (message : Bytes) (answer : KeystoreAnswer)

/-- Run a call, forgetting what it returns. -/
def ConversationCall.run : ConversationCall L → Mut (World L) Unit
  | .addMembers members answer => do
    let _ ← MlsConversation.addMembers members answer
  | .removeMembers members answer => do
    let _ ← MlsConversation.removeMembers members answer
  | .decryptMessage message answer => do
    let _ ← MlsConversation.decryptMessage message answer

end CoreCrypto
