import CoreCrypto.Mls.Persistence

/-!
# External commits (`mls/external_commit.rs`)

* `merge_pending_group_from_external_commit` loads the pending group, merges its commit,
  persists it in the main partition, puts it in the group store, and only then deletes the
  pending row.
  - **Success** leaves the conversation in the group store and its serialization in the main
    partition, and no pending row (`mergePendingGroup_eq_ok`).
  - **Failure** never changes the pending rows. Before the delete it changes nothing; a
    failing delete leaves the merged conversation in memory and in the main partition
    (`mergePendingGroup_eq_error`, `failed_delete_keeps_merged_group`).
  - **Retry.** Merging again after a failed delete ends where one run from the start would
    have (`merge_retry_after_failed_delete`).
* `validate_external_commit` lets an external commit through only when the application's
  callbacks, asked in order, accept its sender (`validateExternalCommit_iff`).
-/

namespace CoreCrypto

variable {L : OpenMls}

/-- `MlsCentral`, by what its external-commit operations touch. Modelled from the spec: the
group store (`GroupStore`, not in the sources) as a map by conversation id whose `insert`
replaces. -/
structure MlsCentral (L : OpenMls) where
  mlsGroups : AList (fun _ : ConversationId => MlsConversation L)

namespace MlsConversation

/-- Modelled from the spec: `MlsConversation::from_mls_group` (not in this version of
`conversation.rs`) builds the conversation of a group as `from_welcome_message` does: it
saves the group and persists it under the group's id. -/
def fromMlsGroup (group : MlsGroup L) (configuration : MlsConversationConfiguration L)
    (answer : KeystoreAnswer) : Mut Keystore (MlsConversation L) := do
  let (buf, group) ← Mut.lift group.save
  persistRow (L.groupId group.state) buf answer
  pure ⟨L.groupId group.state, group, configuration.admins, configuration⟩

end MlsConversation

/-- `keystore.mls_pending_groups_delete(id).await?`. -/
def pendingGroupsDelete (id : ConversationId) (answer : KeystoreAnswer) : Mut Keystore Unit :=
  fun ks =>
    match ks.mlsPendingGroupsDelete id answer with
    | .ok ks' => (ks', .ok ())
    | .error e => (ks, .error (.keyStoreError e))

namespace MlsCentral

section Merge

/-! `customConfigFromSlice` is `serde_json::from_slice` of the stored
`MlsCustomConfiguration`, by its outcome: the custom configuration is read by no modelled
code. -/

variable (customConfigFromSlice : Bytes → Except String Unit)

/-- `MlsCentral::merge_pending_group_from_external_commit` (`external_commit.rs:126-150`),
given the backend's answers to the group's persist and to the pending row's delete. -/
def mergePendingGroupFromExternalCommit (id : ConversationId)
    (persistAnswer deleteAnswer : KeystoreAnswer) : Mut (MlsCentral L × Keystore) Unit := do
  let w ← Mut.get
  let (group, cfg) ← Mut.lift ((w.2.mlsPendingGroupsLoad id).mapError .keyStoreError)
  let mlsGroup ← Mut.lift (MlsGroup.load group)
  let merged ← Mut.lift ((L.mergePendingCommit mlsGroup.state).mapError .mlsError)
  Mut.lift ((customConfigFromSlice cfg).mapError fun e => .mlsError (.mlsKeystoreSerializationError e))
  let conversation ← Mut.zoomSnd
    (MlsConversation.fromMlsGroup (MlsGroup.mutate merged) {} persistAnswer)
  Mut.modify fun w => ({ w.1 with mlsGroups := w.1.mlsGroups.insert id conversation }, w.2)
  Mut.zoomSnd (pendingGroupsDelete id deleteAnswer)

/-- The reads and the merge, which change nothing: the merged group, or the first error. -/
def mergedPendingGroup (id : ConversationId) (ks : Keystore) : Except CryptoError L.GroupState := do
  let (group, cfg) ← (ks.mlsPendingGroupsLoad id).mapError .keyStoreError
  let mlsGroup ← (MlsGroup.load group : Except CryptoError (MlsGroup L))
  let merged ← (L.mergePendingCommit mlsGroup.state).mapError .mlsError
  (customConfigFromSlice cfg).mapError fun e => .mlsError (.mlsKeystoreSerializationError e)
  pure merged

/-- The conversation the merge builds from the merged group. -/
def mergedConversation (merged : L.GroupState) : MlsConversation L :=
  ⟨L.groupId merged, ⟨merged, .persisted⟩, [], {}⟩

/-- The merge, stage by stage: the reads, then persisting the conversation, inserting it,
and deleting the pending row. -/
theorem mergePendingGroup_apply (id : ConversationId) (persistAnswer deleteAnswer : KeystoreAnswer)
    (w : MlsCentral L × Keystore) :
    mergePendingGroupFromExternalCommit customConfigFromSlice id persistAnswer deleteAnswer w =
      match mergedPendingGroup customConfigFromSlice id w.2 with
      | .error e => (w, .error e)
      | .ok merged =>
        match L.save merged with
        | .error e => (w, .error e)
        | .ok buf =>
          match w.2.mlsGroupPersist (L.groupId merged) buf persistAnswer with
          | .error e => (w, .error (.keyStoreError e))
          | .ok ks₁ =>
            match ks₁.mlsPendingGroupsDelete id deleteAnswer with
            | .error e =>
              (({ w.1 with mlsGroups := w.1.mlsGroups.insert id (mergedConversation merged) }, ks₁),
                .error (.keyStoreError e))
            | .ok ks₂ =>
              (({ w.1 with mlsGroups := w.1.mlsGroups.insert id (mergedConversation merged) }, ks₂),
                .ok ()) := by
  obtain ⟨central, ks⟩ := w
  simp only [mergePendingGroupFromExternalCommit, mergedPendingGroup, MlsConversation.fromMlsGroup,
    MlsConversation.persistRow, pendingGroupsDelete, MlsGroup.load, MlsGroup.save, MlsGroup.mutate,
    bind, Mut.bind, Mut.get, Mut.lift, Mut.zoomSnd, Mut.modify, pure, Mut.pure, Except.bind,
    Except.map, Except.mapError, Except.pure]
  rcases ks.mlsPendingGroupsLoad id with e | ⟨group, cfg⟩
  · rfl
  dsimp only
  rcases L.load group with e | s
  · rfl
  dsimp only
  rcases L.mergePendingCommit s with e | merged
  · rfl
  dsimp only
  rcases customConfigFromSlice cfg with e | ⟨⟩
  · rfl
  dsimp only
  rcases L.save merged with e | buf
  · rfl
  obtain _ | ⟨⟨⟩⟩ := persistAnswer
  · rfl
  obtain _ | ⟨⟨⟩⟩ := deleteAnswer <;> rfl

theorem mergePendingGroup_eq_ok {id : ConversationId} {persistAnswer deleteAnswer : KeystoreAnswer}
    {w w' : MlsCentral L × Keystore}
    (h : mergePendingGroupFromExternalCommit customConfigFromSlice id persistAnswer deleteAnswer w =
      (w', .ok ())) :
    ∃ merged buf, mergedPendingGroup customConfigFromSlice id w.2 = .ok merged ∧
      L.save merged = .ok buf ∧ persistAnswer = .ok () ∧ deleteAnswer = .ok () ∧
      w' = ({ w.1 with mlsGroups := w.1.mlsGroups.insert id (mergedConversation merged) },
        { w.2 with mlsGroups := w.2.mlsGroups.insert (L.groupId merged) buf,
                   mlsPendingGroups := w.2.mlsPendingGroups.erase id }) := by
  rw [mergePendingGroup_apply] at h
  split at h; · cases h
  split at h; · cases h
  obtain _ | ⟨⟨⟩⟩ := persistAnswer; · cases h
  obtain _ | ⟨⟨⟩⟩ := deleteAnswer; · cases h
  cases h
  exact ⟨_, _, ‹_›, ‹_›, rfl, rfl, rfl⟩

theorem mergePendingGroup_eq_error {id : ConversationId}
    {persistAnswer deleteAnswer : KeystoreAnswer} {w w' : MlsCentral L × Keystore} {e : CryptoError}
    (h : mergePendingGroupFromExternalCommit customConfigFromSlice id persistAnswer deleteAnswer w =
      (w', .error e)) :
    w' = w ∨ ∃ merged buf e', mergedPendingGroup customConfigFromSlice id w.2 = .ok merged ∧
      L.save merged = .ok buf ∧ persistAnswer = .ok () ∧ deleteAnswer = .error e' ∧
      w' = ({ w.1 with mlsGroups := w.1.mlsGroups.insert id (mergedConversation merged) },
        { w.2 with mlsGroups := w.2.mlsGroups.insert (L.groupId merged) buf }) := by
  rw [mergePendingGroup_apply] at h
  split at h; · cases h; exact .inl rfl
  split at h; · cases h; exact .inl rfl
  obtain _ | ⟨⟨⟩⟩ := persistAnswer; · cases h; exact .inl rfl
  obtain _ | ⟨⟨⟩⟩ := deleteAnswer
  · cases h; exact .inr ⟨_, _, _, ‹_›, ‹_›, rfl, rfl, rfl⟩
  · cases h

/-- A central with no conversation, whose keystore holds only a pending group for `[1]`: a
one-leaf group saved as `[0]`, with an empty custom configuration. -/
def pendingJoin : MlsCentral tallyLib × Keystore :=
  (⟨∅⟩, { Keystore.empty with
    mlsPendingGroups := (∅ : AList (fun _ : ConversationId => Bytes × Bytes)).insert [1] ([0], []) })

/-- **Success.** After `Ok`, the merged conversation is in the group store under `id`, its
serialization is the main-partition row under its group's id, and no pending row is left
for `id`. -/
theorem mergePendingGroup_ok_moves_group {id : ConversationId}
    {persistAnswer deleteAnswer : KeystoreAnswer} {w w' : MlsCentral L × Keystore}
    (h : mergePendingGroupFromExternalCommit customConfigFromSlice id persistAnswer deleteAnswer w =
      (w', .ok ())) :
    ∃ c buf, w'.1.mlsGroups.lookup id = some c ∧ L.save c.group.state = .ok buf ∧
      w'.2.mlsGroups.lookup c.id = some buf ∧ w'.2.mlsPendingGroups.lookup id = none := by
  obtain ⟨merged, buf, -, hs, -, -, rfl⟩ := mergePendingGroup_eq_ok customConfigFromSlice h
  exact ⟨_, buf, AList.lookup_insert _, hs, AList.lookup_insert _, AList.lookup_erase _ _⟩

theorem pending_join_moves_group :
    ∃ w' : MlsCentral tallyLib × Keystore,
      mergePendingGroupFromExternalCommit (fun _ => .ok ()) [1] (.ok ()) (.ok ()) pendingJoin =
        (w', .ok ()) ∧
      ∃ c buf, w'.1.mlsGroups.lookup [1] = some c ∧ tallyLib.save c.group.state = .ok buf ∧
        w'.2.mlsGroups.lookup c.id = some buf ∧ w'.2.mlsPendingGroups.lookup [1] = none :=
  ⟨_, rfl, @mergePendingGroup_ok_moves_group tallyLib (fun _ => .ok ()) [1] (.ok ()) (.ok ()) pendingJoin _ rfl⟩

/-- What a failed merge leaves, for each step that failed: when reading or merging the pending
group, saving the merged group or persisting it failed, the central and the keystore as they
were; when all of these went through, so that the delete of the pending row failed, the merged
conversation in the group store under `id` and its serialization as the main-partition row
under its id. -/
def FailedMergeLeaves (id : ConversationId) (persistAnswer : KeystoreAnswer)
    (w w' : MlsCentral L × Keystore) : Prop :=
  match mergedPendingGroup customConfigFromSlice id w.2 with
  | .error _ => w' = w
  | .ok merged =>
    match L.save merged, persistAnswer with
    | .ok buf, .ok _ => w'.1.mlsGroups.lookup id = some (mergedConversation merged) ∧
        w'.2.mlsGroups.lookup (mergedConversation merged).id = some buf
    | _, _ => w' = w

/-- **Failure.** After `Err` the pending rows are as they were, and the central and the keystore
are as `FailedMergeLeaves` says: unchanged when a step before the delete of the pending row
failed, and with the merged conversation in the group store and in the main partition when the
delete failed. -/
theorem mergePendingGroup_error_keeps_pending {id : ConversationId}
    {persistAnswer deleteAnswer : KeystoreAnswer} {w w' : MlsCentral L × Keystore} {e : CryptoError}
    (h : mergePendingGroupFromExternalCommit customConfigFromSlice id persistAnswer deleteAnswer w =
      (w', .error e)) :
    w'.2.mlsPendingGroups = w.2.mlsPendingGroups ∧
      FailedMergeLeaves customConfigFromSlice id persistAnswer w w' := by
  rw [mergePendingGroup_apply] at h
  rcases hm : mergedPendingGroup customConfigFromSlice id w.2 with e₁ | merged <;> rw [hm] at h
  · cases h; simp only [FailedMergeLeaves, hm, and_self]
  rcases hs : L.save merged with e₂ | buf <;> simp only [hs] at h
  · cases h; simp only [FailedMergeLeaves, hm, hs, and_self]
  obtain _ | ⟨⟨⟩⟩ := persistAnswer
  · cases h; simp only [FailedMergeLeaves, hm, hs, and_self]
  -- only the delete of the pending row is left to fail
  obtain _ | ⟨⟨⟩⟩ := deleteAnswer
  · cases h
    refine ⟨rfl, ?_⟩
    simp only [FailedMergeLeaves, hm, hs]
    exact ⟨AList.lookup_insert _, AList.lookup_insert _⟩
  · cases h

theorem pending_join_failed_delete_keeps_row :
    ∃ w' : MlsCentral tallyLib × Keystore,
      mergePendingGroupFromExternalCommit (fun _ => .ok ()) [1] (.ok ()) (.error (.backend "disk full"))
          pendingJoin = (w', .error (.keyStoreError (.backend "disk full"))) ∧
      w'.2.mlsPendingGroups = pendingJoin.2.mlsPendingGroups ∧
      FailedMergeLeaves (fun _ => .ok ()) [1] (.ok ()) pendingJoin w' :=
  ⟨_, rfl, @mergePendingGroup_error_keeps_pending tallyLib (fun _ => .ok ()) [1] (.ok ())
    (.error (.backend "disk full")) pendingJoin _ _ rfl⟩

/-- **Retry.** After a merge whose pending-row delete failed, merging again (the pending row
is still there) ends exactly where a single merge from the original state ends. -/
theorem merge_retry_after_failed_delete (id : ConversationId)
    (persistAnswer deleteAnswer : KeystoreAnswer) (e : CryptoKeystoreError)
    (w : MlsCentral L × Keystore) :
    mergePendingGroupFromExternalCommit customConfigFromSlice id persistAnswer deleteAnswer
        (mergePendingGroupFromExternalCommit customConfigFromSlice id persistAnswer (.error e) w).1 =
      mergePendingGroupFromExternalCommit customConfigFromSlice id persistAnswer deleteAnswer w := by
  rw [mergePendingGroup_apply customConfigFromSlice id persistAnswer (.error e) w]
  rcases hm : mergedPendingGroup customConfigFromSlice id w.2 with e₁ | merged
  · rfl
  dsimp only
  rcases hs : L.save merged with e₂ | buf
  · rfl
  dsimp only
  obtain _ | ⟨⟨⟩⟩ := persistAnswer
  · rfl
  have hm' : mergedPendingGroup customConfigFromSlice id
      { w.2 with mlsGroups := w.2.mlsGroups.insert (L.groupId merged) buf } = .ok merged := hm
  simp only [mergePendingGroup_apply, Keystore.mlsGroupPersist_ok, Keystore.mlsPendingGroupsDelete_error,
    hm, hm', hs, AList.insert_insert]

end Merge

/-- A pending row for `[1]` (a one-leaf group, saved as `[0]`), merged with the pending-row
delete failing: the call returns `Err`, yet the conversation is now in the group store and
its two-leaf serialization in the main partition, both empty before. -/
theorem failed_delete_keeps_merged_group :
    ∃ w' : MlsCentral tallyLib × Keystore,
      mergePendingGroupFromExternalCommit (fun _ => .ok ()) [1] (.ok ()) (.error (.backend "disk full"))
          (⟨∅⟩, { Keystore.empty with
            mlsPendingGroups := (∅ : AList (fun _ : ConversationId => Bytes × Bytes)).insert [1] ([0], []) }) =
        (w', .error (.keyStoreError (.backend "disk full"))) ∧
      (w'.1.mlsGroups.lookup [1]).isSome = true ∧ w'.2.mlsGroups.lookup [1] = some [0, 0] :=
  ⟨_, rfl, rfl, rfl⟩

end MlsCentral

/-! ## Authorizing an external commit -/

/-- Modelled from the spec: the two methods of `CoreCryptoCallbacks` that
`validate_external_commit` calls (the trait is not in the sources), each given the
conversation id, the sender and the clients of the next epoch. -/
structure CoreCryptoCallbacks where
  clientIsExistingGroupUser : ConversationId → ClientId → List ClientId → Bool
  userAuthorize : ConversationId → ClientId → List ClientId → Bool

/-- A call of one of the callbacks, in the order they were made. -/
inductive CallbackCall where
  | clientIsExistingGroupUser
  | userAuthorize
  deriving DecidableEq, Repr

namespace MlsConversation

/-- `MlsConversation::validate_external_commit` (`external_commit.rs:167-201`): the callbacks
called, in order, and the result. -/
def validateExternalCommit (c : MlsConversation L) (commit : L.StagedCommit)
    (sender : Option ClientId) (callbacks : Option CoreCryptoCallbacks) :
    List CallbackCall × Except CryptoError Unit :=
  let isExternalInit := (L.stagedProposalQueue commit).any fun p =>
    decide (p.sender = .newMember ∧ p.proposal = .externalInit)
  if isExternalInit then
    match callbacks, sender with
    | none, _ => ([], .error .callbacksNotSet)
    | some _, none => ([], .error .unauthorizedExternalCommit)
    | some callbacks, some sender =>
      let existingClients := L.membersInNextEpoch c.group.state
      if !callbacks.clientIsExistingGroupUser c.id sender existingClients then
        ([.clientIsExistingGroupUser], .error .unauthorizedExternalCommit)
      else if !callbacks.userAuthorize c.id sender existingClients then
        ([.clientIsExistingGroupUser, .userAuthorize], .error .unauthorizedExternalCommit)
      else ([.clientIsExistingGroupUser, .userAuthorize], .ok ())
  else ([], .ok ())

/-- **Authorization.** `validate_external_commit` returns `Ok` exactly when no staged
proposal is an `ExternalInit` from a `NewMember`, or callbacks are installed, the sender is
known and both callbacks accept it for this conversation and the clients of the next epoch.
`user_authorize` is only called after `client_is_existing_group_user` said yes, and the
error is `CallbacksNotSet` without callbacks, `UnauthorizedExternalCommit` with them. -/
theorem validateExternalCommit_iff (c : MlsConversation L) (commit : L.StagedCommit)
    (sender : Option ClientId) (callbacks : Option CoreCryptoCallbacks) :
    ((validateExternalCommit c commit sender callbacks).2 = .ok () ↔
      (∀ p ∈ L.stagedProposalQueue commit, ¬(p.sender = .newMember ∧ p.proposal = .externalInit)) ∨
      ∃ cb s, callbacks = some cb ∧ sender = some s ∧
        cb.clientIsExistingGroupUser c.id s (L.membersInNextEpoch c.group.state) = true ∧
        cb.userAuthorize c.id s (L.membersInNextEpoch c.group.state) = true) ∧
    (CallbackCall.userAuthorize ∈ (validateExternalCommit c commit sender callbacks).1 →
      ∃ cb s, callbacks = some cb ∧ sender = some s ∧
        cb.clientIsExistingGroupUser c.id s (L.membersInNextEpoch c.group.state) = true ∧
        (validateExternalCommit c commit sender callbacks).1 =
          [.clientIsExistingGroupUser, .userAuthorize]) ∧
    (∀ e, (validateExternalCommit c commit sender callbacks).2 = .error e →
      e = if callbacks.isNone then .callbacksNotSet else .unauthorizedExternalCommit) := by
  unfold validateExternalCommit
  by_cases hx : ∃ p ∈ L.stagedProposalQueue commit,
      p.sender = .newMember ∧ p.proposal = .externalInit
  · have hany : ((L.stagedProposalQueue commit).any fun p =>
        decide (p.sender = .newMember ∧ p.proposal = .externalInit)) = true := by
      simpa using hx
    simp only [hany, ite_true]
    rcases callbacks with _ | cb
    · simp [hx]
    rcases sender with _ | s
    · simp [hx]
    · by_cases h₁ : cb.clientIsExistingGroupUser c.id s (L.membersInNextEpoch c.group.state) <;>
        by_cases h₂ : cb.userAuthorize c.id s (L.membersInNextEpoch c.group.state) <;>
        simp [h₁, h₂, hx]
  · have hany : ((L.stagedProposalQueue commit).any fun p =>
        decide (p.sender = .newMember ∧ p.proposal = .externalInit)) = false := by
      simpa using hx
    simp only [hany, Bool.false_eq_true, ite_false]
    exact ⟨iff_of_true trivial (.inl fun p hp h => hx ⟨p, hp, h⟩),
      fun h => (List.not_mem_nil _ h).elim, fun _ h => by cases h⟩

end MlsConversation

end CoreCrypto
