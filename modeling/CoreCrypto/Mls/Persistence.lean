import CoreCrypto.Mls.Conversation

/-!
# What the conversation operations leave in the keystore

* One spec lemma per operation and outcome: what a successful call did to the group and to
  the `mls_groups` row (`addMembers_eq_ok`, …), and what a failed call left behind
  (`addMembers_eq_error`, …).
* **Persisting.** Every successful `add_members`, `remove_members`, proposal or commit, and
  every `create` and `from_welcome_message`, leaves the row equal to the serialization of
  the group (`RowSynced`). A successful `decrypt_message` of an application message, and a
  successful `encrypt_message`, return without saving: the ratchet they advanced is not in
  the row.
* **Failing.** A failed `add_members`, `remove_members` or `decrypt_message` never touches
  the keystore, but it does not roll the group back either: it keeps what the openmls calls
  that succeeded before the error did to it.
* **Reloading.** Over any run of successful calls the row holds a group with the
  conversation's id and leaves, so `from_serialized_state` gets back the id and the
  `members()` map; it never gets back the admins.
-/

namespace CoreCrypto

namespace MlsConversation

variable {L : OpenMls}

/-! ## Successful calls -/

/-- After a mutation the flag is set, so a successful persistence block saved and wrote
the row. -/
theorem persistWhenChanged_mutate_eq_ok {answer : KeystoreAnswer} {c : MlsConversation L}
    {s : L.GroupState} {ks : Keystore} {w' : World L} {u : Unit}
    (h : persistWhenChanged answer ({ c with group := MlsGroup.mutate s }, ks) = (w', .ok u)) :
    ∃ buf, L.save s = .ok buf ∧ answer = .ok () ∧
      w' = ({ c with group := ⟨s, .persisted⟩ },
        { ks with mlsGroups := ks.mlsGroups.insert c.id buf }) := by
  simp only [persistWhenChanged, Mut.bind_apply, groupStateChanged_apply,
    MlsGroup.mutate_stateChanged, decide_True, ite_true] at h
  obtain ⟨w₁, buf, h1, h2⟩ := Mut.bind_eq_ok h
  obtain ⟨hs, rfl⟩ := groupSave_eq_ok h1
  obtain ⟨ha, rfl⟩ := groupPersist_eq_ok h2
  exact ⟨buf, hs, ha, rfl⟩

/-- A commit staged and merged: the merged state, flagged. -/
theorem commitAndMerge_eq_ok {α : Type} {f : L.GroupState → Except MlsError (L.GroupState × α)}
    {w w' : World L} {r : α} (h : commitAndMerge f w = (w', .ok r)) :
    ∃ s₁ s₂, f w.1.group.state = .ok (s₁, r) ∧ L.mergePendingCommit s₁ = .ok s₂ ∧
      w' = ({ w.1 with group := MlsGroup.mutate s₂ }, w.2) := by
  obtain ⟨w₁, a, h1, h2⟩ := Mut.bind_eq_ok h
  obtain ⟨w₂, _, h3, h4⟩ := Mut.bind_eq_ok h2
  obtain ⟨rfl, rfl⟩ := Mut.pure_eq_ok h4
  obtain ⟨s₁, hs₁, rfl⟩ := groupCall_eq_ok h1
  obtain ⟨s₂, hs₂, rfl⟩ := groupCall_eq_ok h3
  obtain ⟨_, hm, hpair⟩ := Except.map_eq_ok hs₂
  cases hpair
  exact ⟨s₁, s₂, hs₁, hm, rfl⟩

theorem addMembers_eq_ok {ms : List (ConversationMember L)} {answer : KeystoreAnswer}
    {w w' : World L} {r : MlsConversationCreationMessage L}
    (h : addMembers ms answer w = (w', .ok r)) :
    ∃ s₁ s₂ buf, L.addMembers w.1.group.state (keypackagesOf ms) = .ok (s₁, r.message, r.welcome) ∧
      L.mergePendingCommit s₁ = .ok s₂ ∧ L.save s₂ = .ok buf ∧ answer = .ok () ∧
      w' = ({ w.1 with group := ⟨s₂, .persisted⟩ },
        { w.2 with mlsGroups := w.2.mlsGroups.insert w.1.id buf }) := by
  obtain ⟨w₁, ⟨m, wl⟩, h1, h2⟩ := Mut.bind_eq_ok h
  obtain ⟨s₁, s₂, ha, hm, rfl⟩ := commitAndMerge_eq_ok h1
  obtain ⟨w₂, _, h3, h4⟩ := Mut.bind_eq_ok h2
  obtain ⟨buf, hs, hans, rfl⟩ := persistWhenChanged_mutate_eq_ok h3
  obtain ⟨rfl, rfl⟩ := Mut.pure_eq_ok h4
  exact ⟨s₁, s₂, buf, ha, hm, hs, hans, rfl⟩

theorem removeMembers_eq_ok {ms : List (ConversationMember L)} {answer : KeystoreAnswer}
    {w w' : World L} {r : L.MlsMessageOut}
    (h : removeMembers ms answer w = (w', .ok r)) :
    ∃ refs s₁ wl s₂ buf,
      memberRefsOf (ms.flatMap ConversationMember.clients) w.1.group.state = .ok refs ∧
      L.removeMembers w.1.group.state refs = .ok (s₁, r, wl) ∧
      L.mergePendingCommit s₁ = .ok s₂ ∧ L.save s₂ = .ok buf ∧ answer = .ok () ∧
      w' = ({ w.1 with group := ⟨s₂, .persisted⟩ },
        { w.2 with mlsGroups := w.2.mlsGroups.insert w.1.id buf }) := by
  obtain ⟨w₁, refs, h1, h2⟩ := Mut.bind_eq_ok h
  simp only [memberRefs, Prod.mk.injEq] at h1
  obtain ⟨rfl, hrefs⟩ := h1
  obtain ⟨w₂, m, h3, h4⟩ := Mut.bind_eq_ok h2
  obtain ⟨w₃, ⟨m', wl⟩, h5, h6⟩ := Mut.bind_eq_ok h3
  obtain ⟨s₁, s₂, hs₁, hm, rfl⟩ := commitAndMerge_eq_ok h5
  obtain ⟨rfl, rfl⟩ := Mut.pure_eq_ok h6
  obtain ⟨w₅, _, h9, h10⟩ := Mut.bind_eq_ok h4
  obtain ⟨buf, hs, hans, rfl⟩ := persistWhenChanged_mutate_eq_ok h9
  obtain ⟨rfl, rfl⟩ := Mut.pure_eq_ok h10
  exact ⟨refs, s₁, wl, s₂, buf, hrefs, hs₁, hm, hs, hans, rfl⟩

/-- For a proposal or a commit, `afterProcessing` is one change of the group, whose
successful outcomes are exactly `HandlesProcessed`, followed by the persistence block. -/
theorem afterProcessing_of_handled {p : ProcessedMessage L.StagedCommit}
    (hp : ∀ b, p ≠ .applicationMessage b) :
    ∃ f : L.GroupState → Except MlsError (L.GroupState × Unit),
      (∀ s s₃, f s = .ok (s₃, ()) ↔ HandlesProcessed p s s₃) ∧
      ∀ answer, afterProcessing answer p =
        (do groupCall f; persistWhenChanged answer; pure none : Mut (World L) (Option Bytes)) := by
  cases p with
  | applicationMessage b => exact absurd rfl (hp b)
  | proposalMessage q =>
    refine ⟨fun s => .ok (L.storePendingProposal s q, ()), fun s s₃ => ?_, fun _ => rfl⟩
    simp [HandlesProcessed, eq_comm]
  | stagedCommitMessage c =>
    refine ⟨fun s => (L.mergeStagedCommit s c).map (·, ()), fun s s₃ => ?_, fun _ => rfl⟩
    rcases hm : L.mergeStagedCommit s c <;> simp [HandlesProcessed, Except.map, hm]

/-- A group change followed by the persistence block, successful: the changed state, saved
and written. -/
theorem groupCallPersist_eq_ok {f : L.GroupState → Except MlsError (L.GroupState × Unit)}
    {answer : KeystoreAnswer} {w w' : World L} {r : Option Bytes}
    (h : (do groupCall f; persistWhenChanged answer; pure none : Mut (World L) (Option Bytes)) w =
      (w', .ok r)) :
    ∃ s₃ buf, f w.1.group.state = .ok (s₃, ()) ∧ L.save s₃ = .ok buf ∧ answer = .ok () ∧
      r = none ∧ w' = ({ w.1 with group := ⟨s₃, .persisted⟩ },
        { w.2 with mlsGroups := w.2.mlsGroups.insert w.1.id buf }) := by
  obtain ⟨w₁, _, h1, h2⟩ := Mut.bind_eq_ok h
  obtain ⟨s₃, hs₃, rfl⟩ := groupCall_eq_ok h1
  obtain ⟨w₂, _, h3, h4⟩ := Mut.bind_eq_ok h2
  obtain ⟨buf, hs, hans, rfl⟩ := persistWhenChanged_mutate_eq_ok h3
  obtain ⟨rfl, rfl⟩ := Mut.pure_eq_ok h4
  exact ⟨s₃, buf, hs₃, hs, hans, rfl, rfl⟩

/-- What `decrypt_message` did when it succeeded: parsed and processed the message; then either
returned the plaintext of an application message with nothing saved, or stored the proposal
(merged the commit) and persisted the result. -/
theorem decryptMessage_eq_ok {message : Bytes} {answer : KeystoreAnswer} {w w' : World L}
    {r : Option Bytes} (h : decryptMessage message answer w = (w', .ok r)) :
    ∃ mi s₁ u s₂ p, L.mlsMessageInTryFromBytes message = .ok mi ∧
      L.parseMessage w.1.group.state mi = .ok (s₁, u) ∧
      L.processUnverifiedMessage s₁ u = .ok (s₂, p) ∧
      ((∃ b, p = .applicationMessage b ∧ r = some b ∧
          w' = ({ w.1 with group := MlsGroup.mutate s₂ }, w.2)) ∨
        (∃ s₃ buf, HandlesProcessed p s₂ s₃ ∧ L.save s₃ = .ok buf ∧ answer = .ok () ∧ r = none ∧
          w' = ({ w.1 with group := ⟨s₃, .persisted⟩ },
            { w.2 with mlsGroups := w.2.mlsGroups.insert w.1.id buf }))) := by
  obtain ⟨mi, hmi, h2⟩ := Mut.lift_bind_eq_ok h
  obtain ⟨w₂, u, h3, h4⟩ := Mut.bind_eq_ok h2
  obtain ⟨s₁, hs₁, rfl⟩ := groupCall_eq_ok h3
  obtain ⟨w₃, p, h5, h6⟩ := Mut.bind_eq_ok h4
  obtain ⟨s₂, hs₂, rfl⟩ := groupCall_eq_ok h5
  refine ⟨mi, s₁, u, s₂, p, Except.mapError_eq_ok hmi, hs₁, hs₂, ?_⟩
  by_cases happ : ∃ b, p = .applicationMessage b
  · obtain ⟨b, rfl⟩ := happ
    obtain ⟨rfl, rfl⟩ := Mut.pure_eq_ok h6
    exact .inl ⟨b, rfl, rfl, rfl⟩
  obtain ⟨f, hf, heq⟩ := afterProcessing_of_handled fun b hb => happ ⟨b, hb⟩
  rw [heq] at h6
  obtain ⟨s₃, buf, hs₃, hs, hans, rfl, rfl⟩ := groupCallPersist_eq_ok h6
  exact .inr ⟨s₃, buf, (hf _ _).1 hs₃, hs, hans, rfl, rfl⟩

/-! ## Failed calls

A failed call is read step by step: for each openmls call or write that can fail, the group it
leaves when that step is the one that failed. -/

/-- What a failed persistence block leaves of the group state `s` it was to persist: `s` still
flagged as changed when `save` failed, and `s` flagged as saved when `save` went through and the
keystore write failed. Either way the state is `s`, not the one before the call. -/
def FailedPersistLeaves (s : L.GroupState) (g' : MlsGroup L) : Prop :=
  match L.save s with
  | .error _ => g' = MlsGroup.mutate s
  | .ok _ => g' = ⟨s, .persisted⟩

/-- What a failed commit leaves of the group `g`, for each step that failed: `g` itself when
openmls refused to stage the commit (`staged` is an error), the staged commit when
`merge_pending_commit` failed, and the merged group when the persistence block failed. -/
def FailedCommitLeaves {α : Type} (g g' : MlsGroup L) (staged : Except MlsError (L.GroupState × α)) :
    Prop :=
  match staged with
  | .error _ => g' = g
  | .ok (s₁, _) =>
    match L.mergePendingCommit s₁ with
    | .error _ => g' = MlsGroup.mutate s₁
    | .ok s₂ => FailedPersistLeaves s₂ g'

/-- What a failed `remove_members` leaves of the group `g`: `g` when a listed leaf could not be
hashed, and otherwise what the failed commit of the selected refs left. -/
def FailedRemoveLeaves (clients : List ClientId) (g g' : MlsGroup L) : Prop :=
  match memberRefsOf clients g.state with
  | .error _ => g' = g
  | .ok refs => FailedCommitLeaves g g' (L.removeMembers g.state refs)

/-- What a failed handling of the processed message `p` leaves of the processed state `s`: an
application message cannot fail; a proposal leaves it stored, unsaved or saved but not written;
a staged commit leaves `s` when merging it failed, and the merged state when the persistence
block failed. -/
def FailedHandlingLeaves (p : ProcessedMessage L.StagedCommit) (s : L.GroupState)
    (g' : MlsGroup L) : Prop :=
  match p with
  | .applicationMessage _ => False
  | .proposalMessage q => FailedPersistLeaves (L.storePendingProposal s q) g'
  | .stagedCommitMessage c =>
    match L.mergeStagedCommit s c with
    | .error _ => g' = MlsGroup.mutate s
    | .ok s₃ => FailedPersistLeaves s₃ g'

/-- What a failed `decrypt_message` leaves of the group `g`, for each step that failed: `g` when
the bytes or the message did not parse, the parsed state when processing failed, and after that
what the failed handling left. -/
def FailedDecryptLeaves (message : Bytes) (g g' : MlsGroup L) : Prop :=
  match L.mlsMessageInTryFromBytes message with
  | .error _ => g' = g
  | .ok mi =>
    match L.parseMessage g.state mi with
    | .error _ => g' = g
    | .ok (s₁, u) =>
      match L.processUnverifiedMessage s₁ u with
      | .error _ => g' = MlsGroup.mutate s₁
      | .ok (s₂, p) => FailedHandlingLeaves p s₂ g'

/-- A failed persistence block wrote nothing; at most it cleared the flag (the save went
through, the keystore write did not). -/
theorem persistWhenChanged_eq_error {answer : KeystoreAnswer} {w w' : World L} {e : CryptoError}
    (h : persistWhenChanged answer w = (w', .error e)) :
    w'.2 = w.2 ∧ w'.1 = { w.1 with group := { w.1.group with stateChanged := w'.1.group.stateChanged } } := by
  simp only [persistWhenChanged, Mut.bind_apply, groupStateChanged_apply] at h
  split at h
  · rcases Mut.bind_eq_error h with h1 | ⟨w₁, buf, h1, h2⟩
    · cases (groupSave_eq_error h1).1; exact ⟨rfl, rfl⟩
    · obtain ⟨-, rfl⟩ := groupSave_eq_ok h1
      cases groupPersist_eq_error h2
      exact ⟨rfl, rfl⟩
  · cases h

/-- The persistence block after a mutation, failed: the keystore as it was and the group as
`FailedPersistLeaves` says. -/
theorem persistWhenChanged_mutate_eq_error {answer : KeystoreAnswer} {c : MlsConversation L}
    {s : L.GroupState} {ks : Keystore} {w' : World L} {e : CryptoError}
    (h : persistWhenChanged answer ({ c with group := MlsGroup.mutate s }, ks) = (w', .error e)) :
    w'.2 = ks ∧ w'.1 = { c with group := w'.1.group } ∧ FailedPersistLeaves s w'.1.group := by
  simp only [persistWhenChanged, Mut.bind_apply, groupStateChanged_apply,
    MlsGroup.mutate_stateChanged, decide_True, ite_true] at h
  rcases Mut.bind_eq_error h with h1 | ⟨w₁, buf, h1, h2⟩
  · obtain ⟨rfl, hs⟩ := groupSave_eq_error h1
    simp only [MlsGroup.mutate_state] at hs
    exact ⟨rfl, rfl, by simp only [FailedPersistLeaves, hs]⟩
  · obtain ⟨hs, rfl⟩ := groupSave_eq_ok h1
    cases groupPersist_eq_error h2
    simp only [MlsGroup.mutate_state] at hs
    exact ⟨rfl, rfl, by simp only [FailedPersistLeaves, hs, MlsGroup.mutate_state]⟩

/-- A failed commit region: the keystore as it was, and the group as `FailedCommitLeaves` says
(staging or merging failed). -/
theorem commitAndMerge_eq_error {α : Type} {f : L.GroupState → Except MlsError (L.GroupState × α)}
    {w w' : World L} {e : CryptoError} (h : commitAndMerge f w = (w', .error e)) :
    w'.2 = w.2 ∧ w'.1 = { w.1 with group := w'.1.group } ∧
      FailedCommitLeaves w.1.group w'.1.group (f w.1.group.state) := by
  rcases Mut.bind_eq_error h with h1 | ⟨w₁, a, h1, h2⟩
  · obtain ⟨rfl, e', hf⟩ := groupCall_eq_error h1
    exact ⟨rfl, rfl, by simp only [FailedCommitLeaves, hf]⟩
  obtain ⟨s₁, hs₁, rfl⟩ := groupCall_eq_ok h1
  rcases Mut.bind_eq_error h2 with h3 | ⟨_, _, _, h4⟩
  · obtain ⟨rfl, e', hm⟩ := groupCall_eq_error h3
    have hm : L.mergePendingCommit s₁ = .error e' := Except.map_eq_error hm
    exact ⟨rfl, rfl, by simp only [FailedCommitLeaves, hs₁, hm]⟩
  · cases h4

/-- After a commit staged and merged, a failed persistence block leaves what
`FailedCommitLeaves` says. -/
theorem failedCommitLeaves_of_merged {α : Type} {g g' : MlsGroup L}
    {staged : Except MlsError (L.GroupState × α)} {s₁ s₂ : L.GroupState} {a : α}
    (hs : staged = .ok (s₁, a)) (hm : L.mergePendingCommit s₁ = .ok s₂)
    (hp : FailedPersistLeaves s₂ g') : FailedCommitLeaves g g' staged := by
  simpa only [FailedCommitLeaves, hs, hm] using hp

theorem addMembers_eq_error {ms : List (ConversationMember L)} {answer : KeystoreAnswer}
    {w w' : World L} {e : CryptoError} (h : addMembers ms answer w = (w', .error e)) :
    w'.2 = w.2 ∧ w'.1 = { w.1 with group := w'.1.group } ∧
      FailedCommitLeaves w.1.group w'.1.group (L.addMembers w.1.group.state (keypackagesOf ms)) := by
  rcases Mut.bind_eq_error h with h1 | ⟨w₁, ⟨m, wl⟩, h1, h2⟩
  · exact commitAndMerge_eq_error h1
  obtain ⟨s₁, s₂, hs₁, hs₂, rfl⟩ := commitAndMerge_eq_ok h1
  rcases Mut.bind_eq_error h2 with h3 | ⟨_, _, _, h4⟩
  · obtain ⟨hks, hc, hp⟩ := persistWhenChanged_mutate_eq_error h3
    exact ⟨hks, by rw [hc], failedCommitLeaves_of_merged hs₁ hs₂ hp⟩
  · cases h4

theorem removeMembers_eq_error {ms : List (ConversationMember L)} {answer : KeystoreAnswer}
    {w w' : World L} {e : CryptoError} (h : removeMembers ms answer w = (w', .error e)) :
    w'.2 = w.2 ∧ w'.1 = { w.1 with group := w'.1.group } ∧
      FailedRemoveLeaves (ms.flatMap ConversationMember.clients) w.1.group w'.1.group := by
  rcases Mut.bind_eq_error h with h1 | ⟨w₁, refs, h1, h2⟩ <;>
    obtain ⟨rfl, hrefs⟩ := (Prod.mk.inj_iff.1 h1 : _ ∧ _)
  · exact ⟨rfl, rfl, by simp only [FailedRemoveLeaves, hrefs]⟩
  simp only [FailedRemoveLeaves, hrefs]
  rcases Mut.bind_eq_error h2 with h3 | ⟨w₂, message, h3, h4⟩
  · rcases Mut.bind_eq_error h3 with h5 | ⟨_, _, _, h6⟩
    · exact commitAndMerge_eq_error h5
    · cases h6
  obtain ⟨w₃, ⟨m, wl⟩, h5, h6⟩ := Mut.bind_eq_ok h3
  obtain ⟨s₁, s₂, hs₁, hs₂, rfl⟩ := commitAndMerge_eq_ok h5
  obtain ⟨rfl, -⟩ := Mut.pure_eq_ok h6
  rcases Mut.bind_eq_error h4 with h7 | ⟨_, _, _, h8⟩
  · obtain ⟨hks, hc, hp⟩ := persistWhenChanged_mutate_eq_error h7
    exact ⟨hks, by rw [hc], failedCommitLeaves_of_merged hs₁ hs₂ hp⟩
  · cases h8

/-- A failed handling of a processed message: the keystore as it was, and the group as
`FailedHandlingLeaves` says. -/
theorem afterProcessing_eq_error {answer : KeystoreAnswer} {p : ProcessedMessage L.StagedCommit}
    {c : MlsConversation L} {s : L.GroupState} {ks : Keystore} {w' : World L} {e : CryptoError}
    (h : afterProcessing answer p ({ c with group := MlsGroup.mutate s }, ks) = (w', .error e)) :
    w'.2 = ks ∧ w'.1 = { c with group := w'.1.group } ∧ FailedHandlingLeaves p s w'.1.group := by
  cases p with
  | applicationMessage b => cases h
  | proposalMessage q =>
    obtain ⟨w₁, _, h1, h2⟩ | h1 := (Mut.bind_eq_error h).symm
    · obtain ⟨s', hs', rfl⟩ := groupCall_eq_ok h1
      cases hs'
      rcases Mut.bind_eq_error h2 with h3 | ⟨_, _, _, h4⟩
      · obtain ⟨hks, hc, hp⟩ := persistWhenChanged_mutate_eq_error h3
        exact ⟨hks, by rw [hc], hp⟩
      · cases h4
    · obtain ⟨-, _, he⟩ := groupCall_eq_error h1
      cases he
  | stagedCommitMessage commit =>
    rcases Mut.bind_eq_error h with h1 | ⟨w₁, _, h1, h2⟩
    · obtain ⟨rfl, e', hm⟩ := groupCall_eq_error h1
      have hm : L.mergeStagedCommit s commit = .error e' := Except.map_eq_error hm
      exact ⟨rfl, rfl, by simp only [FailedHandlingLeaves, hm]⟩
    obtain ⟨s₃, hs₃, rfl⟩ := groupCall_eq_ok h1
    have hm : L.mergeStagedCommit s commit = .ok s₃ := by
      obtain ⟨_, hm, hpair⟩ := Except.map_eq_ok hs₃
      cases hpair
      exact hm
    rcases Mut.bind_eq_error h2 with h3 | ⟨_, _, _, h4⟩
    · obtain ⟨hks, hc, hp⟩ := persistWhenChanged_mutate_eq_error h3
      exact ⟨hks, by rw [hc], by simpa only [FailedHandlingLeaves, hm] using hp⟩
    · cases h4

theorem decryptMessage_eq_error {message : Bytes} {answer : KeystoreAnswer} {w w' : World L}
    {e : CryptoError} (h : decryptMessage message answer w = (w', .error e)) :
    w'.2 = w.2 ∧ w'.1 = { w.1 with group := w'.1.group } ∧
      FailedDecryptLeaves message w.1.group w'.1.group := by
  rcases Mut.lift_bind_eq_error h with ⟨rfl, hb⟩ | ⟨mi, hmi, h2⟩
  · refine ⟨rfl, rfl, ?_⟩
    cases hb' : L.mlsMessageInTryFromBytes message with
    | error => simp only [FailedDecryptLeaves, hb']
    | ok => rw [hb'] at hb; cases hb
  have hmi' := Except.mapError_eq_ok hmi
  rcases Mut.bind_eq_error h2 with h3 | ⟨w₂, u, h3, h4⟩
  · obtain ⟨rfl, e', hp⟩ := groupCall_eq_error h3
    exact ⟨rfl, rfl, by simp only [FailedDecryptLeaves, hmi', hp]⟩
  obtain ⟨s₁, hs₁, rfl⟩ := groupCall_eq_ok h3
  rcases Mut.bind_eq_error h4 with h5 | ⟨w₃, p, h5, h6⟩
  · obtain ⟨rfl, e', hp⟩ := groupCall_eq_error h5
    simp only [MlsGroup.mutate_state] at hp
    exact ⟨rfl, rfl, by simp only [FailedDecryptLeaves, hmi', hs₁, hp]⟩
  obtain ⟨s₂, hs₂, rfl⟩ := groupCall_eq_ok h5
  simp only [MlsGroup.mutate_state] at hs₂
  obtain ⟨hks, hc, hg⟩ := afterProcessing_eq_error h6
  exact ⟨hks, hc, by simpa only [FailedDecryptLeaves, hmi', hs₁, hs₂] using hg⟩

/-- **A failed call writes nothing and rolls nothing back.** When `add_members`,
`remove_members` or `decrypt_message` returns `Err`, the keystore is as it was and the
conversation differs at most in its group. For each step that failed, the group is the one
that step left: as it was when openmls refused to stage the commit or to parse the message;
with the staged commit, the parsed or the processed message when the next openmls call
failed; and, when `save` or `mls_group_persist` failed after a merge, the merged group, in the
new epoch. -/
theorem failed_call_keeps_keystore_not_group (w w' : World L) (e : CryptoError) :
    (∀ ms answer, addMembers ms answer w = (w', .error e) →
      w'.2 = w.2 ∧ w'.1 = { w.1 with group := w'.1.group } ∧
      FailedCommitLeaves w.1.group w'.1.group (L.addMembers w.1.group.state (keypackagesOf ms))) ∧
    (∀ ms answer, removeMembers ms answer w = (w', .error e) →
      w'.2 = w.2 ∧ w'.1 = { w.1 with group := w'.1.group } ∧
      FailedRemoveLeaves (ms.flatMap ConversationMember.clients) w.1.group w'.1.group) ∧
    (∀ message answer, decryptMessage message answer w = (w', .error e) →
      w'.2 = w.2 ∧ w'.1 = { w.1 with group := w'.1.group } ∧
      FailedDecryptLeaves message w.1.group w'.1.group) :=
  ⟨fun _ _ h => addMembers_eq_error h, fun _ _ h => removeMembers_eq_error h,
    fun _ _ h => decryptMessage_eq_error h⟩

/-- A group created for `[1]`, then an `add_members` of one key package whose keystore write
fails: the caller gets `Err`, the group stays merged, one leaf ahead of the persisted row. -/
theorem failed_persist_keeps_merged_group :
    ∃ (c₀ : MlsConversation tallyLib) (ks₀ : Keystore) (w' : World tallyLib),
      create [1] (.ok []) {} (.ok ()) Keystore.empty = (ks₀, .ok (c₀, none)) ∧
      addMembers [⟨[([2], some ())]⟩] (.error (.backend "disk full")) (c₀, ks₀) =
        (w', .error (.keyStoreError (.backend "disk full"))) ∧
      w'.1.group.state ≠ c₀.group.state ∧ w'.2.mlsGroups = ks₀.mlsGroups :=
  ⟨_, _, _, rfl, rfl, by decide, rfl⟩

/-! ## Successful construction -/

/-- A successful `mls_group_persist`: the backend accepted the write, which upserted the
row. -/
theorem persistRow_eq_ok {id : ConversationId} {buf : Bytes} {answer : KeystoreAnswer}
    {ks ks' : Keystore} {u : Unit} (h : persistRow id buf answer ks = (ks', .ok u)) :
    answer = .ok () ∧ ks' = { ks with mlsGroups := ks.mlsGroups.insert id buf } := by
  obtain _ | ⟨⟨⟩⟩ := answer
  · cases h
  · cases h
    exact ⟨rfl, rfl⟩

theorem create_eq_ok {id : ConversationId} {hash : Except CryptoError Bytes}
    {config : MlsConversationConfiguration L} {answer : KeystoreAnswer} {ks ks' : Keystore}
    {c : MlsConversation L} {m : Option (MlsConversationCreationMessage L)}
    (h : create id hash config answer ks = (ks', .ok (c, m))) :
    ∃ h₀ s₀ s buf, hash = .ok h₀ ∧ L.new id h₀ = .ok s₀ ∧
      addExtraMembers s₀ config.extraMembers = .ok (s, m) ∧ L.save s = .ok buf ∧ answer = .ok () ∧
      c = ⟨id, ⟨s, .persisted⟩, config.admins, config⟩ ∧
      ks' = { ks with mlsGroups := ks.mlsGroups.insert id buf } := by
  obtain ⟨h₀, rfl, h2⟩ := Mut.lift_bind_eq_ok h
  obtain ⟨s₀, h3, h4⟩ := Mut.lift_bind_eq_ok h2
  obtain ⟨⟨s, m'⟩, h5, h6⟩ := Mut.lift_bind_eq_ok h4
  obtain ⟨⟨buf, g⟩, h7, h8⟩ := Mut.lift_bind_eq_ok h6
  obtain ⟨hs, rfl⟩ := MlsGroup.save_eq_ok h7
  obtain ⟨_, _, h9, h10⟩ := Mut.bind_eq_ok h8
  obtain ⟨rfl, rfl⟩ := persistRow_eq_ok h9
  simp only [Mut.pure_apply, Prod.mk.injEq, Except.ok.injEq] at h10
  obtain ⟨rfl, rfl, rfl⟩ := h10
  exact ⟨h₀, s₀, s, buf, rfl, Except.mapError_eq_ok h3, h5, hs, rfl, rfl, rfl⟩

theorem fromWelcomeMessage_eq_ok {welcome : L.Welcome} {config : MlsConversationConfiguration L}
    {answer : KeystoreAnswer} {ks ks' : Keystore} {c : MlsConversation L}
    (h : fromWelcomeMessage welcome config answer ks = (ks', .ok c)) :
    ∃ s buf, L.newFromWelcome welcome = .ok s ∧ L.save s = .ok buf ∧ answer = .ok () ∧
      c = ⟨L.groupId s, ⟨s, .persisted⟩, config.admins, config⟩ ∧
      ks' = { ks with mlsGroups := ks.mlsGroups.insert (L.groupId s) buf } := by
  obtain ⟨s, h1, h2⟩ := Mut.lift_bind_eq_ok h
  obtain ⟨⟨buf, g⟩, h3, h4⟩ := Mut.lift_bind_eq_ok h2
  obtain ⟨hs, rfl⟩ := MlsGroup.save_eq_ok h3
  obtain ⟨_, _, h5, h6⟩ := Mut.bind_eq_ok h4
  obtain ⟨rfl, rfl⟩ := persistRow_eq_ok h5
  simp only [Mut.pure_apply, Prod.mk.injEq, Except.ok.injEq] at h6
  obtain ⟨rfl, rfl⟩ := h6
  exact ⟨s, buf, Except.mapError_eq_ok h1, hs, rfl, rfl, rfl⟩

/-! ## The row after a successful call -/

/-- The row of the conversation holds the serialization of its in-memory group. -/
def RowSynced (w : World L) : Prop :=
  ∃ buf, L.save w.1.group.state = .ok buf ∧ w.2.mlsGroups.lookup w.1.id = some buf

theorem rowSynced_insert (c : MlsConversation L) (ks : Keystore) {buf : Bytes}
    (hs : L.save c.group.state = .ok buf) :
    RowSynced (c, { ks with mlsGroups := ks.mlsGroups.insert c.id buf }) :=
  ⟨buf, hs, AList.lookup_insert _⟩

/-- **Persisting calls.** Every successful `create`, `from_welcome_message`, `add_members`
and `remove_members`, and every `decrypt_message` that handled a proposal or a commit,
leaves the row equal to the serialization of the group. -/
theorem persisting_calls_sync_row :
    (∀ ms answer (w w' : World L) r, addMembers ms answer w = (w', .ok r) → RowSynced w') ∧
    (∀ ms answer (w w' : World L) r, removeMembers ms answer w = (w', .ok r) → RowSynced w') ∧
    (∀ message answer (w w' : World L),
      decryptMessage message answer w = (w', .ok none) → RowSynced w') ∧
    (∀ id hash config answer ks ks' (c : MlsConversation L) m,
      create id hash config answer ks = (ks', .ok (c, m)) → RowSynced (c, ks')) ∧
    (∀ welcome config answer ks ks' (c : MlsConversation L),
      fromWelcomeMessage welcome config answer ks = (ks', .ok c) → RowSynced (c, ks')) := by
  refine ⟨?_, ?_, ?_, ?_, ?_⟩
  · intro ms answer w w' r h
    obtain ⟨_, _, _, -, -, hs, -, rfl⟩ := addMembers_eq_ok h
    exact rowSynced_insert _ _ hs
  · intro ms answer w w' r h
    obtain ⟨_, _, _, _, _, -, -, -, hs, -, rfl⟩ := removeMembers_eq_ok h
    exact rowSynced_insert _ _ hs
  · intro message answer w w' h
    obtain ⟨_, _, _, _, _, -, -, -, ⟨_, -, hr, -⟩ | ⟨_, _, -, hs, -, -, rfl⟩⟩ :=
      decryptMessage_eq_ok h
    · cases hr
    · exact rowSynced_insert _ _ hs
  · intro id hash config answer ks ks' c m h
    obtain ⟨_, _, _, _, -, -, -, hs, -, rfl, rfl⟩ := create_eq_ok h
    exact rowSynced_insert _ _ hs
  · intro welcome config answer ks ks' c h
    obtain ⟨_, _, -, hs, -, rfl, rfl⟩ := fromWelcomeMessage_eq_ok h
    exact rowSynced_insert _ _ hs

/-- The conversation `create` makes on `tallyLib` for `[1]` with admin `[0]` (one leaf), and the
keystore it leaves (the row `[0]`). -/
def adminConversation : World tallyLib :=
  (⟨[1], ⟨(1, 0), .persisted⟩, [[0]], { admins := [[0]] }⟩,
    { Keystore.empty with mlsGroups := AList.insert [1] [0] ∅ })

/-- On `tallyLib`: the conversation above, then an `add_members` of the member `[2]`; the row
follows the group through both. -/
theorem create_then_add_sync_row :
    ∃ (w' : World tallyLib) (r : MlsConversationCreationMessage tallyLib),
      create [1] (.ok []) { admins := [[0]] } (.ok ()) Keystore.empty =
        (adminConversation.2, .ok (adminConversation.1, none)) ∧ RowSynced adminConversation ∧
      addMembers [⟨[([2], some ())]⟩] (.ok ()) adminConversation = (w', .ok r) ∧ RowSynced w' :=
  have hc : create [1] (.ok []) { admins := [[0]] } (.ok ()) Keystore.empty =
      (adminConversation.2, .ok (adminConversation.1, none)) := rfl
  have hadd : addMembers [⟨[([2], some ())]⟩] (.ok ()) adminConversation = (_, .ok _) := rfl
  ⟨_, _, hc, persisting_calls_sync_row.2.2.2.1 _ _ _ _ _ _ _ _ hc, hadd,
    persisting_calls_sync_row.1 _ _ _ _ _ hadd⟩

/-- A group created for `[1]` (one leaf, generation 0, persisted as `[0]`), then one
application message decrypted and one encrypted, each on that state: both calls return
`Ok`, both advance the generation, and the row still holds `[0]`. -/
theorem application_messages_leave_row_stale :
    ∃ (c₀ : MlsConversation tallyLib) (ks₀ : Keystore) (w₁ w₂ : World tallyLib),
      create [1] (.ok []) {} (.ok ()) Keystore.empty = (ks₀, .ok (c₀, none)) ∧
      decryptMessage [] (.ok ()) (c₀, ks₀) = (w₁, .ok (some [7])) ∧
      w₁.2.mlsGroups.lookup w₁.1.id = some [0] ∧ tallyLib.save w₁.1.group.state = .ok [0, 1] ∧
      encryptMessage [] (c₀, ks₀) = (w₂, .ok []) ∧
      w₂.2.mlsGroups.lookup w₂.1.id = some [0] ∧ tallyLib.save w₂.1.group.state = .ok [0, 1] :=
  ⟨_, _, _, _, rfl, rfl, rfl, rfl, rfl, rfl, rfl⟩

/-! ## Reloading a conversation -/

/-- Conversations reached by `create` or `from_welcome_message` and then any number of
successful `add_members`, `remove_members` and `decrypt_message` calls. -/
inductive OkReachable : World L → Prop
  | create {id : ConversationId} {hash : Except CryptoError Bytes}
      {config : MlsConversationConfiguration L} {answer : KeystoreAnswer} {ks ks' : Keystore}
      {c : MlsConversation L} {m : Option (MlsConversationCreationMessage L)} :
      create id hash config answer ks = (ks', .ok (c, m)) → OkReachable (c, ks')
  | fromWelcome {welcome : L.Welcome} {config : MlsConversationConfiguration L}
      {answer : KeystoreAnswer} {ks ks' : Keystore} {c : MlsConversation L} :
      fromWelcomeMessage welcome config answer ks = (ks', .ok c) → OkReachable (c, ks')
  | call {w w' : World L} (call : ConversationCall L) :
      OkReachable w → call.run w = (w', .ok ()) → OkReachable w'

/-- The row of the conversation holds some serialized group with the conversation's id
and the id and leaves of its current group. -/
def RowHoldsRoster (w : World L) : Prop :=
  ∃ s buf, w.2.mlsGroups.lookup w.1.id = some buf ∧ L.save s = .ok buf ∧
    L.groupId s = w.1.id ∧ L.SameRoster s w.1.group.state

theorem sameRoster_refl (s : L.GroupState) : L.SameRoster s s := ⟨rfl, rfl⟩

theorem SameRoster.trans {s₁ s₂ s₃ : L.GroupState} (h₁ : L.SameRoster s₁ s₂)
    (h₂ : L.SameRoster s₂ s₃) : L.SameRoster s₁ s₃ :=
  ⟨h₂.1.trans h₁.1, h₂.2.trans h₁.2⟩

/-- A freshly written row holds the roster of the group it serializes. -/
theorem rowHoldsRoster_insert {c : MlsConversation L} {ks : Keystore} {buf : Bytes}
    (hs : L.save c.group.state = .ok buf) (hid : L.groupId c.group.state = c.id) :
    RowHoldsRoster (c, { ks with mlsGroups := ks.mlsGroups.insert c.id buf }) :=
  ⟨_, buf, AList.lookup_insert _, hs, hid, sameRoster_refl _⟩

theorem addExtraMembers_groupId (hid : L.MutationsKeepId) {s₀ s : L.GroupState}
    {ms : List (ConversationMember L)} {m : Option (MlsConversationCreationMessage L)}
    (h : addExtraMembers s₀ ms = .ok (s, m)) : L.groupId s = L.groupId s₀ := by
  unfold addExtraMembers at h
  split at h
  · cases h; rfl
  · split at h
    · cases h
    · rename_i s₁ _ _ ha
      split at h
      · cases h
      · rename_i s₂ hm
        cases h
        exact (hid.2.2.1 _ _ hm).trans (hid.1 _ _ _ _ _ ha)

/-- A loaded row: the group's own id, the group as persisted, no admins. -/
theorem fromSerializedState_of_load {buf : Bytes} {s : L.GroupState} (hl : L.load buf = .ok s) :
    fromSerializedState buf =
      .ok ⟨L.groupId s, ⟨s, .persisted⟩, [], { ciphersuite := L.ciphersuite s }⟩ := by
  simp only [fromSerializedState, MlsGroup.load, hl]
  rfl

section Reload

variable (hnew : L.NewKeepsId) (hid : L.MutationsKeepId) (happ : L.ApplicationKeepsRoster)
include hnew hid happ

/-- Each way into `OkReachable` keeps the roster in the row. -/
theorem OkReachable.rowHoldsRoster {w : World L} (hw : OkReachable w) : RowHoldsRoster w := by
  induction hw with
  | create h =>
    obtain ⟨_, _, _, _, -, hn, hx, hs, -, rfl, rfl⟩ := create_eq_ok h
    exact rowHoldsRoster_insert hs ((addExtraMembers_groupId hid hx).trans (hnew _ _ _ hn))
  | fromWelcome h =>
    obtain ⟨_, _, -, hs, -, rfl, rfl⟩ := fromWelcomeMessage_eq_ok h
    exact rowHoldsRoster_insert hs rfl
  | call call _ hrun ih =>
    obtain ⟨s, buf, hrow, hsave, hsid, hsr⟩ := ih
    have hcur : L.groupId _ = _ := hsr.1.trans hsid
    cases call with
    | addMembers ms answer =>
      obtain ⟨r, hr⟩ := Mut.bind_pure_unit_eq_ok hrun
      obtain ⟨s₁, s₂, _, ha, hm, hs, -, rfl⟩ := addMembers_eq_ok hr
      exact rowHoldsRoster_insert hs ((hid.2.2.1 _ _ hm).trans ((hid.1 _ _ _ _ _ ha).trans hcur))
    | removeMembers ms answer =>
      obtain ⟨r, hr⟩ := Mut.bind_pure_unit_eq_ok hrun
      obtain ⟨_, s₁, _, s₂, _, -, ha, hm, hs, -, rfl⟩ := removeMembers_eq_ok hr
      exact rowHoldsRoster_insert hs
        ((hid.2.2.1 _ _ hm).trans ((hid.2.1 _ _ _ _ _ ha).trans hcur))
    | decryptMessage message answer =>
      obtain ⟨r, hr⟩ := Mut.bind_pure_unit_eq_ok hrun
      obtain ⟨_, s₁, _, s₂, p, -, hparse, hproc, ⟨b, rfl, -, rfl⟩ | ⟨s₃, _, hh, hs, -, -, rfl⟩⟩ :=
        decryptMessage_eq_ok hr
      · exact ⟨s, buf, hrow, hsave, hsid,
          SameRoster.trans (SameRoster.trans hsr (happ.1 _ _ _ _ hparse)) (happ.2 _ _ _ _ hproc)⟩
      · have h₂ : L.groupId s₂ = _ :=
          (hid.2.2.2.1 _ _ _ _ hproc).trans ((happ.1 _ _ _ _ hparse).1.trans hcur)
        rcases hh with ⟨q, rfl, rfl⟩ | ⟨c, rfl, hc⟩
        · exact rowHoldsRoster_insert hs ((hid.2.2.2.2.1 _ _).trans h₂)
        · exact rowHoldsRoster_insert hs ((hid.2.2.2.2.2 _ _ _ hc).trans h₂)

/-- **Reload.** Over any run of successful calls, `from_serialized_state` of the row gives
back the conversation's id and its `members()` map — and a conversation in which nobody can
act: the admins are not part of the row. -/
theorem reload_keeps_id_and_members_not_admins (hload : L.LoadInvertsSave) {w : World L}
    (hw : OkReachable w) :
    ∃ buf c', w.2.mlsGroups.lookup w.1.id = some buf ∧ fromSerializedState buf = .ok c' ∧
      c'.id = w.1.id ∧ c'.members = w.1.members ∧ ∀ u, c'.canUserAct u = false := by
  obtain ⟨s, buf, hrow, hsave, hsid, hsr⟩ := hw.rowHoldsRoster hnew hid happ
  refine ⟨buf, _, hrow, fromSerializedState_of_load (hload s buf hsave), hsid, ?_, fun _ => rfl⟩
  simp only [members, hsr.2]

end Reload

/-- `tallyLib` satisfies the laws; the conversation it creates for `[1]` with admin `[0]`, after
an `add_members` of the member `[2]`, reloads as the theorem says: the same id and members, and
`[0]`, who could act, no longer can. -/
theorem reload_after_create :
    create [1] (.ok []) { admins := [[0]] } (.ok ()) Keystore.empty =
      (adminConversation.2, .ok (adminConversation.1, none)) ∧
    ∃ w : World tallyLib,
      ConversationCall.run (.addMembers [⟨[([2], some ())]⟩] (.ok ())) adminConversation =
        (w, .ok ()) ∧ w.1.canUserAct [0] = true ∧
      ∃ buf c', w.2.mlsGroups.lookup w.1.id = some buf ∧ fromSerializedState buf = .ok c' ∧
        c'.id = w.1.id ∧ c'.members = w.1.members ∧ ∀ u, c'.canUserAct u = false :=
  have hc : create [1] (.ok []) { admins := [[0]] } (.ok ()) Keystore.empty =
      (adminConversation.2, .ok (adminConversation.1, none)) := rfl
  have hadd : ConversationCall.run (.addMembers [⟨[([2], some ())]⟩] (.ok ())) adminConversation =
      (_, .ok ()) := rfl
  ⟨hc, _, hadd, rfl, reload_keeps_id_and_members_not_admins tallyLib_newKeepsId
    tallyLib_mutationsKeepId tallyLib_applicationKeepsRoster tallyLib_loadInvertsSave
    (.call _ (.create hc) hadd)⟩

/-- A conversation created for `[1]` with admin `[0]`: the row it persisted reloads into a
conversation where `[0]` can no longer act, although `tallyLib` loads what it saves. -/
theorem reload_forgets_admins :
    tallyLib.LoadInvertsSave ∧
      ∃ (c : MlsConversation tallyLib) (ks : Keystore) (buf : Bytes) (c' : MlsConversation tallyLib),
        create [1] (.ok []) { admins := [[0]] } (.ok ()) Keystore.empty = (ks, .ok (c, none)) ∧
        ks.mlsGroups.lookup c.id = some buf ∧ fromSerializedState buf = .ok c' ∧
        c.canUserAct [0] = true ∧ c'.canUserAct [0] = false :=
  ⟨tallyLib_loadInvertsSave, _, _, _, _, rfl, rfl, rfl, rfl, rfl⟩

end MlsConversation

end CoreCrypto
