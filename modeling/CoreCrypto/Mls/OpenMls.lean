import CoreCrypto.Keystore

/-!
# The openmls interface

The conversation layer drives an openmls `MlsGroup` through a handful of methods. openmls
is not part of this repository, so its group is an abstract state and each method an
abstract function over it: `OpenMls` bundles them, and every result below holds for every
`L : OpenMls`, under the library laws a theorem names as hypotheses.

Two conventions are built into the types:

* a failing openmls call returns `Except.error` and no new state, i.e. it leaves the group
  as it was;
* `MlsGroup L` pairs the state with openmls's `state_changed` flag: every successful
  mutating call sets it to `Changed` (`MlsGroup.mutate`), `save` clears it, `load` starts
  from `Persisted`. This is how openmls flags its mutations, and what the conversation
  code tests before persisting.

The types of messages, welcomes and key packages stay abstract; proposals and their senders
are concrete, since `validate_external_commit` inspects them.
-/

namespace CoreCrypto

/-- `MlsCiphersuite`, by its IANA code. -/
abbrev MlsCiphersuite : Type := UInt16

/-- `Sender` of a queued proposal. -/
inductive Sender where
  | member (leaf : Nat)
  | preconfigured (index : Nat)
  | newMember
  deriving DecidableEq, Repr

/-- `Proposal`, by kind; no modelled code reads a payload. -/
inductive Proposal where
  | add
  | update
  | remove
  | preSharedKey
  | reInit
  | externalInit
  | appAck
  | groupContextExtensions
  deriving DecidableEq, Repr

/-- `QueuedProposal`: a proposal and who sent it. -/
structure QueuedProposal where
  sender : Sender
  proposal : Proposal
  deriving DecidableEq, Repr

/-- `ProcessedMessage`: what `process_unverified_message` made of an inbound message. -/
inductive ProcessedMessage (StagedCommit : Type) where
  | applicationMessage (bytes : Bytes)
  | proposalMessage (proposal : QueuedProposal)
  | stagedCommitMessage (commit : StagedCommit)

/-- `InnerState`: whether the group changed since it was last saved. -/
inductive InnerState where
  | changed
  | persisted
  deriving DecidableEq, Repr

/-- The openmls types and methods the conversation code uses. -/
structure OpenMls where
  /-- the group: ratchet tree, epoch, secrets, proposal store, pending commit -/
  GroupState : Type
  KeyPackage : Type
  KeyPackageRef : Type
  Credential : Type
  Welcome : Type
  MlsMessageOut : Type
  MlsMessageIn : Type
  UnverifiedMessage : Type
  StagedCommit : Type
  /-- `MlsGroup::new` with the default configuration, a group id and the creator's key
  package hash -/
  new : ConversationId → Bytes → Except MlsError GroupState
  /-- `MlsGroup::new_from_welcome` -/
  newFromWelcome : Welcome → Except MlsError GroupState
  /-- `MlsGroup::save`, the serialization of the group -/
  save : GroupState → Except CryptoError Bytes
  /-- `MlsGroup::load` -/
  load : Bytes → Except CryptoError GroupState
  groupId : GroupState → ConversationId
  ciphersuite : GroupState → MlsCiphersuite
  /-- `members()`: the key packages of the leaves -/
  members : GroupState → List KeyPackage
  credential : KeyPackage → Credential
  /-- `Credential::identity` -/
  identity : Credential → Bytes
  hashRef : KeyPackage → Except MlsError KeyPackageRef
  /-- `add_members`: stage the commit, keep it as the pending commit -/
  addMembers : GroupState → List KeyPackage → Except MlsError (GroupState × MlsMessageOut × Welcome)
  removeMembers : GroupState → List KeyPackageRef →
    Except MlsError (GroupState × MlsMessageOut × Option Welcome)
  mergePendingCommit : GroupState → Except MlsError GroupState
  selfUpdate : GroupState → Except MlsError (GroupState × MlsMessageOut × Option Welcome)
  /-- `MlsMessageIn::try_from_bytes` -/
  mlsMessageInTryFromBytes : Bytes → Except MlsError MlsMessageIn
  parseMessage : GroupState → MlsMessageIn → Except MlsError (GroupState × UnverifiedMessage)
  processUnverifiedMessage : GroupState → UnverifiedMessage →
    Except MlsError (GroupState × ProcessedMessage StagedCommit)
  storePendingProposal : GroupState → QueuedProposal → GroupState
  mergeStagedCommit : GroupState → StagedCommit → Except MlsError GroupState
  createMessage : GroupState → Bytes → Except MlsError (GroupState × MlsMessageOut)
  /-- `MlsMessageOut::to_bytes` -/
  messageToBytes : MlsMessageOut → Except MlsError Bytes
  /-- `StagedCommit::staged_proposal_queue` -/
  stagedProposalQueue : StagedCommit → List QueuedProposal
  /-- `MlsConversation::members_in_next_epoch` (not in this version of the sources) -/
  membersInNextEpoch : GroupState → List ClientId
  /-- `MlsGroup::pending_proposals`: the proposal store, whose proposals every commit the
  group creates carries along with its own -/
  pendingProposals : GroupState → List QueuedProposal

/-- An openmls `MlsGroup`: its state and its `state_changed` flag. -/
structure MlsGroup (L : OpenMls) where
  state : L.GroupState
  stateChanged : InnerState

namespace MlsGroup

variable {L : OpenMls}

/-- The group after a successful mutating call: the new state, flagged as changed. -/
def mutate (s : L.GroupState) : MlsGroup L := ⟨s, .changed⟩

@[simp] theorem mutate_state (s : L.GroupState) : (mutate s).state = s := rfl

@[simp] theorem mutate_stateChanged (s : L.GroupState) : (mutate s).stateChanged = .changed := rfl

/-- `MlsGroup::save`: the serialization, and the group with its flag cleared. -/
def save (g : MlsGroup L) : Except CryptoError (Bytes × MlsGroup L) :=
  (L.save g.state).map fun buf => (buf, { g with stateChanged := .persisted })

/-- `MlsGroup::load`: a loaded group has nothing unsaved. -/
def load (buf : Bytes) : Except CryptoError (MlsGroup L) :=
  (L.load buf).map fun s => ⟨s, .persisted⟩

theorem save_eq_ok {g g' : MlsGroup L} {buf : Bytes} (h : g.save = .ok (buf, g')) :
    L.save g.state = .ok buf ∧ g' = { g with stateChanged := .persisted } := by
  obtain ⟨buf', hs, hbuf⟩ := Except.map_eq_ok h
  cases hbuf
  exact ⟨hs, rfl⟩

theorem save_eq_error {g : MlsGroup L} {e : CryptoError} (h : g.save = .error e) :
    L.save g.state = .error e := by
  unfold save at h
  cases hs : L.save g.state <;> simp_all [Except.map]

end MlsGroup

/-! ## Library laws

Properties of openmls the results below rely on, each named where it is used. -/

/-- `MlsGroup::load` reads back what `MlsGroup::save` wrote. -/
def OpenMls.LoadInvertsSave (L : OpenMls) : Prop :=
  ∀ s buf, L.save s = .ok buf → L.load buf = .ok s

/-- A group created for an id carries that id. -/
def OpenMls.NewKeepsId (L : OpenMls) : Prop :=
  ∀ id h s, L.new id h = .ok s → L.groupId s = id

/-- Two group states with the same id and the same leaves. -/
def OpenMls.SameRoster (L : OpenMls) (s s' : L.GroupState) : Prop :=
  L.groupId s' = L.groupId s ∧ L.members s' = L.members s

/-- Decrypting an application message (parsing it, then processing it into an
`ApplicationMessage`) changes neither the group id nor the leaves: only the secret tree
moves. -/
def OpenMls.ApplicationKeepsRoster (L : OpenMls) : Prop :=
  (∀ s m s' u, L.parseMessage s m = .ok (s', u) → L.SameRoster s s') ∧
  (∀ s u s' b, L.processUnverifiedMessage s u = .ok (s', .applicationMessage b) →
    L.SameRoster s s')

/-- No successful mutation changes the group id. -/
def OpenMls.MutationsKeepId (L : OpenMls) : Prop :=
  (∀ s kps s' m w, L.addMembers s kps = .ok (s', m, w) → L.groupId s' = L.groupId s) ∧
  (∀ s refs s' m w, L.removeMembers s refs = .ok (s', m, w) → L.groupId s' = L.groupId s) ∧
  (∀ s s', L.mergePendingCommit s = .ok s' → L.groupId s' = L.groupId s) ∧
  (∀ s u s' p, L.processUnverifiedMessage s u = .ok (s', p) → L.groupId s' = L.groupId s) ∧
  (∀ s p, L.groupId (L.storePendingProposal s p) = L.groupId s) ∧
  (∀ s c s', L.mergeStagedCommit s c = .ok s' → L.groupId s' = L.groupId s)

/-! ## A library instance

`tallyLib` keeps two counters: leaves and the secret-tree generation. A commit adds a leaf,
encrypting or decrypting an application message moves the generation, and a group saves
as a tally of both. Like openmls, it refuses to commit an empty addition or removal. It
satisfies every law above; the counterexamples and witnesses of the conversation modules run
on it. -/

/-- A two-counter openmls for group `[1]`: `(leaves, generation)`. -/
def tallyLib : OpenMls where
  GroupState := Nat × Nat
  KeyPackage := Unit
  KeyPackageRef := Unit
  Credential := Unit
  Welcome := Unit
  MlsMessageOut := Unit
  MlsMessageIn := Unit
  UnverifiedMessage := Unit
  StagedCommit := Unit
  new id _ := if id = [1] then .ok (1, 0) else .error (.openMls "unknown group")
  newFromWelcome _ := .ok (2, 0)
  save s := .ok (List.replicate s.1 0 ++ List.replicate s.2 1)
  load buf := .ok (buf.count 0, buf.count 1)
  groupId _ := [1]
  ciphersuite _ := 1
  members s := List.replicate s.1 ()
  credential _ := ()
  identity _ := [0]
  hashRef _ := .ok ()
  addMembers s kps := if kps.isEmpty then .error (.openMls "empty input") else .ok (s, (), ())
  removeMembers s refs := if refs.isEmpty then .error (.openMls "empty input") else .ok (s, (), none)
  mergePendingCommit s := .ok (s.1 + 1, s.2)
  selfUpdate s := .ok ((s.1, s.2 + 1), (), none)
  mlsMessageInTryFromBytes _ := .ok ()
  parseMessage s _ := .ok (s, ())
  processUnverifiedMessage s _ := .ok ((s.1, s.2 + 1), .applicationMessage [7])
  storePendingProposal s _ := s
  mergeStagedCommit s _ := .ok (s.1 + 1, s.2)
  createMessage s _ := .ok ((s.1, s.2 + 1), ())
  messageToBytes _ := .ok []
  stagedProposalQueue _ := []
  membersInNextEpoch _ := []
  pendingProposals _ := []

instance : DecidableEq tallyLib.GroupState := inferInstanceAs (DecidableEq (Nat × Nat))

theorem tallyLib_loadInvertsSave : tallyLib.LoadInvertsSave := by
  rintro ⟨l, g⟩ buf h
  cases h
  simp [tallyLib, List.count_replicate]

theorem tallyLib_newKeepsId : tallyLib.NewKeepsId := by
  intro id h s hs
  simp only [tallyLib] at hs
  split at hs
  · simp_all [tallyLib]
  · cases hs

theorem tallyLib_applicationKeepsRoster : tallyLib.ApplicationKeepsRoster := by
  constructor
  · intro s m s' u h; cases h; exact ⟨rfl, rfl⟩
  · intro s u s' b h; cases h; exact ⟨rfl, rfl⟩

theorem tallyLib_mutationsKeepId : tallyLib.MutationsKeepId :=
  ⟨fun _ _ _ _ _ _ => rfl, fun _ _ _ _ _ _ => rfl, fun _ _ _ => rfl, fun _ _ _ _ _ => rfl,
    fun _ _ => rfl, fun _ _ _ _ => rfl⟩

/-! ## A library with named leaves

`rosterLib` keeps the leaves as the client ids of their credentials, and the roster of the
pending commit: `add_members` stages the roster with the key packages appended,
`remove_members` the roster without the referenced leaves, and `merge_pending_commit` makes
the staged roster current; an empty addition or removal is refused. The membership
counterexamples run on it. -/

/-- An openmls whose leaves are client ids: `(leaves, staged roster)`. -/
def rosterLib : OpenMls where
  GroupState := List ClientId × Option (List ClientId)
  KeyPackage := ClientId
  KeyPackageRef := ClientId
  Credential := ClientId
  Welcome := Unit
  MlsMessageOut := Unit
  MlsMessageIn := Unit
  UnverifiedMessage := Unit
  StagedCommit := Unit
  new _ creator := .ok ([creator], none)
  newFromWelcome _ := .ok ([], none)
  save s := .ok s.1.flatten
  load buf := .ok ([buf], none)
  groupId _ := [1]
  ciphersuite _ := 1
  members s := s.1
  credential kp := kp
  identity c := c
  hashRef kp := .ok kp
  addMembers s kps :=
    if kps.isEmpty then .error (.openMls "empty input") else .ok ((s.1, some (s.1 ++ kps)), (), ())
  removeMembers s refs :=
    if refs.isEmpty then .error (.openMls "empty input")
    else .ok ((s.1, some (s.1.filter fun leaf => !refs.contains leaf)), (), none)
  mergePendingCommit s := match s.2 with
    | some roster => .ok (roster, none)
    | none => .error (.openMls "no pending commit")
  selfUpdate s := .ok (s, (), none)
  mlsMessageInTryFromBytes _ := .ok ()
  parseMessage s _ := .ok (s, ())
  processUnverifiedMessage s _ := .ok (s, .applicationMessage [])
  storePendingProposal s _ := s
  mergeStagedCommit s _ := .ok s
  createMessage s _ := .ok (s, ())
  messageToBytes _ := .ok []
  stagedProposalQueue _ := []
  membersInNextEpoch s := s.1
  pendingProposals _ := []

end CoreCrypto
