import CoreCrypto.Basic

/-!
# The keystore

One keystore holds the rows of both engines; the MLS and Proteus code below only ever
touch their own tables. Every table keyed by a primary key is an `AList`, so a key has at
most one row by construction. The exception is `proteus_identities`, a SQL table keyed by
`rowid` that nothing but the code of `ProteusIdentity::save` keeps to a single row: it is a
list of rows in `rowid` order, and its singleton property is a theorem (`Proteus.Identity`).

* MLS: `mls_groups` (the persisted group of each conversation) and `mls_pending_groups`
  (groups joined by external commit, not merged yet), written through the
  `CryptoKeystoreMls` methods; each write takes the backend's `KeystoreAnswer`.
* Proteus: `ProteusIdentity::count`, `find_one` and `save` as `identity.rs` has them, with
  the blob sizes `PK_KEY_SIZE` and `SK_KEY_SIZE` (constants the source does not show) as
  parameters; session and prekey rows through the generic `save`/`find`/`remove`.
-/

namespace CoreCrypto

/-- A `ProteusIdentity` row: the extended secret key and the public key, as raw bytes. -/
structure ProteusIdentity where
  sk : Bytes
  pk : Bytes
  deriving DecidableEq, Repr

/-- The keystore's tables. -/
structure Keystore where
  /-- `mls_groups`: serialized group state by conversation id -/
  mlsGroups : AList (fun _ : ConversationId => Bytes)
  /-- `mls_pending_groups`: serialized group state and custom configuration -/
  mlsPendingGroups : AList (fun _ : ConversationId => Bytes × Bytes)
  /-- `proteus_identities`, in `rowid` order -/
  proteusIdentities : List ProteusIdentity
  /-- `proteus_sessions`: serialized session by session id -/
  proteusSessions : AList (fun _ : SessionIdentifier => Bytes)
  /-- `proteus_prekeys`: serialized prekey by prekey id -/
  proteusPrekeys : AList (fun _ : UInt16 => Bytes)

namespace Keystore

/-- An empty keystore. -/
def empty : Keystore := ⟨∅, ∅, [], ∅, ∅⟩

/-! ## MLS group rows -/

/-- Modelled from the spec: `CryptoKeystoreMls::mls_group_persist(id, state)` upserts the
group row keyed by the conversation id, or fails and changes nothing. -/
def mlsGroupPersist (ks : Keystore) (id : ConversationId) (state : Bytes)
    (answer : KeystoreAnswer) : Except CryptoKeystoreError Keystore :=
  answer.map fun _ => { ks with mlsGroups := ks.mlsGroups.insert id state }

/-- Modelled from the spec: `mls_pending_groups_save(id, state, cfg)` upserts the row of the
pending partition. -/
def mlsPendingGroupsSave (ks : Keystore) (id : ConversationId) (state cfg : Bytes)
    (answer : KeystoreAnswer) : Except CryptoKeystoreError Keystore :=
  answer.map fun _ => { ks with mlsPendingGroups := ks.mlsPendingGroups.insert id (state, cfg) }

/-- Modelled from the spec: `mls_pending_groups_load(id)` returns the pending row, or
`MissingKeyInStore(MlsPendingGroup)`. -/
def mlsPendingGroupsLoad (ks : Keystore) (id : ConversationId) :
    Except CryptoKeystoreError (Bytes × Bytes) :=
  match ks.mlsPendingGroups.lookup id with
  | some row => .ok row
  | none => .error (.missingKeyInStore .mlsPendingGroup)

/-- Modelled from the spec: `mls_pending_groups_delete(id)` removes the pending row. -/
def mlsPendingGroupsDelete (ks : Keystore) (id : ConversationId) (answer : KeystoreAnswer) :
    Except CryptoKeystoreError Keystore :=
  answer.map fun _ => { ks with mlsPendingGroups := ks.mlsPendingGroups.erase id }

@[simp] theorem mlsGroupPersist_ok (ks : Keystore) (id : ConversationId) (state : Bytes) :
    ks.mlsGroupPersist id state (.ok ()) = .ok { ks with mlsGroups := ks.mlsGroups.insert id state } :=
  rfl

@[simp] theorem mlsGroupPersist_error (ks : Keystore) (id : ConversationId) (state : Bytes)
    (e : CryptoKeystoreError) : ks.mlsGroupPersist id state (.error e) = .error e := rfl

@[simp] theorem mlsPendingGroupsDelete_ok (ks : Keystore) (id : ConversationId) :
    ks.mlsPendingGroupsDelete id (.ok ()) =
      .ok { ks with mlsPendingGroups := ks.mlsPendingGroups.erase id } := rfl

@[simp] theorem mlsPendingGroupsDelete_error (ks : Keystore) (id : ConversationId)
    (e : CryptoKeystoreError) : ks.mlsPendingGroupsDelete id (.error e) = .error e := rfl

/-! ## Proteus rows -/

section ProteusIdentityTable

variable (PK_KEY_SIZE SK_KEY_SIZE : Nat)

/-- `ProteusIdentity::count`: `SELECT COUNT(*) FROM proteus_identities`. -/
def identityCount (ks : Keystore) : Nat := ks.proteusIdentities.length

/-- `ProteusIdentity::find_one` (`identity.rs:53-99`): the row of least `rowid`, its `pk`
blob and then its `sk` blob checked against the expected sizes before they are read. -/
def identityFindOne (ks : Keystore) : Except CryptoKeystoreError (Option ProteusIdentity) :=
  match ks.proteusIdentities with
  | [] => .ok none
  | row :: _ =>
    if row.pk.length ≠ PK_KEY_SIZE then
      .error (.invalidKeySize PK_KEY_SIZE row.pk.length "pk")
    else if row.sk.length ≠ SK_KEY_SIZE then
      .error (.invalidKeySize SK_KEY_SIZE row.sk.length "sk")
    else .ok (some { pk := row.pk, sk := row.sk })

end ProteusIdentityTable

/-- `ProteusIdentity::save` (`identity.rs:108-140`): nothing when the table already holds
one row; otherwise one transaction inserting a row with blobs of the identity's lengths and
writing `sk` and `pk` into them. -/
def identitySave (ks : Keystore) (identity : ProteusIdentity) : Keystore :=
  if identityCount ks = 1 then ks
  else { ks with proteusIdentities := ks.proteusIdentities ++ [identity] }

/-- Modelled from the spec: `save(ProteusSession { id, session })` upserts the session row. -/
def sessionSave (ks : Keystore) (id : SessionIdentifier) (session : Bytes) : Keystore :=
  { ks with proteusSessions := ks.proteusSessions.insert id session }

/-- Modelled from the spec: `remove::<ProteusSession>(id)` deletes the session row, or fails
and changes nothing. -/
def sessionRemove (ks : Keystore) (id : SessionIdentifier) (answer : KeystoreAnswer) :
    Except CryptoKeystoreError Keystore :=
  answer.map fun _ => { ks with proteusSessions := ks.proteusSessions.erase id }

/-- Modelled from the spec: `save(ProteusPrekey::from_raw(id, prekey))` upserts the prekey. -/
def prekeySave (ks : Keystore) (id : UInt16) (prekey : Bytes) : Keystore :=
  { ks with proteusPrekeys := ks.proteusPrekeys.insert id prekey }

@[simp] theorem identityCount_eq (ks : Keystore) :
    identityCount ks = ks.proteusIdentities.length := rfl

@[simp] theorem sessionSave_proteusIdentities (ks : Keystore) (id : SessionIdentifier)
    (session : Bytes) : (ks.sessionSave id session).proteusIdentities = ks.proteusIdentities :=
  rfl

@[simp] theorem prekeySave_proteusIdentities (ks : Keystore) (id : UInt16) (prekey : Bytes) :
    (ks.prekeySave id prekey).proteusIdentities = ks.proteusIdentities := rfl

@[simp] theorem sessionSave_proteusSessions (ks : Keystore) (id : SessionIdentifier)
    (session : Bytes) :
    (ks.sessionSave id session).proteusSessions = ks.proteusSessions.insert id session := rfl

@[simp] theorem prekeySave_proteusPrekeys (ks : Keystore) (id : UInt16) (prekey : Bytes) :
    (ks.prekeySave id prekey).proteusPrekeys = ks.proteusPrekeys.insert id prekey := rfl

@[simp] theorem prekeySave_proteusSessions (ks : Keystore) (id : UInt16) (prekey : Bytes) :
    (ks.prekeySave id prekey).proteusSessions = ks.proteusSessions := rfl

end Keystore

end CoreCrypto
