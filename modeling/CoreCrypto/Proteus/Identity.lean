import CoreCrypto.Proteus.Migrate

/-!
# The Proteus identity table

`proteus_identities` is a SQL table keyed by `rowid`: nothing in its schema stops a second row.
What keeps it to one is `ProteusIdentity::save`, which writes nothing when the table already
holds a row; `try_new` and `cryptobox_migrate` only ever write through it.

* **Save.** On a table with one row, `save` changes nothing; on an empty one it writes the
  row, which `find_one` reads back when its blobs have the expected sizes.
* **Every call.** Each of `try_new`, `cryptobox_migrate` and `save` keeps any property of the
  table that `save` keeps (`tryNew_preserves`, `cryptoboxMigrate_preserves`); in particular
  the table stays empty or one row, and a stored row stays.
* **Runs.** Over any sequence of these calls from an empty table, the table never holds more
  than one row, a stored row stays, and every key pair a `try_new` returned is that row's
  (`IdentityCall.runAll_of_nil`). `Proteus.StoredIdentity` shows when `try_new` returns `Ok`.
-/

namespace CoreCrypto

/-- `IdentityKeyPair::from_raw_key_pair` rebuilds a key pair from the bytes `create_identity`
stores for it. -/
def ProteusLib.RawKeyPairRoundTrip (P : ProteusLib) : Prop :=
  ∀ kp pk, P.hexDecode (P.fingerprint kp) = .ok pk → P.fromRawKeyPair (P.secretKeyBytes kp) pk = kp

namespace Keystore

theorem identitySave_of_singleton {ks : Keystore} {r : ProteusIdentity}
    (h : ks.proteusIdentities = [r]) (identity : ProteusIdentity) :
    (ks.identitySave identity).proteusIdentities = [r] := by
  simp [identitySave, h]

theorem identitySave_of_nil {ks : Keystore} (h : ks.proteusIdentities = [])
    (identity : ProteusIdentity) : (ks.identitySave identity).proteusIdentities = [identity] := by
  simp [identitySave, h]

/-- `find_one` reads back a row whose blobs have the expected sizes. -/
theorem identityFindOne_of_singleton (PK_KEY_SIZE SK_KEY_SIZE : Nat) {ks : Keystore}
    {r : ProteusIdentity} (h : ks.proteusIdentities = [r]) (hpk : r.pk.length = PK_KEY_SIZE)
    (hsk : r.sk.length = SK_KEY_SIZE) : identityFindOne PK_KEY_SIZE SK_KEY_SIZE ks = .ok (some r) := by
  simp [identityFindOne, h, hpk, hsk]

end Keystore

/-- The identity table holds no row or one. -/
def IdentityTableSingle (ids : List ProteusIdentity) : Prop := ids = [] ∨ ∃ r, ids = [r]

theorem identityTableSingle_save (ks : Keystore) (identity : ProteusIdentity)
    (h : IdentityTableSingle ks.proteusIdentities) :
    IdentityTableSingle (ks.identitySave identity).proteusIdentities := by
  rcases h with h | ⟨r, h⟩
  · exact .inr ⟨identity, Keystore.identitySave_of_nil h identity⟩
  · exact .inr ⟨r, Keystore.identitySave_of_singleton h identity⟩

namespace ProteusCentral

variable {P : ProteusLib} (PK_KEY_SIZE SK_KEY_SIZE : Nat)

/-! ## Every call keeps what `save` keeps -/

theorem migrateSessions_proteusIdentities (identity : P.IdentityKeyPair)
    (entries : List (String × Bytes)) (ks : Keystore) :
    (migrateSessions identity entries ks).proteusIdentities = ks.proteusIdentities := by
  induction entries generalizing ks with
  | nil => rfl
  | cons entry entries ih =>
    obtain ⟨sessionId, rawSession⟩ := entry
    simp only [migrateSessions]
    split
    · exact ih ks
    · split
      · exact (ih _).trans (Keystore.sessionSave_proteusIdentities _ _ _)
      · exact ih ks

section Preserves

variable (Q : List ProteusIdentity → Prop)

theorem migratePrekeys_preserves (entries : List (String × Bytes)) :
    Mut.Preserves (fun ks => Q ks.proteusIdentities) (migratePrekeys P entries) := by
  induction entries with
  | nil => exact .pure _
  | cons entry entries ih =>
    refine .bind (fun ks h => ?_) fun _ => ih
    unfold migratePrekey
    split
    · exact h
    · split
      · exact h
      · split
        · simpa only [Keystore.prekeySave_proteusIdentities] using h
        · exact h

theorem migrateEntries_preserves (identity : P.IdentityKeyPair) (folder : CryptoboxFolder) :
    Mut.Preserves (fun ks => Q ks.proteusIdentities) (migrateEntries identity folder) :=
  .bind (.lift _) fun _ =>
    .bind (.modify fun ks h => by simpa only [migrateSessions_proteusIdentities] using h) fun _ =>
      .bind (.lift _) fun _ => migratePrekeys_preserves Q _

variable (hsave : ∀ (ks : Keystore) identity, Q ks.proteusIdentities → Q (ks.identitySave identity).proteusIdentities)
include hsave

theorem createIdentity_preserves (fresh : P.IdentityKeyPair) :
    Mut.Preserves (fun ks => Q ks.proteusIdentities) (createIdentity fresh) :=
  .bind (.lift _) fun _ => .bind (.modify fun ks h => hsave ks _ h) fun _ => .pure _

theorem tryNew_preserves (fresh : P.IdentityKeyPair) :
    Mut.Preserves (fun ks => Q ks.proteusIdentities) (tryNew PK_KEY_SIZE SK_KEY_SIZE fresh) := by
  refine .bind (.bind .get fun _ => .bind (.lift _) fun r => ?_) fun _ =>
    .bind .get fun _ => .bind (.lift _) fun _ => .pure _
  cases r with
  | some identity => exact .pure _
  | none => exact createIdentity_preserves Q hsave fresh

theorem migrateIdentity_preserves (folder : CryptoboxFolder) :
    Mut.Preserves (fun ks => Q ks.proteusIdentities)
      (migrateIdentity (P := P) PK_KEY_SIZE SK_KEY_SIZE folder) := by
  refine .bind .get fun _ => .bind (.lift _) fun r => ?_
  rcases r with _ | storeKp
  · refine .bind (.lift _) fun check => ?_
    rcases check with _ | ⟨kp, delete⟩
    · exact .pure _
    · exact .bind (.lift _) fun _ => .bind (.modify fun ks h => hsave ks _ h) fun _ => .pure _
  · exact .pure _

theorem cryptoboxMigrate_preserves (cryptoboxMigrateFeature : Bool) (folder : CryptoboxFolder)
    (fresh : P.IdentityKeyPair) :
    Mut.Preserves (fun ks => Q ks.proteusIdentities)
      (cryptoboxMigrate PK_KEY_SIZE SK_KEY_SIZE cryptoboxMigrateFeature folder fresh) := by
  unfold cryptoboxMigrate
  split
  · refine .bind (migrateIdentity_preserves PK_KEY_SIZE SK_KEY_SIZE Q hsave folder) fun identity => ?_
    rcases identity with _ | identity
    · exact .bind (createIdentity_preserves Q hsave fresh) fun identity =>
        migrateEntries_preserves Q identity folder
    · exact .bind (.pure _) fun identity => migrateEntries_preserves Q identity folder
  · exact .lift _

end Preserves

/-! ## What `try_new` returns -/

/-- On a table with one row, `load_or_create_identity` returns the row's key pair and
writes nothing. -/
theorem loadOrCreateIdentity_of_singleton {fresh : P.IdentityKeyPair} {ks ks' : Keystore}
    {r : ProteusIdentity} {kp : P.IdentityKeyPair} (hr : ks.proteusIdentities = [r])
    (h : loadOrCreateIdentity PK_KEY_SIZE SK_KEY_SIZE fresh ks = (ks', .ok kp)) :
    kp = P.fromRawKeyPair r.sk r.pk := by
  simp only [loadOrCreateIdentity, Mut.bind_apply, Mut.get_apply, Mut.lift_apply,
    Keystore.identityFindOne, hr] at h
  split_ifs at h <;> simp_all [Except.mapError, Mut.pure_apply]

/-- On an empty table, `load_or_create_identity` saves the fresh key pair and returns it. -/
theorem loadOrCreateIdentity_of_nil {fresh : P.IdentityKeyPair} {ks ks' : Keystore}
    {kp : P.IdentityKeyPair} (hr : ks.proteusIdentities = [])
    (h : loadOrCreateIdentity PK_KEY_SIZE SK_KEY_SIZE fresh ks = (ks', .ok kp)) :
    ∃ pk, P.hexDecode (P.fingerprint fresh) = .ok pk ∧ kp = fresh ∧
      ks'.proteusIdentities = [{ sk := P.secretKeyBytes fresh, pk := pk }] := by
  simp only [loadOrCreateIdentity, Mut.bind_apply, Mut.get_apply, Mut.lift_apply,
    Keystore.identityFindOne, hr, Except.mapError] at h
  rcases hd : P.hexDecode (P.fingerprint fresh) with e | pk <;>
    simp only [createIdentity, Mut.bind_apply, Mut.lift_apply, hd, Mut.modify_apply,
      Mut.pure_apply, Prod.mk.injEq, Except.ok.injEq] at h
  · cases h.2
  · obtain ⟨rfl, rfl⟩ := h
    exact ⟨pk, rfl, rfl, Keystore.identitySave_of_nil hr _⟩

end ProteusCentral

/-! ## Runs -/

/-- A call on the identity table: `try_new`, `cryptobox_migrate`, or `ProteusIdentity::save`. -/
inductive IdentityCall (P : ProteusLib) where
  | tryNew (fresh : P.IdentityKeyPair)
  | cryptoboxMigrate (cryptoboxMigrateFeature : Bool) (folder : CryptoboxFolder)
      (fresh : P.IdentityKeyPair)
  | save (identity : ProteusIdentity)

namespace IdentityCall

variable {P : ProteusLib} (PK_KEY_SIZE SK_KEY_SIZE : Nat)

/-- Run a call: the keystore it leaves, and the key pair `try_new` returned, if it did. -/
def run : IdentityCall P → Keystore → Keystore × Option P.IdentityKeyPair
  | .tryNew fresh, ks =>
    match ProteusCentral.tryNew PK_KEY_SIZE SK_KEY_SIZE fresh ks with
    | (ks', .ok c) => (ks', some c.proteusIdentity)
    | (ks', .error _) => (ks', none)
  | .cryptoboxMigrate feature folder fresh, ks =>
    ((ProteusCentral.cryptoboxMigrate PK_KEY_SIZE SK_KEY_SIZE feature folder fresh ks).1, none)
  | .save identity, ks => (ks.identitySave identity, none)

/-- Run the calls one after the other: the final keystore and the key pairs the `try_new`
calls returned, in order. -/
def runAll : List (IdentityCall P) → Keystore → Keystore × List P.IdentityKeyPair
  | [], ks => (ks, [])
  | call :: calls, ks =>
    ((runAll calls (call.run PK_KEY_SIZE SK_KEY_SIZE ks).1).1,
      (call.run PK_KEY_SIZE SK_KEY_SIZE ks).2.toList ++
        (runAll calls (call.run PK_KEY_SIZE SK_KEY_SIZE ks).1).2)

theorem run_preserves (Q : List ProteusIdentity → Prop)
    (hsave : ∀ (ks : Keystore) identity, Q ks.proteusIdentities →
      Q (ks.identitySave identity).proteusIdentities)
    (call : IdentityCall P) {ks : Keystore} (h : Q ks.proteusIdentities) :
    Q (call.run PK_KEY_SIZE SK_KEY_SIZE ks).1.proteusIdentities := by
  cases call with
  | tryNew fresh =>
    have := ProteusCentral.tryNew_preserves PK_KEY_SIZE SK_KEY_SIZE Q hsave fresh ks h
    rcases hrun : ProteusCentral.tryNew PK_KEY_SIZE SK_KEY_SIZE fresh ks with ⟨ks', _ | c⟩ <;>
      simpa only [run, hrun] using this
  | cryptoboxMigrate feature folder fresh =>
    exact ProteusCentral.cryptoboxMigrate_preserves PK_KEY_SIZE SK_KEY_SIZE Q hsave feature folder fresh ks h
  | save identity => exact hsave ks identity h

/-- **Step lemma, one row.** A stored row stays, and `try_new` returns its key pair. -/
theorem run_of_singleton (call : IdentityCall P) {ks : Keystore} {r : ProteusIdentity}
    (h : ks.proteusIdentities = [r]) :
    (call.run PK_KEY_SIZE SK_KEY_SIZE ks).1.proteusIdentities = [r] ∧
      ∀ kp ∈ (call.run PK_KEY_SIZE SK_KEY_SIZE ks).2, kp = P.fromRawKeyPair r.sk r.pk := by
  refine ⟨run_preserves PK_KEY_SIZE SK_KEY_SIZE (· = [r])
    (fun ks i h => Keystore.identitySave_of_singleton h i) call h, ?_⟩
  intro kp hkp
  cases call with
  | tryNew fresh =>
    rcases hrun : ProteusCentral.tryNew PK_KEY_SIZE SK_KEY_SIZE fresh ks with ⟨ks', _ | c⟩ <;>
      simp only [run, hrun] at hkp <;> cases hkp
    exact ProteusCentral.loadOrCreateIdentity_of_singleton PK_KEY_SIZE SK_KEY_SIZE h
      (ProteusCentral.tryNew_eq_ok PK_KEY_SIZE SK_KEY_SIZE hrun).1
  | cryptoboxMigrate => cases hkp
  | save => cases hkp

/-- **Step lemma, empty table.** A call leaves the table empty and returns nothing, or leaves
one row whose key pair is anything `try_new` returned. -/
theorem run_of_nil (hround : P.RawKeyPairRoundTrip) (call : IdentityCall P) {ks : Keystore}
    (h : ks.proteusIdentities = []) :
    ((call.run PK_KEY_SIZE SK_KEY_SIZE ks).1.proteusIdentities = [] ∧
        (call.run PK_KEY_SIZE SK_KEY_SIZE ks).2 = none) ∨
      ∃ r, (call.run PK_KEY_SIZE SK_KEY_SIZE ks).1.proteusIdentities = [r] ∧
        ∀ kp ∈ (call.run PK_KEY_SIZE SK_KEY_SIZE ks).2, kp = P.fromRawKeyPair r.sk r.pk := by
  by_cases hn : (call.run PK_KEY_SIZE SK_KEY_SIZE ks).2 = none
  · rcases run_preserves PK_KEY_SIZE SK_KEY_SIZE IdentityTableSingle identityTableSingle_save call
      (.inl h) with hrow | ⟨r, hrow⟩
    · exact .inl ⟨hrow, hn⟩
    · exact .inr ⟨r, hrow, fun _ hkp => by rw [hn] at hkp; cases hkp⟩
  -- only a `try_new` that returned `Ok` returns a key pair: the fresh one, which it stored
  cases call with
  | tryNew fresh =>
    rcases hrun : ProteusCentral.tryNew PK_KEY_SIZE SK_KEY_SIZE fresh ks with ⟨ks', _ | c⟩
    · simp only [run, hrun, not_true_eq_false] at hn
    obtain ⟨pk, hd, hkp, hrow⟩ := ProteusCentral.loadOrCreateIdentity_of_nil PK_KEY_SIZE SK_KEY_SIZE h
      (ProteusCentral.tryNew_eq_ok PK_KEY_SIZE SK_KEY_SIZE hrun).1
    simp only [run, hrun]
    refine .inr ⟨_, hrow, fun kp hkp' => ?_⟩
    cases hkp'
    rw [hkp]
    exact (hround fresh pk hd).symm
  | cryptoboxMigrate => exact absurd rfl hn
  | save => exact absurd rfl hn

/-- **Run lemma, one row.** -/
theorem runAll_of_singleton (calls : List (IdentityCall P)) {ks : Keystore} {r : ProteusIdentity}
    (h : ks.proteusIdentities = [r]) :
    (runAll PK_KEY_SIZE SK_KEY_SIZE calls ks).1.proteusIdentities = [r] ∧
      ∀ kp ∈ (runAll PK_KEY_SIZE SK_KEY_SIZE calls ks).2, kp = P.fromRawKeyPair r.sk r.pk := by
  induction calls generalizing ks with
  | nil => exact ⟨h, fun _ hkp => by cases hkp⟩
  | cons call calls ih =>
    obtain ⟨h₁, hret⟩ := run_of_singleton PK_KEY_SIZE SK_KEY_SIZE call h
    obtain ⟨hrow, hrest⟩ := ih h₁
    refine ⟨hrow, fun kp hkp => ?_⟩
    rcases List.mem_append.1 hkp with hkp | hkp
    · exact hret kp (Option.mem_toList.1 hkp)
    · exact hrest kp hkp

theorem runAll_append (pre post : List (IdentityCall P)) (ks : Keystore) :
    (runAll PK_KEY_SIZE SK_KEY_SIZE (pre ++ post) ks).1 =
      (runAll PK_KEY_SIZE SK_KEY_SIZE post (runAll PK_KEY_SIZE SK_KEY_SIZE pre ks).1).1 := by
  induction pre generalizing ks with
  | nil => rfl
  | cons call pre ih => exact ih _

/-- **Run lemma, empty table.** The table stays empty and nothing is returned, or it ends with
one row whose key pair is every key pair returned. -/
theorem runAll_of_nil (hround : P.RawKeyPairRoundTrip) (calls : List (IdentityCall P))
    {ks : Keystore} (h : ks.proteusIdentities = []) :
    ((runAll PK_KEY_SIZE SK_KEY_SIZE calls ks).1.proteusIdentities = [] ∧
        (runAll PK_KEY_SIZE SK_KEY_SIZE calls ks).2 = []) ∨
      ∃ r, (runAll PK_KEY_SIZE SK_KEY_SIZE calls ks).1.proteusIdentities = [r] ∧
        ∀ kp ∈ (runAll PK_KEY_SIZE SK_KEY_SIZE calls ks).2, kp = P.fromRawKeyPair r.sk r.pk := by
  induction calls generalizing ks with
  | nil => exact .inl ⟨h, rfl⟩
  | cons call calls ih =>
    rcases run_of_nil PK_KEY_SIZE SK_KEY_SIZE hround call h with ⟨h₁, hnone⟩ | ⟨r, h₁, hret⟩
    · simp only [runAll, hnone, Option.toList_none, List.nil_append]
      exact ih h₁
    · obtain ⟨hrow, hrest⟩ := runAll_of_singleton PK_KEY_SIZE SK_KEY_SIZE calls h₁
      refine .inr ⟨r, hrow, fun kp hkp => ?_⟩
      rcases List.mem_append.1 hkp with hkp | hkp
      · exact hret kp (Option.mem_toList.1 hkp)
      · exact hrest kp hkp

end IdentityCall

end CoreCrypto
