import CoreCrypto.Proteus.Identity

/-!
# Running the Cryptobox migration twice

A successful `cryptobox_migrate` leaves every row it found as it was. A second run over the
same folder then writes nothing:

* the identity block finds the row the first run found or wrote, and under
  `RawKeyPairRoundTrip` it yields the key pair the first run migrated under
  (`cryptoboxMigrateImpl_eq_ok`), or fails before any write;
* every session file either has a row after the first run or does not deserialise under that
  key pair, and every prekey file name parses and either has a row or does not deserialise
  (`migrateEntries_again`), so both loops skip every entry.

`cryptobox_migrate_keeps_rows_and_is_idempotent` puts the two together.
-/

namespace CoreCrypto

namespace ProteusCentral

variable {P : ProteusLib} (PK_KEY_SIZE SK_KEY_SIZE : Nat)

/-! ## The identity block -/

/-- On a table whose first row is `r`, the identity block writes nothing: it fails on the
row's sizes, or migrates under the row's key pair. -/
theorem migrateIdentity_of_cons (folder : CryptoboxFolder) {ks : Keystore}
    {r : ProteusIdentity} {rest : List ProteusIdentity} (hr : ks.proteusIdentities = r :: rest) :
    (∃ e, migrateIdentity (P := P) PK_KEY_SIZE SK_KEY_SIZE folder ks = (ks, .error e)) ∨
      migrateIdentity PK_KEY_SIZE SK_KEY_SIZE folder ks =
        (ks, .ok (some (P.fromRawKeyPair r.sk r.pk))) := by
  simp only [migrateIdentity, Mut.bind_apply, Mut.get_apply, Mut.lift_apply,
    Keystore.identityFindOne, hr]
  split_ifs <;> simp [Except.mapError]

/-- `save` on an empty table writes the one row. -/
theorem identitySave_of_empty {ks : Keystore} (hr : ks.proteusIdentities = [])
    (identity : ProteusIdentity) :
    ks.identitySave identity = { ks with proteusIdentities := [identity] } := by
  simp [Keystore.identitySave, hr]

/-- On an empty table, the identity block writes the folder's key pair, if any. -/
theorem migrateIdentity_of_nil {folder : CryptoboxFolder} {ks ks' : Keystore}
    {identity : Option P.IdentityKeyPair} (hr : ks.proteusIdentities = [])
    (h : migrateIdentity PK_KEY_SIZE SK_KEY_SIZE folder ks = (ks', .ok identity)) :
    identity = none ∧ ks' = ks ∨ ∃ kp pk, identity = some kp ∧
      P.hexDecode (P.fingerprint kp) = .ok pk ∧
      ks' = { ks with proteusIdentities := [{ sk := P.secretKeyBytes kp, pk := pk }] } := by
  rw [migrateIdentity, Mut.get_bind_apply] at h
  obtain ⟨found, hfound, h⟩ := Mut.lift_bind_eq_ok h
  simp only [Keystore.identityFindOne, hr, Except.mapError, Except.ok.injEq] at hfound
  subst hfound
  obtain ⟨check, -, h⟩ := Mut.lift_bind_eq_ok h
  rcases check with _ | ⟨kp, delete⟩
  · cases h
    exact .inl ⟨rfl, rfl⟩
  · obtain ⟨pk, hpk, h⟩ := Mut.lift_bind_eq_ok h
    cases h
    exact .inr ⟨kp, pk, rfl, hpk, identitySave_of_empty hr _⟩

/-- `create_identity` returns the fresh key pair, having saved its row. -/
theorem createIdentity_eq_ok {fresh kp : P.IdentityKeyPair} {ks ks' : Keystore}
    (h : createIdentity fresh ks = (ks', .ok kp)) :
    kp = fresh ∧ ∃ pk, P.hexDecode (P.fingerprint fresh) = .ok pk ∧
      ks' = ks.identitySave { sk := P.secretKeyBytes fresh, pk := pk } := by
  obtain ⟨pk, hpk, h⟩ := Mut.lift_bind_eq_ok h
  cases h
  exact ⟨rfl, pk, hpk, rfl⟩

/-- A successful migration ran its entries under a key pair that, under
`RawKeyPairRoundTrip`, is the one of the first row of the identity table it left. The
identity block changed the identity table only, and only if it was empty. -/
theorem cryptoboxMigrateImpl_eq_ok (hlaw : P.RawKeyPairRoundTrip) {folder : CryptoboxFolder}
    {fresh : P.IdentityKeyPair} {ks ks₁ : Keystore}
    (h : cryptoboxMigrateImpl PK_KEY_SIZE SK_KEY_SIZE folder fresh ks = (ks₁, .ok ())) :
    ∃ ksId identity r rest,
      migrateEntries identity folder ksId = (ks₁, .ok ()) ∧
      ksId = { ks with proteusIdentities := ksId.proteusIdentities } ∧
      ksId.proteusIdentities = r :: rest ∧ identity = P.fromRawKeyPair r.sk r.pk ∧
      (ks.proteusIdentities = [] ∨ ksId.proteusIdentities = ks.proteusIdentities) := by
  obtain ⟨ks₂, found, hblock, hrest⟩ := Mut.bind_eq_ok h
  cases hr : ks.proteusIdentities with
  | cons r rest =>
    rcases migrateIdentity_of_cons PK_KEY_SIZE SK_KEY_SIZE folder hr with ⟨e, he⟩ | he <;>
      rw [he] at hblock <;> cases hblock
    obtain ⟨ksId, identity, hjoin, hentries⟩ := Mut.bind_eq_ok hrest
    cases hjoin
    exact ⟨ks, _, r, rest, hentries, rfl, hr, rfl, .inr hr⟩
  | nil =>
    rcases migrateIdentity_of_nil PK_KEY_SIZE SK_KEY_SIZE hr hblock with ⟨rfl, rfl⟩ |
        ⟨kp, pk, rfl, hpk, rfl⟩
    · -- nothing in the folder: `create_identity` saves the fresh key pair
      obtain ⟨ksId, identity, hjoin, hentries⟩ := Mut.bind_eq_ok hrest
      obtain ⟨rfl, pk, hpk, rfl⟩ := createIdentity_eq_ok hjoin
      rw [identitySave_of_empty hr] at hentries
      exact ⟨_, _, _, [], hentries, rfl, rfl, (hlaw _ pk hpk).symm, .inl rfl⟩
    · -- the folder's key pair, saved by the block
      obtain ⟨ksId, identity, hjoin, hentries⟩ := Mut.bind_eq_ok hrest
      cases hjoin
      exact ⟨_, _, _, [], hentries, rfl, rfl, (hlaw kp pk hpk).symm, .inl rfl⟩

/-! ## The entries -/

/-- Session and prekey migration never change a stored session or prekey, whatever it
returns. -/
theorem migrateEntries_keeps (identity : P.IdentityKeyPair) (folder : CryptoboxFolder)
    (ks : Keystore) :
    (∀ k v, ks.proteusSessions.lookup k = some v →
      (migrateEntries identity folder ks).1.proteusSessions.lookup k = some v) ∧
    (∀ id v, ks.proteusPrekeys.lookup id = some v →
      (migrateEntries identity folder ks).1.proteusPrekeys.lookup id = some v) :=
  have hsessions (k : SessionIdentifier) (v : Bytes) :
      Mut.Preserves (fun ks : Keystore => ks.proteusSessions.lookup k = some v)
        (migrateEntries identity folder) :=
    .bind (.lift _) fun _ =>
      .bind (.modify fun _ h => migrateSessions_lookup_of_lookup identity _ h) fun _ =>
        .bind (.lift _) fun _ _ h => by rwa [migratePrekeys_proteusSessions]
  have hprekeys (id : UInt16) (v : Bytes) :
      Mut.Preserves (fun ks : Keystore => ks.proteusPrekeys.lookup id = some v)
        (migrateEntries identity folder) :=
    .bind (.lift _) fun _ =>
      .bind (.modify fun _ h => by rwa [migrateSessions_proteusPrekeys]) fun _ =>
        .bind (.lift _) fun _ => migratePrekeys_keeps _ id v
  ⟨fun k v => hsessions k v ks, fun id v => hprekeys id v ks⟩

/-- **Reseed.** After session and prekey migration returned `Ok`, running it again under the
same key pair over the same folder skips every entry: it writes nothing and returns `Ok`. -/
theorem migrateEntries_again {identity : P.IdentityKeyPair} {folder : CryptoboxFolder}
    {ks ks₁ : Keystore} (h : migrateEntries identity folder ks = (ks₁, .ok ())) :
    migrateEntries identity folder ks₁ = (ks₁, .ok ()) := by
  obtain ⟨sessionEntries, hs, h⟩ := Mut.lift_bind_eq_ok h
  rw [Mut.bind_apply, Mut.modify_apply] at h
  obtain ⟨prekeyEntries, hp, h⟩ := Mut.lift_bind_eq_ok h
  have hsessions : ks₁.proteusSessions =
      (migrateSessions identity sessionEntries ks).proteusSessions := by
    have := migratePrekeys_proteusSessions (P := P) prekeyEntries
      (migrateSessions identity sessionEntries ks)
    rwa [h] at this
  have hsettled : ∀ e ∈ sessionEntries, (ks₁.proteusSessions.lookup e.1).isSome ∨
      (P.sessionDeserialise identity e.2).isOk = false := fun e he => by
    cases hd : (P.sessionDeserialise identity e.2).isOk
    · exact .inr rfl
    · exact .inl (hsessions ▸ migrateSessions_copies identity _ ks he hd)
  have hsettled' : ∀ e ∈ prekeyEntries, ∃ id, parseU16 e.1 = .ok id ∧
      ((ks₁.proteusPrekeys.lookup id).isSome ∨ (P.preKeyDeserialise e.2).isOk = false) :=
    fun e he => by
      obtain ⟨id, hid, hcopy⟩ := migratePrekeys_copies prekeyEntries _ (by rw [h]) he
      rw [h] at hcopy
      cases hd : (P.preKeyDeserialise e.2).isOk
      · exact ⟨id, hid, .inr rfl⟩
      · exact ⟨id, hid, .inl (hcopy hd)⟩
  simp only [migrateEntries, Mut.bind_apply, Mut.lift_apply, hs, hp, Mut.modify_apply,
    migrateSessions_of_settled identity sessionEntries ks₁ hsettled]
  exact migratePrekeys_of_settled prekeyEntries ks₁ hsettled'

/-! ## The migration -/

/-- A successful `cryptobox_migrate` keeps the identity table it found as a prefix, and as it
was when it was not empty, and every stored session and prekey as they were. Running it
again over the same folder, with any fresh key pair, leaves the keystore as the first run
left it, whether the second run returns `Ok` or fails. -/
theorem cryptobox_migrate_keeps_rows_and_is_idempotent (hlaw : P.RawKeyPairRoundTrip)
    (cryptoboxMigrateFeature : Bool) (folder : CryptoboxFolder) (fresh fresh' : P.IdentityKeyPair)
    (ks ks₁ : Keystore)
    (h : cryptoboxMigrate PK_KEY_SIZE SK_KEY_SIZE cryptoboxMigrateFeature folder fresh ks =
      (ks₁, .ok ())) :
    ks.proteusIdentities.IsPrefix ks₁.proteusIdentities ∧
    (ks.proteusIdentities ≠ [] → ks₁.proteusIdentities = ks.proteusIdentities) ∧
    (∀ k v, ks.proteusSessions.lookup k = some v → ks₁.proteusSessions.lookup k = some v) ∧
    (∀ id v, ks.proteusPrekeys.lookup id = some v → ks₁.proteusPrekeys.lookup id = some v) ∧
    (cryptoboxMigrate PK_KEY_SIZE SK_KEY_SIZE cryptoboxMigrateFeature folder fresh' ks₁).1 =
      ks₁ := by
  cases cryptoboxMigrateFeature with
  | false => cases h
  | true =>
    obtain ⟨ksId, identity, r, rest, hentries, hframe, hr, rfl, hfound⟩ :=
      cryptoboxMigrateImpl_eq_ok PK_KEY_SIZE SK_KEY_SIZE hlaw h
    have hids : ks₁.proteusIdentities = ksId.proteusIdentities := by
      have := migrateEntries_preserves (· = ksId.proteusIdentities) (P.fromRawKeyPair r.sk r.pk)
        folder ksId rfl
      rwa [hentries] at this
    have hkeep := migrateEntries_keeps (P.fromRawKeyPair r.sk r.pk) folder ksId
    rw [hentries] at hkeep
    refine ⟨?_, fun hne => hids.trans (hfound.resolve_left hne), fun k v hv => hkeep.1 k v ?_,
      fun id v hv => hkeep.2 id v ?_, ?_⟩
    · rcases hfound with hnil | heq
      · rw [hnil]
        exact List.nil_prefix
      · exact hids.trans heq ▸ List.prefix_refl _
    · rwa [hframe]
    · rwa [hframe]
    · -- the second run: the identity block fails before any write, or finds `r`
      rcases migrateIdentity_of_cons (P := P) PK_KEY_SIZE SK_KEY_SIZE folder
          (hids.trans hr) with ⟨e, he⟩ | he <;>
        simp only [cryptoboxMigrate, if_true, cryptoboxMigrateImpl, Mut.bind_apply, he,
          Mut.pure_apply, migrateEntries_again hentries]

end ProteusCentral

/-- A keystore holding an identity, the session `"alice"` and the prekey `1`. -/
def storedRows : Keystore :=
  { proteusIdentities := [⟨List.replicate 64 1, List.replicate 32 2⟩]
    proteusSessions := (∅ : AList (fun _ : SessionIdentifier => Bytes)).insert "alice" [9]
    proteusPrekeys := (∅ : AList (fun _ : UInt16 => Bytes)).insert 1 [7]
    mlsGroups := ∅
    mlsPendingGroups := ∅ }

/-- A folder holding the sessions `"alice"` and `"bob"`, no prekey and no identity. -/
def sessionFolder : CryptoboxFolder :=
  ⟨none, none, some [("alice", [1, 2]), ("bob", [3])], some []⟩

/-- Migrating that folder into `storedRows` keeps the stored session `"alice"` and the prekey,
and copies `"bob"`; a second run writes nothing. -/
theorem cryptobox_migrate_twice_over_stored_rows :
    tallyProteus.RawKeyPairRoundTrip ∧
    ∃ ks₁, ProteusCentral.cryptoboxMigrate (P := tallyProteus) 32 64 true sessionFolder ()
        storedRows = (ks₁, .ok ()) ∧
      ks₁.proteusSessions.lookup "alice" = some [9] ∧ ks₁.proteusSessions.lookup "bob" = some [3] ∧
      ks₁.proteusPrekeys.lookup 1 = some [7] ∧
      storedRows.proteusIdentities.IsPrefix ks₁.proteusIdentities ∧
      (storedRows.proteusIdentities ≠ [] → ks₁.proteusIdentities = storedRows.proteusIdentities) ∧
      (∀ k v, storedRows.proteusSessions.lookup k = some v →
        ks₁.proteusSessions.lookup k = some v) ∧
      (∀ id v, storedRows.proteusPrekeys.lookup id = some v →
        ks₁.proteusPrekeys.lookup id = some v) ∧
      (ProteusCentral.cryptoboxMigrate (P := tallyProteus) 32 64 true sessionFolder ()
        ks₁).1 = ks₁ :=
  ⟨fun _ _ _ => rfl, _, rfl, rfl, rfl, rfl,
    ProteusCentral.cryptobox_migrate_keeps_rows_and_is_idempotent 32 64 (fun _ _ _ => rfl) true
      sessionFolder () () storedRows _ rfl⟩

end CoreCrypto
