import CoreCrypto.Proteus.Restart

/-!
# The stored identity over a run

`Proteus.Identity` shows that the identity table never holds more than one row. Whether a
later `try_new` returns `Ok` depends on what that row holds: `find_one` checks the sizes of its
blobs (`InvalidKeySize`), and `restore_sessions` deserialises every session row under the
row's key pair. A `save` of blobs of other sizes makes every later `try_new` fail
(`wrong_size_save_fails_try_new`).

* `StoredIdentity`: no identity and no session row yet, or one row of the checked sizes
  under whose key pair every session row deserialises. Every call whose `save` writes the
  checked sizes keeps it (`IdentityCall.run_storedIdentity`), and so does every run of them.
* `well_sized_identity_calls_keep_one_row`: from a keystore with no identity and no session,
  over such calls, the table never holds more than one row, the first row stored stays, and
  each `try_new` after it returns `Ok` with its key pair and writes nothing.
-/

namespace CoreCrypto

variable {P : ProteusLib} (PK_KEY_SIZE SK_KEY_SIZE : Nat)

namespace ProteusCentral

/-- The keystore `try_new` leaves is the one `load_or_create_identity` left: restoring the
sessions writes nothing. -/
theorem tryNew_fst (fresh : P.IdentityKeyPair) (ks : Keystore) :
    (tryNew PK_KEY_SIZE SK_KEY_SIZE fresh ks).1 =
      (loadOrCreateIdentity PK_KEY_SIZE SK_KEY_SIZE fresh ks).1 := by
  simp only [tryNew, Mut.bind_apply, Mut.get_apply, Mut.lift_apply]
  rcases loadOrCreateIdentity PK_KEY_SIZE SK_KEY_SIZE fresh ks with ⟨ks', _ | identity⟩
  · rfl
  · dsimp only
    rcases restoreSessions identity ks'.proteusSessions.entries with e | sessions <;> rfl

/-- On an empty table, `try_new` saves the fresh key pair's row, or fails before writing. -/
theorem tryNew_of_nil {ks : Keystore} (hr : ks.proteusIdentities = []) (fresh : P.IdentityKeyPair) :
    (tryNew PK_KEY_SIZE SK_KEY_SIZE fresh ks).1 = ks ∨
      ∃ pk, P.hexDecode (P.fingerprint fresh) = .ok pk ∧
        (tryNew PK_KEY_SIZE SK_KEY_SIZE fresh ks).1 =
          { ks with proteusIdentities := [{ sk := P.secretKeyBytes fresh, pk := pk }] } := by
  rw [tryNew_fst]
  simp only [loadOrCreateIdentity, createIdentity, Mut.bind_apply, Mut.get_apply, Mut.lift_apply,
    Keystore.identityFindOne, hr, Except.mapError]
  rcases P.hexDecode (P.fingerprint fresh) with e | pk
  · exact .inl rfl
  · exact .inr ⟨pk, rfl, identitySave_of_empty hr _⟩

/-- On an empty table, the migration leaves the keystore as it was, or runs its entries after
saving the row of the key pair it migrates under. -/
theorem cryptoboxMigrateImpl_of_nil {ks : Keystore} (hr : ks.proteusIdentities = [])
    (folder : CryptoboxFolder) (fresh : P.IdentityKeyPair) :
    (cryptoboxMigrateImpl PK_KEY_SIZE SK_KEY_SIZE folder fresh ks).1 = ks ∨
      ∃ kp pk, P.hexDecode (P.fingerprint kp) = .ok pk ∧
        (cryptoboxMigrateImpl PK_KEY_SIZE SK_KEY_SIZE folder fresh ks).1 =
          (migrateEntries kp folder
            { ks with proteusIdentities := [{ sk := P.secretKeyBytes kp, pk := pk }] }).1 := by
  simp only [cryptoboxMigrateImpl, migrateIdentity, createIdentity, Mut.bind_apply,
    Mut.get_apply, Mut.lift_apply, Keystore.identityFindOne, hr, Except.mapError]
  rcases legacyIdentityCheck (P := P) folder with e | _ | ⟨kp, delete⟩
  · exact .inl rfl
  · -- nothing in the folder: `create_identity` saves the fresh key pair
    rcases hd : P.hexDecode (P.fingerprint fresh) with e | pk
    · left; simp only [hd, Mut.bind_apply, Mut.lift_apply, Mut.pure_apply]
    · refine .inr ⟨fresh, pk, hd, ?_⟩
      simp only [hd, Mut.bind_apply, Mut.lift_apply, Mut.modify_apply, Mut.pure_apply,
        identitySave_of_empty hr]
  · -- the folder's key pair, saved by the identity block
    rcases hd : P.hexDecode (P.fingerprint kp) with e | pk
    · left; simp only [hd, Mut.bind_apply, Mut.lift_apply]
    · refine .inr ⟨kp, pk, hd, ?_⟩
      simp only [hd, Mut.bind_apply, Mut.lift_apply, Mut.modify_apply, Mut.pure_apply,
        identitySave_of_empty hr]

/-- One row of the checked sizes and no session: a restart can use the keystore. -/
theorem restorable_of_row {ks : Keystore} {r : ProteusIdentity} (hr : ks.proteusIdentities = [r])
    (hpk : r.pk.length = PK_KEY_SIZE) (hsk : r.sk.length = SK_KEY_SIZE)
    (hs : ks.proteusSessions = ∅) :
    Restorable PK_KEY_SIZE SK_KEY_SIZE (P.fromRawKeyPair r.sk r.pk) ks :=
  ⟨⟨r, [], hr, hpk, hsk, rfl⟩, fun _ _ h => by simp [hs] at h⟩

end ProteusCentral

namespace IdentityCall

/-- A call whose `save`, if it is one, writes blobs of the sizes `find_one` checks, as
`create_identity` does. -/
def WellSized : IdentityCall P → Prop
  | .save identity => identity.pk.length = PK_KEY_SIZE ∧ identity.sk.length = SK_KEY_SIZE
  | .tryNew _ | .cryptoboxMigrate _ _ _ => True

instance (call : IdentityCall P) : Decidable (call.WellSized PK_KEY_SIZE SK_KEY_SIZE) := by
  cases call <;> unfold WellSized <;> infer_instance

/-- What the identity calls keep of a keystore that starts with no identity and no session:
still neither, or one row of the checked sizes under whose key pair every session row
deserialises. -/
def StoredIdentity (P : ProteusLib) (ks : Keystore) : Prop :=
  (ks.proteusIdentities = [] ∧ ks.proteusSessions = ∅) ∨
    ∃ r, ks.proteusIdentities = [r] ∧
      ProteusCentral.Restorable PK_KEY_SIZE SK_KEY_SIZE (P.fromRawKeyPair r.sk r.pk) ks

theorem run_tryNew_fst (fresh : P.IdentityKeyPair) (ks : Keystore) :
    ((tryNew fresh).run PK_KEY_SIZE SK_KEY_SIZE ks).1 =
      (ProteusCentral.tryNew PK_KEY_SIZE SK_KEY_SIZE fresh ks).1 := by
  simp only [run]
  split <;> simp_all

/-- On a stored row, `try_new` returns `Ok` with the row's key pair and writes nothing. -/
theorem StoredIdentity.tryNew_eq {ks : Keystore} (h : StoredIdentity PK_KEY_SIZE SK_KEY_SIZE P ks)
    {r : ProteusIdentity} (hr : ks.proteusIdentities = [r]) (fresh : P.IdentityKeyPair) :
    ∃ c, ProteusCentral.tryNew PK_KEY_SIZE SK_KEY_SIZE fresh ks = (ks, .ok c) ∧
      c.proteusIdentity = P.fromRawKeyPair r.sk r.pk := by
  rcases h with ⟨hnil, -⟩ | ⟨r', hr', hres⟩
  · rw [hnil] at hr; cases hr
  rw [hr] at hr'
  cases hr'
  obtain ⟨c, htry, hid, -⟩ := hres.tryNew_eq fresh
  exact ⟨c, htry, hid⟩

section Laws

variable {PK_KEY_SIZE SK_KEY_SIZE} (hround : P.RawKeyPairRoundTrip)
  (hsizes : P.KeySizes PK_KEY_SIZE SK_KEY_SIZE)
include hround hsizes

/-- The migration, after saving the row of its key pair on a keystore with no session: the row
has the checked sizes, and every session the entries write deserialises under it. -/
theorem storedIdentity_of_migrate {ks : Keystore} (hs : ks.proteusSessions = ∅) {kp : P.IdentityKeyPair} {pk : Bytes}
    (hd : P.hexDecode (P.fingerprint kp) = .ok pk) (folder : CryptoboxFolder) :
    StoredIdentity PK_KEY_SIZE SK_KEY_SIZE P (ProteusCentral.migrateEntries kp folder
      { ks with proteusIdentities := [{ sk := P.secretKeyBytes kp, pk := pk }] }).1 := by
  have hrow : ProteusCentral.Restorable PK_KEY_SIZE SK_KEY_SIZE
      (P.fromRawKeyPair (P.secretKeyBytes kp) pk)
      { ks with proteusIdentities := [{ sk := P.secretKeyBytes kp, pk := pk }] } :=
    ProteusCentral.restorable_of_row PK_KEY_SIZE SK_KEY_SIZE
      (r := { sk := P.secretKeyBytes kp, pk := pk }) rfl (hsizes _ _ hd).1 (hsizes _ _ hd).2 hs
  rw [hround kp pk hd] at hrow
  refine .inr ⟨_, ProteusCentral.migrateEntries_preserves (· = _) kp folder _ rfl, ?_⟩
  rw [hround kp pk hd]
  exact ProteusCentral.migrateEntries_restorable _ _ kp folder _ hrow

/-- **Step lemma.** A call whose `save` writes the checked sizes keeps `StoredIdentity`. -/
theorem run_storedIdentity (call : IdentityCall P) (hcall : call.WellSized PK_KEY_SIZE SK_KEY_SIZE)
    {ks : Keystore} (h : StoredIdentity PK_KEY_SIZE SK_KEY_SIZE P ks) :
    StoredIdentity PK_KEY_SIZE SK_KEY_SIZE P (call.run PK_KEY_SIZE SK_KEY_SIZE ks).1 := by
  rcases h with ⟨hr, hs⟩ | ⟨r, hr, hres⟩
  · -- no identity yet: the call stores a row of the checked sizes, or writes nothing
    cases call with
    | tryNew fresh =>
      rw [run_tryNew_fst]
      rcases ProteusCentral.tryNew_of_nil PK_KEY_SIZE SK_KEY_SIZE hr fresh with h | ⟨pk, hd, h⟩ <;>
        rw [h]
      · exact .inl ⟨hr, hs⟩
      · exact .inr ⟨_, rfl, ProteusCentral.restorable_of_row PK_KEY_SIZE SK_KEY_SIZE
          (r := { sk := P.secretKeyBytes fresh, pk := pk }) rfl (hsizes _ _ hd).1 (hsizes _ _ hd).2
          hs⟩
    | cryptoboxMigrate feature folder fresh =>
      cases feature with
      | false => exact .inl ⟨hr, hs⟩
      | true =>
        show StoredIdentity _ _ P
          (ProteusCentral.cryptoboxMigrateImpl PK_KEY_SIZE SK_KEY_SIZE folder fresh ks).1
        rcases ProteusCentral.cryptoboxMigrateImpl_of_nil PK_KEY_SIZE SK_KEY_SIZE hr folder fresh
          with h | ⟨kp, pk, hd, h⟩ <;> rw [h]
        · exact .inl ⟨hr, hs⟩
        · exact storedIdentity_of_migrate hround hsizes hs hd folder
    | save identity =>
      exact .inr ⟨identity, Keystore.identitySave_of_nil hr identity,
        ProteusCentral.restorable_of_row PK_KEY_SIZE SK_KEY_SIZE
          (Keystore.identitySave_of_nil hr identity) hcall.1 hcall.2
          (show (ks.identitySave identity).proteusSessions = ∅ by
            rw [ProteusCentral.identitySave_of_empty hr]; exact hs)⟩
  · -- one row: it stays, and every call keeps a restart possible under it
    refine .inr ⟨r, (run_of_singleton PK_KEY_SIZE SK_KEY_SIZE call hr).1, ?_⟩
    cases call with
    | tryNew fresh =>
      obtain ⟨c, htry, -⟩ := hres.tryNew_eq fresh
      rw [run_tryNew_fst, htry]
      exact hres
    | cryptoboxMigrate feature folder fresh =>
      exact ProteusCentral.cryptoboxMigrate_restorable PK_KEY_SIZE SK_KEY_SIZE feature folder fresh
        ks hres
    | save identity =>
      show ProteusCentral.Restorable _ _ _ (ks.identitySave identity)
      rw [show ks.identitySave identity = ks by simp [Keystore.identitySave, hr]]
      exact hres

/-- **Run lemma.** -/
theorem runAll_storedIdentity (calls : List (IdentityCall P))
    (hcalls : ∀ call ∈ calls, call.WellSized PK_KEY_SIZE SK_KEY_SIZE) {ks : Keystore}
    (h : StoredIdentity PK_KEY_SIZE SK_KEY_SIZE P ks) :
    StoredIdentity PK_KEY_SIZE SK_KEY_SIZE P (runAll PK_KEY_SIZE SK_KEY_SIZE calls ks).1 := by
  induction calls generalizing ks with
  | nil => exact h
  | cons call calls ih =>
    exact ih (fun c hc => hcalls c (List.mem_cons_of_mem _ hc))
      (run_storedIdentity hround hsizes call (hcalls call (List.mem_cons_self _ _)) h)

end Laws

end IdentityCall

/-- **One identity, and `try_new` finds it.** Over any sequence of `try_new`,
`cryptobox_migrate` and `ProteusIdentity::save` calls on a keystore with no identity and no
session, in which every `save` writes blobs of the sizes `find_one` checks: after every prefix
the table holds at most one row; each `try_new` after a row is stored returns `Ok` with the
row's key pair and writes nothing; every key pair a `try_new` returned is the key pair of the
row at the end; a row stored after any prefix is the row at the end, since `save` never
replaces a stored row; and a row of the checked sizes saved on an empty table is read back by
`find_one` byte for byte. -/
theorem well_sized_identity_calls_keep_one_row {P : ProteusLib} (PK_KEY_SIZE SK_KEY_SIZE : Nat)
    (hround : P.RawKeyPairRoundTrip) (hsizes : P.KeySizes PK_KEY_SIZE SK_KEY_SIZE)
    (calls : List (IdentityCall P))
    (hcalls : ∀ call ∈ calls, call.WellSized PK_KEY_SIZE SK_KEY_SIZE) (ks : Keystore)
    (h₀ : ks.proteusIdentities = []) (hs₀ : ks.proteusSessions = ∅) :
    (∀ pre post, calls = pre ++ post →
      (IdentityCall.runAll PK_KEY_SIZE SK_KEY_SIZE pre ks).1.proteusIdentities.length ≤ 1) ∧
    (∀ pre fresh post r, calls = pre ++ .tryNew fresh :: post →
      (IdentityCall.runAll PK_KEY_SIZE SK_KEY_SIZE pre ks).1.proteusIdentities = [r] →
      ∃ c, ProteusCentral.tryNew PK_KEY_SIZE SK_KEY_SIZE fresh
          (IdentityCall.runAll PK_KEY_SIZE SK_KEY_SIZE pre ks).1 =
          ((IdentityCall.runAll PK_KEY_SIZE SK_KEY_SIZE pre ks).1, .ok c) ∧
        c.proteusIdentity = P.fromRawKeyPair r.sk r.pk) ∧
    (∀ kp ∈ (IdentityCall.runAll PK_KEY_SIZE SK_KEY_SIZE calls ks).2, ∃ r,
      (IdentityCall.runAll PK_KEY_SIZE SK_KEY_SIZE calls ks).1.proteusIdentities = [r] ∧
        kp = P.fromRawKeyPair r.sk r.pk) ∧
    (∀ pre post r, calls = pre ++ post →
      (IdentityCall.runAll PK_KEY_SIZE SK_KEY_SIZE pre ks).1.proteusIdentities = [r] →
      (IdentityCall.runAll PK_KEY_SIZE SK_KEY_SIZE calls ks).1.proteusIdentities = [r]) ∧
    (∀ (ks : Keystore) r identity, ks.proteusIdentities = [r] →
      (ks.identitySave identity).proteusIdentities = [r]) ∧
    (∀ (ks : Keystore) (identity : ProteusIdentity), ks.proteusIdentities = [] →
      identity.pk.length = PK_KEY_SIZE → identity.sk.length = SK_KEY_SIZE →
      Keystore.identityFindOne PK_KEY_SIZE SK_KEY_SIZE (ks.identitySave identity) =
        .ok (some identity)) := by
  -- every prefix of the calls keeps `StoredIdentity`
  have hpre : ∀ pre post, calls = pre ++ post →
      IdentityCall.StoredIdentity PK_KEY_SIZE SK_KEY_SIZE P
        (IdentityCall.runAll PK_KEY_SIZE SK_KEY_SIZE pre ks).1 := fun pre post hsplit =>
    IdentityCall.runAll_storedIdentity hround hsizes pre
      (fun c hc => hcalls c (hsplit ▸ List.mem_append_left post hc)) (.inl ⟨h₀, hs₀⟩)
  have hrun := IdentityCall.runAll_of_nil PK_KEY_SIZE SK_KEY_SIZE hround calls h₀
  refine ⟨fun pre post hsplit => ?_,
    fun pre fresh post r hsplit hr => (hpre pre _ hsplit).tryNew_eq PK_KEY_SIZE SK_KEY_SIZE hr fresh,
    ?_, fun pre post r hsplit hr => ?_,
    fun _ _ identity h => Keystore.identitySave_of_singleton h identity,
    fun _ identity h hpk hsk => Keystore.identityFindOne_of_singleton PK_KEY_SIZE SK_KEY_SIZE
      (Keystore.identitySave_of_nil h identity) hpk hsk⟩
  · rcases hpre pre post hsplit with ⟨hr, -⟩ | ⟨r, hr, -⟩ <;> simp [hr]
  · rcases hrun with ⟨-, hnil⟩ | ⟨r, hrow, hret⟩
    · simp [hnil]
    · exact fun kp hkp => ⟨r, hrow, hret kp hkp⟩
  · rw [hsplit, IdentityCall.runAll_append]
    exact (IdentityCall.runAll_of_singleton PK_KEY_SIZE SK_KEY_SIZE post hr).1

/-- A session on an empty keystore: `try_new`, a `save` of another row of the checked sizes,
a migration of a folder holding a session, and `try_new` again. -/
def identitySession : List (IdentityCall tallyProteus) :=
  [.tryNew (), .save ⟨List.replicate 64 3, List.replicate 32 4⟩,
    .cryptoboxMigrate true ⟨none, none, some [("alice", [1])], some []⟩ (), .tryNew ()]

/-- The row `try_new` writes stays; the later `save` writes nothing. -/
example : (IdentityCall.runAll 32 64 identitySession Keystore.empty).1.proteusIdentities =
    [{ sk := List.replicate 64 1, pk := List.replicate 32 2 }] := by rfl

theorem identity_session_keeps_one_row :
    tallyProteus.RawKeyPairRoundTrip ∧ tallyProteus.KeySizes 32 64 ∧
    (∀ call ∈ identitySession, call.WellSized 32 64) ∧ Keystore.empty.proteusIdentities = [] ∧
    Keystore.empty.proteusSessions = ∅ ∧
    (∀ pre post, identitySession = pre ++ post →
      (IdentityCall.runAll 32 64 pre Keystore.empty).1.proteusIdentities.length ≤ 1) ∧
    (∀ pre fresh post r, identitySession = pre ++ .tryNew fresh :: post →
      (IdentityCall.runAll 32 64 pre Keystore.empty).1.proteusIdentities = [r] →
      ∃ c, ProteusCentral.tryNew 32 64 fresh (IdentityCall.runAll 32 64 pre Keystore.empty).1 =
          ((IdentityCall.runAll 32 64 pre Keystore.empty).1, .ok c) ∧
        c.proteusIdentity = tallyProteus.fromRawKeyPair r.sk r.pk) ∧
    (∀ kp ∈ (IdentityCall.runAll 32 64 identitySession Keystore.empty).2, ∃ r,
      (IdentityCall.runAll 32 64 identitySession Keystore.empty).1.proteusIdentities = [r] ∧
        kp = tallyProteus.fromRawKeyPair r.sk r.pk) ∧
    (∀ pre post r, identitySession = pre ++ post →
      (IdentityCall.runAll 32 64 pre Keystore.empty).1.proteusIdentities = [r] →
      (IdentityCall.runAll 32 64 identitySession Keystore.empty).1.proteusIdentities = [r]) ∧
    (∀ (ks : Keystore) r identity, ks.proteusIdentities = [r] →
      (ks.identitySave identity).proteusIdentities = [r]) ∧
    (∀ (ks : Keystore) (identity : ProteusIdentity), ks.proteusIdentities = [] →
      identity.pk.length = 32 → identity.sk.length = 64 →
      Keystore.identityFindOne 32 64 (ks.identitySave identity) = .ok (some identity)) :=
  have hcalls : ∀ call ∈ identitySession, call.WellSized 32 64 := by decide
  ⟨fun _ _ _ => rfl, tallyProteus_keySizes, hcalls, rfl, rfl,
    well_sized_identity_calls_keep_one_row 32 64 (fun _ _ _ => rfl) tallyProteus_keySizes
      identitySession hcalls Keystore.empty rfl rfl⟩

/-- `tallyProteus`, except that no session row deserialises: rows written under an earlier
identity, which `Session::deserialise` rejects with `LocalIdentityChanged`. -/
def strangerProteus : ProteusLib :=
  { tallyProteus with sessionDeserialise := fun _ _ => .error ⟨"LocalIdentityChanged"⟩ }

/-- Two ways a `try_new` after the first stored row fails. A `save` of a one-byte public key
stores the row, and `try_new` then fails with `InvalidKeySize`. A session row left from an
earlier identity: `try_new` stores a fresh identity, then fails to restore the row. -/
theorem wrong_size_save_fails_try_new :
    (IdentityCall.runAll (P := tallyProteus) 32 64 [.save ⟨[3], [4]⟩] Keystore.empty).1 =
      Keystore.empty.identitySave ⟨[3], [4]⟩ ∧
    (Keystore.empty.identitySave ⟨[3], [4]⟩).proteusIdentities = [⟨[3], [4]⟩] ∧
    ProteusCentral.tryNew (P := tallyProteus) 32 64 () (Keystore.empty.identitySave ⟨[3], [4]⟩) =
      (Keystore.empty.identitySave ⟨[3], [4]⟩,
        .error (.keyStoreError (.invalidKeySize 32 1 "pk"))) ∧
    ProteusCentral.tryNew (P := strangerProteus) 32 64 ()
        { Keystore.empty with proteusSessions := (∅ : AList _).insert "alice" [9] } =
      ({ Keystore.empty with
          proteusIdentities := [{ sk := List.replicate 64 1, pk := List.replicate 32 2 }]
          proteusSessions := (∅ : AList _).insert "alice" [9] },
        .error (.proteusError ⟨"LocalIdentityChanged"⟩)) :=
  ⟨rfl, rfl, rfl, rfl⟩

end CoreCrypto
