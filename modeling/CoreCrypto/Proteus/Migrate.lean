import Mathlib.Data.String.Basic
import CoreCrypto.Proteus.Central

/-!
# Cryptobox migration (`ProteusCentral::cryptobox_migrate_impl`, native)

A legacy Cryptobox folder holds an identity (`identities/local_identity` in the old format,
or `identities/local`), one file per session under `sessions/` named by its session id, and
one file per prekey under `prekeys/` named by its decimal id. The migration takes the
identity from the keystore if one is stored, from the folder otherwise (saving it), or
creates one; then copies every session and prekey that parses and is not stored yet.

File reads, and the removal of the legacy identity file (not keystore state), are taken to
succeed; a directory that cannot be listed is an I/O error.

* **Sessions.** The session loop never replaces a stored session and leaves a row under the
  name of every session file that deserialises (`migrateSessions_keeps_and_copies`).
* **Prekeys.** The prekey loop never replaces a stored prekey, even when a file name that is
  not a `u16` stops it; when it returns `Ok`, every prekey file that deserialises has a row
  (`migratePrekeys_keeps_and_copies`).
-/

namespace CoreCrypto

/-- A legacy Cryptobox folder, as the migration reads it. -/
structure CryptoboxFolder where
  /-- `identities/local_identity`, if the file exists -/
  legacyIdentity : Option Bytes
  /-- `identities/local`, if the file exists -/
  identity : Option Bytes
  /-- `sessions/`, each file's name and contents in `read_dir` order; `none` when the
  directory cannot be listed -/
  sessions : Option (List (String × Bytes))
  /-- `prekeys/`, as `sessions` -/
  prekeys : Option (List (String × Bytes))
  deriving DecidableEq, Repr

/-- `str::parse::<u16>`: an optional `+`, then one or more ASCII digits, of value below
`2^16`. -/
def parseU16 (s : String) : Except CryptoError UInt16 :=
  let digits := if s.startsWith "+" then s.drop 1 else s
  if digits.isEmpty || !digits.all Char.isDigit then .error .parseIntError
  else
    let n := digits.foldl (fun n c => 10 * n + (c.toNat - '0'.toNat)) 0
    if n < 2 ^ 16 then .ok n.toUInt16 else .error .parseIntError

/-- A directory listing, or the I/O error of listing it. -/
def readDir (dir : String) (entries : Option (List (String × Bytes))) :
    Except CryptoError (List (String × Bytes)) :=
  match entries with
  | some entries => .ok entries
  | none => .error (.ioError dir)

namespace ProteusCentral

variable {P : ProteusLib}

section Migrate

variable (PK_KEY_SIZE SK_KEY_SIZE : Nat)

/-- The identity the folder holds: the old-format `local_identity` (to be deleted after the
move) first, then a secret `local` identity. -/
def legacyIdentityCheck (folder : CryptoboxFolder) :
    Except CryptoError (Option (P.IdentityKeyPair × Bool)) :=
  match folder.legacyIdentity, folder.identity with
  | some kpCbor, _ =>
    (P.identityKeyPairDeserialise kpCbor).map (fun kp => some (kp, true)) |>.mapError .proteusError
  | none, some kpCbor =>
    (P.identityDeserialise kpCbor).map (Option.map (·, false)) |>.mapError .proteusError
  | none, none => .ok none

/-- The identity block of the migration (`proteus.rs:514-555`): the stored identity, or the
folder's, saved. -/
def migrateIdentity (folder : CryptoboxFolder) : Mut Keystore (Option P.IdentityKeyPair) := do
  let ks ← Mut.get
  match ← Mut.lift ((Keystore.identityFindOne PK_KEY_SIZE SK_KEY_SIZE ks).mapError .keyStoreError) with
  | some storeKp => pure (some (P.fromRawKeyPair storeKp.sk storeKp.pk))
  | none =>
    match ← Mut.lift (legacyIdentityCheck folder) with
    | some (kp, _) =>
      let pk ← Mut.lift (P.hexDecode (P.fingerprint kp))
      Mut.modify fun ks => ks.identitySave { sk := P.secretKeyBytes kp, pk := pk }
      pure (some kp)
    | none => pure none

/-- The session loop (`proteus.rs:564-587`): each session not stored yet that deserialises
under the identity is saved, under its file name. -/
def migrateSessions (identity : P.IdentityKeyPair) : List (String × Bytes) → Keystore → Keystore
  | [], ks => ks
  | (sessionId, rawSession) :: entries, ks =>
    if (ks.proteusSessions.lookup sessionId).isSome then migrateSessions identity entries ks
    else if (P.sessionDeserialise identity rawSession).isOk then
      migrateSessions identity entries (ks.sessionSave sessionId rawSession)
    else migrateSessions identity entries ks

/-- One turn of the prekey loop (`proteus.rs:591-611`): a file name that is not a `u16`
stops the migration with its error; a prekey not stored yet that deserialises is saved under
its id. -/
def migratePrekey (P : ProteusLib) (name : String) (rawPrekey : Bytes) : Mut Keystore Unit :=
  fun ks =>
    match parseU16 name with
    | .error e => (ks, .error e)
    | .ok prekeyId =>
      if (ks.proteusPrekeys.lookup prekeyId).isSome then (ks, .ok ())
      else if (P.preKeyDeserialise rawPrekey).isOk then (ks.prekeySave prekeyId rawPrekey, .ok ())
      else (ks, .ok ())

/-- The prekey loop (`proteus.rs:589-612`), over the directory's entries in `read_dir`
order. -/
def migratePrekeys (P : ProteusLib) : List (String × Bytes) → Mut Keystore Unit
  | [] => pure ()
  | (name, rawPrekey) :: entries => do
    migratePrekey P name rawPrekey
    migratePrekeys P entries

/-- The session and prekey migration of `cryptobox_migrate_impl`, under the identity. -/
def migrateEntries (identity : P.IdentityKeyPair) (folder : CryptoboxFolder) : Mut Keystore Unit := do
  let sessionEntries ← Mut.lift (readDir "sessions" folder.sessions)
  Mut.modify (migrateSessions identity sessionEntries)
  let prekeyEntries ← Mut.lift (readDir "prekeys" folder.prekeys)
  migratePrekeys P prekeyEntries

/-- `ProteusCentral::cryptobox_migrate_impl` (native), given the key pair `create_identity`
would draw. -/
def cryptoboxMigrateImpl (folder : CryptoboxFolder) (fresh : P.IdentityKeyPair) :
    Mut Keystore Unit := do
  let identity ← migrateIdentity PK_KEY_SIZE SK_KEY_SIZE folder
  let identity ← match identity with
    | some identity => pure identity
    | none => createIdentity fresh
  migrateEntries identity folder

/-- `ProteusCentral::cryptobox_migrate`: the migration when the `cryptobox-migrate` feature is
built in, `ProteusSupportNotEnabled` otherwise. -/
def cryptoboxMigrate (cryptoboxMigrateFeature : Bool) (folder : CryptoboxFolder)
    (fresh : P.IdentityKeyPair) : Mut Keystore Unit :=
  if cryptoboxMigrateFeature then cryptoboxMigrateImpl PK_KEY_SIZE SK_KEY_SIZE folder fresh
  else Mut.lift (.error (.proteusSupportNotEnabled "cryptobox-migrate"))

/-! ## What the loops copy -/

/-- The session loop never replaces a stored session. -/
theorem migrateSessions_lookup_of_lookup (identity : P.IdentityKeyPair)
    (entries : List (String × Bytes)) {ks : Keystore} {k : SessionIdentifier} {v : Bytes}
    (h : ks.proteusSessions.lookup k = some v) :
    (migrateSessions identity entries ks).proteusSessions.lookup k = some v := by
  induction entries generalizing ks with
  | nil => exact h
  | cons entry entries ih =>
    obtain ⟨sessionId, rawSession⟩ := entry
    simp only [migrateSessions]
    split
    · exact ih h
    · rename_i hnew
      have hne : k ≠ sessionId := by rintro rfl; exact hnew (by rw [h]; rfl)
      split
      · exact ih (by rw [Keystore.sessionSave_proteusSessions, AList.lookup_insert_ne hne, h])
      · exact ih h

/-- The session loop leaves a row under the name of every session file that deserialises
under the identity. -/
theorem migrateSessions_copies (identity : P.IdentityKeyPair) (entries : List (String × Bytes))
    (ks : Keystore) {k : SessionIdentifier} {raw : Bytes} (hmem : (k, raw) ∈ entries)
    (hok : (P.sessionDeserialise identity raw).isOk) :
    ((migrateSessions identity entries ks).proteusSessions.lookup k).isSome := by
  induction entries generalizing ks with
  | nil => cases hmem
  | cons entry entries ih =>
    obtain ⟨sessionId, rawSession⟩ := entry
    simp only [migrateSessions]
    rcases List.mem_cons.1 hmem with heq | hmem
    · obtain ⟨rfl, rfl⟩ := Prod.mk.inj_iff.1 heq
      rcases hs : ks.proteusSessions.lookup k with _ | v
      · simp only [Option.isSome_none, Bool.false_eq_true, ↓reduceIte, hok]
        exact Option.isSome_iff_exists.2
          ⟨raw, migrateSessions_lookup_of_lookup identity entries (AList.lookup_insert _)⟩
      · simp only [Option.isSome_some, ↓reduceIte]
        exact Option.isSome_iff_exists.2 ⟨v, migrateSessions_lookup_of_lookup identity entries hs⟩
    · split
      · exact ih ks hmem
      · split
        · exact ih _ hmem
        · exact ih ks hmem

/-- **Sessions.** The session loop keeps every stored session as it was, and leaves a row
under the name of every session file that deserialises under the identity. -/
theorem migrateSessions_keeps_and_copies (identity : P.IdentityKeyPair)
    (entries : List (String × Bytes)) (ks : Keystore) :
    (∀ k v, ks.proteusSessions.lookup k = some v →
      (migrateSessions identity entries ks).proteusSessions.lookup k = some v) ∧
    ∀ k raw, (k, raw) ∈ entries → (P.sessionDeserialise identity raw).isOk →
      ((migrateSessions identity entries ks).proteusSessions.lookup k).isSome :=
  ⟨fun _ _ h => migrateSessions_lookup_of_lookup identity entries h,
    fun _ _ hmem hok => migrateSessions_copies identity entries ks hmem hok⟩

/-- The session loop writes session rows only. -/
@[simp] theorem migrateSessions_proteusPrekeys (identity : P.IdentityKeyPair)
    (entries : List (String × Bytes)) (ks : Keystore) :
    (migrateSessions identity entries ks).proteusPrekeys = ks.proteusPrekeys := by
  induction entries generalizing ks with
  | nil => rfl
  | cons entry entries ih =>
    simp only [migrateSessions]
    split
    · exact ih ks
    · split
      · exact ih _
      · exact ih ks

/-- A session loop over entries each already stored, or not deserialising, writes nothing. -/
theorem migrateSessions_of_settled (identity : P.IdentityKeyPair)
    (entries : List (String × Bytes)) (ks : Keystore)
    (h : ∀ e ∈ entries, (ks.proteusSessions.lookup e.1).isSome ∨
      (P.sessionDeserialise identity e.2).isOk = false) :
    migrateSessions identity entries ks = ks := by
  induction entries with
  | nil => rfl
  | cons entry entries ih =>
    have htail := ih fun e he => h e (List.mem_cons_of_mem _ he)
    obtain ⟨sessionId, rawSession⟩ := entry
    rcases h _ (List.mem_cons_self _ _) with hs | hd
    · simp only [migrateSessions, hs, if_true, htail]
    · simp only [migrateSessions, hd, Bool.false_eq_true, if_false, ite_self, htail]

/-- A turn of the prekey loop never replaces a stored prekey. -/
theorem migratePrekey_keeps (name : String) (rawPrekey : Bytes) (id : UInt16) (v : Bytes) :
    Mut.Preserves (fun ks => ks.proteusPrekeys.lookup id = some v) (migratePrekey P name rawPrekey) := by
  intro ks h
  unfold migratePrekey
  split
  · exact h
  · rename_i prekeyId _
    split
    · exact h
    · rename_i hnew
      have hne : id ≠ prekeyId := by rintro rfl; exact hnew (by rw [h]; rfl)
      split
      · rw [Keystore.prekeySave_proteusPrekeys, AList.lookup_insert_ne hne, h]
      · exact h

/-- The prekey loop never replaces a stored prekey, whether it ends in `Ok` or not. -/
theorem migratePrekeys_keeps (entries : List (String × Bytes)) (id : UInt16) (v : Bytes) :
    Mut.Preserves (fun ks => ks.proteusPrekeys.lookup id = some v) (migratePrekeys P entries) := by
  induction entries with
  | nil => exact .pure _
  | cons entry entries ih => exact .bind (migratePrekey_keeps entry.1 entry.2 id v) fun _ => ih

/-- A turn that returns `Ok` parsed the file name, and saved the prekey if it deserialises and
was not stored. -/
theorem migratePrekey_eq_ok {name : String} {rawPrekey : Bytes} {ks ks' : Keystore}
    (h : migratePrekey P name rawPrekey ks = (ks', .ok ())) :
    ∃ id, parseU16 name = .ok id ∧
      ((P.preKeyDeserialise rawPrekey).isOk → (ks'.proteusPrekeys.lookup id).isSome) := by
  unfold migratePrekey at h
  split at h
  · cases h
  · rename_i prekeyId hp
    refine ⟨prekeyId, hp, fun hdes => ?_⟩
    by_cases hstored : (ks.proteusPrekeys.lookup prekeyId).isSome
    · rw [if_pos hstored] at h
      cases h
      exact hstored
    · rw [if_neg hstored, if_pos hdes] at h
      cases h
      simp only [Keystore.prekeySave_proteusPrekeys, AList.lookup_insert, Option.isSome_some]

/-- When the prekey loop ends in `Ok`, every file name parsed as a `u16`, and every prekey
file that deserialises has a row under its id. -/
theorem migratePrekeys_copies (entries : List (String × Bytes)) (ks : Keystore)
    (hok : (migratePrekeys P entries ks).2 = .ok ()) {name : String} {raw : Bytes}
    (hmem : (name, raw) ∈ entries) :
    ∃ id, parseU16 name = .ok id ∧
      ((P.preKeyDeserialise raw).isOk → ((migratePrekeys P entries ks).1.proteusPrekeys.lookup id).isSome) := by
  generalize hrun : migratePrekeys P entries ks = r at hok ⊢
  obtain ⟨ks', _⟩ := r
  cases hok
  induction entries generalizing ks with
  | nil => cases hmem
  | cons entry entries ih =>
    obtain ⟨ks₁, _, hstep, hrest⟩ := Mut.bind_eq_ok hrun
    rcases List.mem_cons.1 hmem with rfl | hmem
    · obtain ⟨id, hp, hcopy⟩ := migratePrekey_eq_ok hstep
      refine ⟨id, hp, fun hdes => ?_⟩
      obtain ⟨v, hv⟩ := Option.isSome_iff_exists.1 (hcopy hdes)
      have hkeep := migratePrekeys_keeps (P := P) entries id v ks₁ hv
      rw [hrest] at hkeep
      exact Option.isSome_iff_exists.2 ⟨v, hkeep⟩
    · exact ih ks₁ hmem hrest

/-- **Prekeys.** The prekey loop keeps every stored prekey as it was; when it ends in `Ok`,
every file name parsed as a `u16`, and every prekey file that deserialises has a row under
its id. -/
theorem migratePrekeys_keeps_and_copies (entries : List (String × Bytes)) (ks : Keystore) :
    (∀ id v, ks.proteusPrekeys.lookup id = some v →
      (migratePrekeys P entries ks).1.proteusPrekeys.lookup id = some v) ∧
    ((migratePrekeys P entries ks).2 = .ok () →
      ∀ name raw, (name, raw) ∈ entries → ∃ id, parseU16 name = .ok id ∧
        ((P.preKeyDeserialise raw).isOk → ((migratePrekeys P entries ks).1.proteusPrekeys.lookup id).isSome)) :=
  ⟨fun id v => migratePrekeys_keeps entries id v ks,
    fun hok _ _ hmem => migratePrekeys_copies entries ks hok hmem⟩

/-- The prekey loop writes prekey rows only. -/
theorem migratePrekeys_proteusSessions (entries : List (String × Bytes)) (ks : Keystore) :
    (migratePrekeys P entries ks).1.proteusSessions = ks.proteusSessions := by
  suffices h : Mut.Preserves (fun ks' : Keystore => ks'.proteusSessions = ks.proteusSessions)
      (migratePrekeys P entries) from h ks rfl
  induction entries with
  | nil => exact .pure _
  | cons entry entries ih =>
    refine .bind (fun ks' h => ?_) fun _ => ih
    unfold migratePrekey
    split
    · exact h
    · split
      · exact h
      · split
        · simpa only [Keystore.prekeySave_proteusSessions] using h
        · exact h

/-- A prekey loop over entries whose names parse and that are each already stored, or not
deserialising, writes nothing and returns `Ok`. -/
theorem migratePrekeys_of_settled (entries : List (String × Bytes)) (ks : Keystore)
    (h : ∀ e ∈ entries, ∃ id, parseU16 e.1 = .ok id ∧
      ((ks.proteusPrekeys.lookup id).isSome ∨ (P.preKeyDeserialise e.2).isOk = false)) :
    migratePrekeys P entries ks = (ks, .ok ()) := by
  induction entries with
  | nil => rfl
  | cons entry entries ih =>
    have htail := ih fun e he => h e (List.mem_cons_of_mem _ he)
    obtain ⟨name, rawPrekey⟩ := entry
    have hstep : migratePrekey P name rawPrekey ks = (ks, .ok ()) := by
      obtain ⟨id, hp, hs | hd⟩ := h _ (List.mem_cons_self _ _) <;> unfold migratePrekey <;>
        simp only [hp]
      · simp only [hs, if_true]
      · simp only [hd, Bool.false_eq_true, if_false, ite_self]
    simp only [migratePrekeys, Mut.bind_apply, hstep, htail]

end Migrate

end ProteusCentral

end CoreCrypto
