import CoreCrypto.Proteus.Central

/-!
# Proteus sessions over a whole run

* **Keys.** In every state reachable from `try_new` by session calls, each session sits under
  its own identifier (`SessionsWellKeyed`, `ProteusReachable.sessionsWellKeyed`): `try_new`
  restores the rows that way, every call inserts a session under the id it was created
  for, and encrypting or decrypting keeps the identifier.
* **Batches.** On such a state `encrypt_batched`, which files each ciphertext under the
  session's identifier, is the batch keyed by the listed ids (`encryptBatchedById`); its
  map holds exactly the listed ids that have a session (`reachable_encryptBatched_by_id`).
* **Responder sessions.** `session_from_message` consumes the one-time prekey from the
  keystore but leaves the session in memory only (`session_from_message_leaves_session_unsaved`);
  writing it is `session_save`'s job (`Proteus.Restart`).
* **Deletion.** `session_delete` returns `Ok` whatever the keystore answers; a failed removal
  leaves the session in memory and its row in place (`sessionDelete_gone_iff`).
-/

namespace CoreCrypto

variable {P : ProteusLib}

/-- Every session of the map sits under its own identifier. -/
def SessionsWellKeyed (sessions : AList (fun _ : SessionIdentifier => ProteusConversationSession P)) :
    Prop :=
  ∀ sessionId s, sessions.lookup sessionId = some s → s.identifier = sessionId

namespace SessionsWellKeyed

variable {sessions : AList (fun _ : SessionIdentifier => ProteusConversationSession P)}

theorem empty : SessionsWellKeyed (∅ : AList (fun _ : SessionIdentifier => ProteusConversationSession P)) :=
  fun _ _ h => by cases h

theorem insert (h : SessionsWellKeyed sessions) {sessionId : SessionIdentifier}
    {s : ProteusConversationSession P} (hs : s.identifier = sessionId) :
    SessionsWellKeyed (sessions.insert sessionId s) :=
  forall_lookup_insert h hs

theorem erase (h : SessionsWellKeyed sessions) (sessionId : SessionIdentifier) :
    SessionsWellKeyed (sessions.erase sessionId) :=
  forall_lookup_erase h sessionId

/-- A session replaced by its own successor keeps the map well keyed. -/
theorem replace (h : SessionsWellKeyed sessions) {sessionId : SessionIdentifier}
    {s s' : ProteusConversationSession P} (hs : sessions.lookup sessionId = some s)
    (hid : s'.identifier = s.identifier) :
    SessionsWellKeyed (sessions.insert sessionId s') :=
  h.insert (hid.trans (h _ _ hs))

end SessionsWellKeyed

namespace ProteusCentral

theorem restoreSession_eq_ok {identity : P.IdentityKeyPair}
    {acc acc' : AList (fun _ : SessionIdentifier => ProteusConversationSession P)}
    {row : Σ _ : SessionIdentifier, Bytes} (h : restoreSession identity acc row = .ok acc') :
    ∃ session, P.sessionDeserialise identity row.2 = .ok session ∧
      acc' = acc.insert row.1 ⟨row.1, session⟩ := by
  unfold restoreSession at h
  rcases hd : P.sessionDeserialise identity row.2 with e | session <;>
    simp only [hd, bind, Except.bind, Except.mapError, pure, Except.pure] at h
  · cases h
  · cases h; exact ⟨session, rfl, rfl⟩

/-- A property of the map that each restored row keeps holds of what `restore_sessions`
rebuilds. -/
theorem foldlM_restoreSession_induction (identity : P.IdentityKeyPair)
    (Q : AList (fun _ : SessionIdentifier => ProteusConversationSession P) → Prop)
    (hstep : ∀ acc (row : Σ _ : SessionIdentifier, Bytes) session, Q acc →
      P.sessionDeserialise identity row.2 = .ok session → Q (acc.insert row.1 ⟨row.1, session⟩))
    (rows : List (Σ _ : SessionIdentifier, Bytes))
    {acc sessions : AList (fun _ : SessionIdentifier => ProteusConversationSession P)}
    (hacc : Q acc) (h : rows.foldlM (restoreSession identity) acc = .ok sessions) : Q sessions := by
  induction rows generalizing acc with
  | nil => cases h; exact hacc
  | cons row rows ih =>
    rw [List.foldlM_cons] at h
    rcases hr : restoreSession identity acc row with e | acc' <;> rw [hr] at h
    · cases h
    · obtain ⟨session, hd, rfl⟩ := restoreSession_eq_ok hr
      exact ih (hstep acc row session hacc hd) h

theorem tryNew_wellKeyed (PK_KEY_SIZE SK_KEY_SIZE : Nat) {fresh : P.IdentityKeyPair}
    {ks ks' : Keystore} {c : ProteusCentral P}
    (h : tryNew PK_KEY_SIZE SK_KEY_SIZE fresh ks = (ks', .ok c)) :
    SessionsWellKeyed c.proteusSessions :=
  foldlM_restoreSession_induction _ SessionsWellKeyed (fun _ _ _ h _ => h.insert rfl) _
    SessionsWellKeyed.empty (tryNew_eq_ok _ _ h).2

/-- The sessions of the central are well keyed. -/
abbrev WorldWellKeyed (w : ProteusWorld P) : Prop := SessionsWellKeyed w.1.proteusSessions

theorem encrypt_wellKeyed (sessionId : SessionIdentifier) (plaintext : Bytes) :
    Mut.Preserves (fun c : ProteusCentral P => SessionsWellKeyed c.proteusSessions)
      (encrypt sessionId plaintext) := by
  intro c h
  unfold encrypt
  split
  · exact h.replace ‹_› (ProteusConversationSession.encrypt_identifier _ _)
  · exact h

theorem encryptBatchedLoop_wellKeyed (plaintext : Bytes) (sessions : List SessionIdentifier)
    (acc : AList (fun _ : String => Bytes)) :
    Mut.Preserves (fun c : ProteusCentral P => SessionsWellKeyed c.proteusSessions)
      (encryptBatchedLoop plaintext sessions acc) := by
  induction sessions generalizing acc with
  | nil => exact Mut.Preserves.pure _
  | cons sessionId sessions ih =>
    intro c h
    unfold encryptBatchedLoop
    split
    · exact ih acc c h
    · rename_i session hs
      have hid := ProteusConversationSession.encrypt_identifier session plaintext
      rcases he : session.encrypt plaintext with ⟨session', _ | ciphertext⟩ <;> rw [he] at hid
      · exact h.replace hs hid
      · exact ih _ _ (h.replace hs hid)

/-- **Step lemma.** Every call keeps the sessions well keyed, whatever it returns. -/
theorem run_wellKeyed (call : ProteusCall P) : Mut.Preserves WorldWellKeyed call.run := by
  cases call with
  | sessionFromPrekey sessionId key =>
    exact .bind .get fun _ => .bind (.lift _) fun _ => .bind (.lift _) fun _ =>
      .modify fun _ h => h.insert rfl
  | sessionFromMessage sessionId envelope =>
    refine .bind (.bind .get fun _ => .bind (.lift _) fun _ => .bind (.lift _) fun _ => ?_)
      fun _ => .pure _
    exact .bind (.modify fun _ h => h) fun _ => .bind (.modify fun _ h => h.insert rfl) fun _ => .pure _
  | sessionSave sessionId =>
    refine .bind .get fun w => ?_
    split
    · exact .bind (.lift _) fun _ => .modify fun _ h => h
    · exact .pure _
  | sessionDelete sessionId answer =>
    intro w h
    show WorldWellKeyed (sessionDelete sessionId answer w).1
    unfold sessionDelete
    split
    · exact h.erase sessionId
    · exact h
  | encrypt sessionId plaintext =>
    exact .bind (fun w h => encrypt_wellKeyed sessionId plaintext w.1 h) fun _ => .pure _
  | decrypt sessionId ciphertext =>
    refine .bind (fun w h => ?_) fun _ => .pure _
    unfold decrypt
    split
    · exact h.replace ‹_› (ProteusConversationSession.decrypt_identifier _ _ _)
    · exact h
  | encryptBatched sessions plaintext =>
    exact .bind (fun w h => encryptBatchedLoop_wellKeyed plaintext sessions ∅ w.1 h) fun _ => .pure _

/-! ## Reachable states -/

section Reachable

variable (PK_KEY_SIZE SK_KEY_SIZE : Nat)

/-- States reached from `try_new` by any sequence of session calls, whatever each returned. -/
inductive ProteusReachable : ProteusWorld P → Prop
  | tryNew {fresh : P.IdentityKeyPair} {ks ks' : Keystore} {c : ProteusCentral P} :
      tryNew PK_KEY_SIZE SK_KEY_SIZE fresh ks = (ks', .ok c) → ProteusReachable (c, ks')
  | call {w : ProteusWorld P} (call : ProteusCall P) :
      ProteusReachable w → ProteusReachable (call.run w).1

/-- **Run lemma.** Every reachable central is well keyed. -/
theorem ProteusReachable.wellKeyed {w : ProteusWorld P}
    (hw : ProteusReachable PK_KEY_SIZE SK_KEY_SIZE w) : WorldWellKeyed w := by
  induction hw with
  | tryNew h => exact tryNew_wellKeyed _ _ h
  | call call _ ih => exact run_wellKeyed call _ ih

end Reachable

/-! ## Batches -/

/-- The batch keyed by the listed ids, as the spec describes it: each listed id that has a
session encrypts with that session, and its ciphertext is filed under that id. -/
def encryptBatchedById (plaintext : Bytes) :
    List SessionIdentifier → AList (fun _ : String => Bytes) →
      Mut (ProteusCentral P) (AList (fun _ : String => Bytes))
  | [], acc => pure acc
  | sessionId :: sessions, acc => fun c =>
    match c.proteusSessions.lookup sessionId with
    | none => encryptBatchedById plaintext sessions acc c
    | some session =>
      match session.encrypt plaintext with
      | (session', .error e) =>
        ({ c with proteusSessions := c.proteusSessions.insert sessionId session' }, .error e)
      | (session', .ok ciphertext) =>
        encryptBatchedById plaintext sessions (acc.insert sessionId ciphertext)
          { c with proteusSessions := c.proteusSessions.insert sessionId session' }

/-- **Refinement.** On well-keyed sessions the loop of `encrypt_batched`, which files each
ciphertext under the session's identifier, is the batch keyed by the listed ids. -/
theorem encryptBatchedLoop_eq_byId (plaintext : Bytes) (sessions : List SessionIdentifier)
    (acc : AList (fun _ : String => Bytes)) (c : ProteusCentral P)
    (h : SessionsWellKeyed c.proteusSessions) :
    encryptBatchedLoop plaintext sessions acc c = encryptBatchedById plaintext sessions acc c := by
  induction sessions generalizing acc c with
  | nil => rfl
  | cons sessionId sessions ih =>
    unfold encryptBatchedLoop encryptBatchedById
    rcases hs : c.proteusSessions.lookup sessionId with _ | session
    · exact ih acc c h
    · have hid := ProteusConversationSession.encrypt_identifier session plaintext
      dsimp only
      rcases he : session.encrypt plaintext with ⟨session', _ | ciphertext⟩
      · rfl
      · rw [he] at hid
        dsimp only
        rw [h _ _ hs]
        exact ih _ _ (h.replace hs hid)

/-- The ids of a batch: those already in `acc`, and the listed ids that have a session. -/
theorem encryptBatchedById_keys (plaintext : Bytes) (sessions : List SessionIdentifier)
    (acc : AList (fun _ : String => Bytes)) (c : ProteusCentral P) {c' : ProteusCentral P}
    {acc' : AList (fun _ : String => Bytes)}
    (h : encryptBatchedById plaintext sessions acc c = (c', .ok acc')) (k : String) :
    k ∈ acc' ↔ k ∈ acc ∨ (k ∈ sessions ∧ k ∈ c.proteusSessions) := by
  induction sessions generalizing acc c with
  | nil =>
    cases h
    simp
  | cons sessionId sessions ih =>
    unfold encryptBatchedById at h
    rcases hs : c.proteusSessions.lookup sessionId with _ | session <;> rw [hs] at h <;>
      dsimp only at h
    · have hnot : sessionId ∉ c.proteusSessions := by
        rw [← AList.lookup_isSome, hs]; exact Bool.false_ne_true
      rw [ih acc c h, List.mem_cons]
      by_cases hk : k = sessionId
      · subst hk; simp [hnot]
      · simp [hk]
    · have hin : sessionId ∈ c.proteusSessions := by
        rw [← AList.lookup_isSome, hs]; rfl
      rcases he : session.encrypt plaintext with ⟨session', _ | ciphertext⟩ <;> rw [he] at h
      · cases h
      · rw [ih _ _ h]
        simp only [AList.mem_insert, List.mem_cons]
        by_cases hk : k = sessionId
        · subst hk; simp [hin]
        · simp [hk]

/-- **Batches on reachable states.** In every state reachable from `try_new`, the sessions are
well keyed, so `encrypt_batched` is the batch keyed by the listed ids: each listed id with a
session gets the ciphertext its own session produced, and when the call returns `Ok` its map
holds exactly the listed ids that have a session. -/
theorem reachable_encryptBatched_by_id (PK_KEY_SIZE SK_KEY_SIZE : Nat) {w : ProteusWorld P}
    (hw : ProteusReachable PK_KEY_SIZE SK_KEY_SIZE w) :
    SessionsWellKeyed w.1.proteusSessions ∧
      ∀ sessions plaintext,
        encryptBatched sessions plaintext w.1 = encryptBatchedById plaintext sessions ∅ w.1 ∧
        ∀ c' acc, encryptBatched sessions plaintext w.1 = (c', .ok acc) →
          ∀ k, k ∈ acc ↔ k ∈ sessions ∧ k ∈ w.1.proteusSessions := by
  have hwk := hw.wellKeyed
  refine ⟨hwk, fun sessions plaintext => ⟨encryptBatchedLoop_eq_byId _ _ _ _ hwk, ?_⟩⟩
  intro c' acc h k
  rw [encryptBatched, encryptBatchedLoop_eq_byId _ _ _ _ hwk] at h
  simpa using encryptBatchedById_keys _ _ _ _ h k

/-! ## Deleting a session -/

/-- `session_delete` returns `Ok` whatever the keystore answers, and afterwards the session is
gone from memory and from the keystore exactly when the removal succeeded or it was gone
already: a failed removal is swallowed and changes nothing. -/
theorem sessionDelete_gone_iff (sessionId : SessionIdentifier) (answer : KeystoreAnswer)
    (w : ProteusWorld P) :
    (sessionDelete sessionId answer w).2 = .ok () ∧
      ((sessionDelete sessionId answer w).1.1.sessionExists sessionId = false ∧
          (sessionDelete sessionId answer w).1.2.proteusSessions.lookup sessionId = none ↔
        answer.isOk ∨
          w.1.sessionExists sessionId = false ∧ w.2.proteusSessions.lookup sessionId = none) := by
  cases answer with
  | ok u => simp [sessionDelete, sessionExists, Keystore.sessionRemove, Except.map, Except.isOk, Except.toBool]
  | error e => simp [sessionDelete, Keystore.sessionRemove, Except.map, Except.isOk, Except.toBool]

end ProteusCentral

/-- A fresh client on an empty keystore (`try_new` created its identity), then
`session_from_prekey` for `"alice"` and for `"bob"`. -/
def aliceAndBob : ProteusWorld tallyProteus :=
  ((ProteusCall.sessionFromPrekey "bob" []).run
    ((ProteusCall.sessionFromPrekey "alice" []).run
      (⟨(), ∅⟩, Keystore.empty.identitySave ⟨List.replicate 64 1, List.replicate 32 2⟩)).1).1

theorem aliceAndBob_reachable : ProteusCentral.ProteusReachable 32 64 aliceAndBob :=
  .call _ (.call _ (@ProteusCentral.ProteusReachable.tryNew tallyProteus 32 64 () Keystore.empty _ _ rfl))

/-- The theorem on `aliceAndBob`, and its batch listing `"alice"` twice, the unknown `"carol"`
and `"bob"`: the map holds exactly the listed ids with a session. -/
theorem aliceAndBob_encryptBatched_by_id :
    (SessionsWellKeyed aliceAndBob.1.proteusSessions ∧
      ∀ sessions plaintext,
        ProteusCentral.encryptBatched sessions plaintext aliceAndBob.1 =
          ProteusCentral.encryptBatchedById plaintext sessions ∅ aliceAndBob.1 ∧
        ∀ c' acc, ProteusCentral.encryptBatched sessions plaintext aliceAndBob.1 = (c', .ok acc) →
          ∀ k, k ∈ acc ↔ k ∈ sessions ∧ k ∈ aliceAndBob.1.proteusSessions) ∧
    ∃ c' acc, ProteusCentral.encryptBatched ["alice", "carol", "alice", "bob"] [5] aliceAndBob.1 =
        (c', .ok acc) ∧
      ∀ k, k ∈ acc ↔ k ∈ ["alice", "carol", "alice", "bob"] ∧ k ∈ aliceAndBob.1.proteusSessions :=
  have h := ProteusCentral.reachable_encryptBatched_by_id 32 64 aliceAndBob_reachable
  have hb : ProteusCentral.encryptBatched ["alice", "carol", "alice", "bob"] [5] aliceAndBob.1 =
      (_, .ok _) := rfl
  ⟨h, _, _, hb, (h.2 _ _).2 _ _ hb⟩

/-- On the state `try_new` reaches from an empty keystore, `session_from_prekey` and
`session_save` for `"alice"` give a session in memory and its row. When the keystore then fails
to remove the row, `session_delete` still returns `Ok`, and the session and its row are both
still there. -/
theorem failed_session_delete_returns_ok :
    ∃ (c₀ : ProteusCentral tallyProteus) (ks₀ : Keystore) (w₁ w₂ w₃ : ProteusWorld tallyProteus),
      ProteusCentral.tryNew 32 64 () Keystore.empty = (ks₀, .ok c₀) ∧
      ProteusCentral.sessionFromPrekey "alice" [] (c₀, ks₀) = (w₁, .ok ()) ∧
      ProteusCentral.sessionSave "alice" w₁ = (w₂, .ok ()) ∧
      w₂.2.proteusSessions.lookup "alice" = some [] ∧
      ProteusCentral.sessionDelete "alice" (.error (.backend "remove failed")) w₂ =
        (w₃, .ok ()) ∧
      w₃.1.sessionExists "alice" = true ∧ w₃.2.proteusSessions.lookup "alice" = some [] :=
  ⟨_, _, _, _, _, rfl, rfl, rfl, rfl, rfl, rfl, rfl⟩

end CoreCrypto
