import CoreCrypto.Mls.Conversation

/-!
# End-to-end identity state of a conversation (`e2e_identity/state.rs`)

`e2ei_conversation_state` folds over the leaves of the group with three accumulators: the
state so far, `one_valid` and `all_expired`, and then decides between them.

* **One step.** Each leaf moves the accumulators as `e2eiStep_eq` says: a valid leaf keeps
  the state and sets `one_valid`; any other leaf degrades the state; `all_expired` stays
  set only while every leaf is an X.509 credential out of its validity window.
* **The fold.** Over any list of leaves the accumulators are: verified iff every leaf is
  valid, `one_valid` iff some leaf is, `all_expired` iff every leaf is expired
  (`foldl_e2eiStep`).
* **Verified.** For a group with at least one leaf the answer is `Verified` exactly when every
  leaf is valid, whatever their order (`e2eiConversationState_eq_verified_iff`).
-/

namespace CoreCrypto

/-- The X.509 reading of a leaf credential, by the three calls `e2ei_conversation_state`
makes; their crates (`CredentialExt`, `WireIdentityReader`, `X509Ext`) are not part of this
repository. -/
structure X509Ext (L : OpenMls) where
  Certificate : Type
  /-- `parse_leaf_cert`: `Ok(Some(cert))` for an X.509 credential whose leaf certificate
  parses, `Ok(None)` for a Basic credential, `Err` for a certificate that does not parse -/
  parseLeafCert : L.Credential → Except CryptoError (Option Certificate)
  /-- `extract_identity`, by its outcome: the `WireIdentity` it returns is not read here -/
  extractIdentity : Certificate → Except CryptoError Unit
  /-- `is_time_valid`: whether now is inside the certificate's validity window -/
  isTimeValid : Certificate → Except CryptoError Bool

/-- `E2eiConversationState`. -/
inductive E2eiConversationState where
  /-- all clients have a valid E2EI certificate -/
  | verified
  /-- some clients are still Basic or their certificate is invalid -/
  | degraded
  /-- all clients are still Basic -/
  | notEnabled
  deriving DecidableEq, Repr

/-- The accumulators of the fold: the state, `one_valid`, `all_expired`. -/
structure E2eiAcc where
  state : E2eiConversationState
  oneValid : Bool
  allExpired : Bool
  deriving DecidableEq, Repr

namespace X509Ext

variable {L : OpenMls} (X : X509Ext L)

/-- One leaf of the fold (`state.rs:36-56`). -/
def e2eiStep (acc : E2eiAcc) (kp : L.KeyPackage) : E2eiAcc :=
  match X.parseLeafCert (L.credential kp) with
  | .ok (some cert) =>
    let invalidIdentity := !(X.extractIdentity cert).isOk
    let isTimeValid := (X.isTimeValid cert).toOption.getD false
    let isTimeInvalid := !isTimeValid
    let allExpired := acc.allExpired && isTimeInvalid
    let isInvalid := invalidIdentity || isTimeInvalid
    if isInvalid then { acc with state := .degraded, allExpired := allExpired }
    else { acc with oneValid := true, allExpired := allExpired }
  | _ => { acc with allExpired := false, state := .degraded }

/-- `MlsConversation::e2ei_conversation_state` (`state.rs:30-64`). -/
def e2eiConversationState (c : MlsConversation L) : E2eiConversationState :=
  let acc := (L.members c.group.state).foldl X.e2eiStep ⟨.verified, false, true⟩
  match acc.oneValid, acc.allExpired with
  | false, true => .degraded
  | false, _ => .notEnabled
  | _, _ => acc.state

/-! ## Classifying one leaf -/

/-- A valid leaf: an X.509 credential whose leaf certificate parses, whose identity can be
extracted and which is inside its validity window. -/
def memberValid (kp : L.KeyPackage) : Bool :=
  match X.parseLeafCert (L.credential kp) with
  | .ok (some cert) => (X.extractIdentity cert).isOk && (X.isTimeValid cert).toOption.getD false
  | _ => false

/-- An expired leaf: an X.509 credential whose leaf certificate parses and which is not inside
its validity window (or whose window could not be checked). -/
def memberExpired (kp : L.KeyPackage) : Bool :=
  match X.parseLeafCert (L.credential kp) with
  | .ok (some cert) => !(X.isTimeValid cert).toOption.getD false
  | _ => false

theorem memberValid_iff (kp : L.KeyPackage) :
    X.memberValid kp = true ↔ ∃ cert, X.parseLeafCert (L.credential kp) = .ok (some cert) ∧
      X.extractIdentity cert = .ok () ∧ X.isTimeValid cert = .ok true := by
  unfold memberValid
  split
  · rename_i cert hp
    rcases hi : X.extractIdentity cert with _ | ⟨⟩ <;> rcases ht : X.isTimeValid cert with _ | _ | _ <;>
      simp [hp, hi, ht, Except.isOk, Except.toBool, Except.toOption]
  · rename_i hp
    simp only [Bool.false_eq_true, false_iff, not_exists, not_and]
    intro cert hc
    exact absurd hc (hp cert)

/-- **Step lemma.** What one leaf does to the accumulators. -/
theorem e2eiStep_eq (acc : E2eiAcc) (kp : L.KeyPackage) :
    X.e2eiStep acc kp =
      ⟨if X.memberValid kp then acc.state else .degraded, acc.oneValid || X.memberValid kp,
        acc.allExpired && X.memberExpired kp⟩ := by
  unfold e2eiStep memberValid memberExpired
  split
  · dsimp only
    cases (X.extractIdentity _).isOk <;> cases (X.isTimeValid _).toOption.getD false <;> simp
  · cases acc; simp

/-- **The fold.** Over any leaves, from any accumulators. -/
theorem foldl_e2eiStep (acc : E2eiAcc) (kps : List L.KeyPackage) :
    kps.foldl X.e2eiStep acc =
      ⟨if kps.all X.memberValid then acc.state else .degraded, acc.oneValid || kps.any X.memberValid,
        acc.allExpired && kps.all X.memberExpired⟩ := by
  induction kps generalizing acc with
  | nil => simp
  | cons kp kps ih =>
    rw [List.foldl_cons, ih, e2eiStep_eq, List.all_cons, List.any_cons, List.all_cons]
    cases X.memberValid kp <;> simp only [Bool.true_and, Bool.false_and, Bool.false_or, Bool.or_false,
      Bool.or_true, Bool.true_or, Bool.and_assoc, ite_true, Bool.false_eq_true, ite_false, ite_self]

/-- **Verified.** A conversation with at least one leaf is `Verified` exactly when every leaf
is an X.509 credential whose leaf certificate parses, whose identity can be extracted and
which is inside its validity window. -/
theorem e2eiConversationState_eq_verified_iff (c : MlsConversation L)
    (h : L.members c.group.state ≠ []) :
    X.e2eiConversationState c = .verified ↔
      ∀ kp ∈ L.members c.group.state, ∃ cert, X.parseLeafCert (L.credential kp) = .ok (some cert) ∧
        X.extractIdentity cert = .ok () ∧ X.isTimeValid cert = .ok true := by
  simp only [← memberValid_iff, ← List.all_eq_true]
  unfold e2eiConversationState
  rw [foldl_e2eiStep]
  simp only [Bool.false_or, Bool.true_and]
  cases hany : (L.members c.group.state).any X.memberValid
  · -- with no valid leaf and at least one leaf, not every leaf is valid
    have hall : (L.members c.group.state).all X.memberValid = false := by
      obtain ⟨kp, hkp⟩ := List.exists_mem_of_ne_nil _ h
      rw [Bool.eq_false_iff]
      exact fun hall => List.any_eq_false.1 hany kp hkp (List.all_eq_true.1 hall kp hkp)
    cases (L.members c.group.state).all X.memberExpired <;> simp [hall]
  · cases (L.members c.group.state).all X.memberValid <;> simp

/-- **Not enabled.** A conversation is `NotEnabled` exactly when none of its leaves is valid
and some leaf is not an expired X.509 credential: a Basic leaf, a leaf certificate that does
not parse, or a certificate inside its window whose identity cannot be extracted. -/
theorem e2eiConversationState_eq_notEnabled_iff (c : MlsConversation L) :
    X.e2eiConversationState c = .notEnabled ↔
      (∀ kp ∈ L.members c.group.state, X.memberValid kp = false) ∧
        ∃ kp ∈ L.members c.group.state, X.memberExpired kp = false := by
  unfold e2eiConversationState
  rw [foldl_e2eiStep]
  simp only [Bool.false_or, Bool.true_and]
  cases hany : (L.members c.group.state).any X.memberValid
  · have hnone : ∀ kp ∈ L.members c.group.state, X.memberValid kp = false := by
      simpa using hany
    cases hexp : (L.members c.group.state).all X.memberExpired
    · exact iff_of_true rfl ⟨hnone, by simpa using hexp⟩
    · refine iff_of_false (by simp) fun h => ?_
      obtain ⟨kp, hkp, he⟩ := h.2
      simp [List.all_eq_true.1 hexp kp hkp] at he
  · obtain ⟨kp, hkp, hv⟩ := List.any_eq_true.1 hany
    have hsome : ¬∀ kp ∈ L.members c.group.state, X.memberValid kp = false :=
      fun h => by simp [h kp hkp] at hv
    cases (L.members c.group.state).all X.memberValid <;> simp [hsome]

end X509Ext

/-- An X.509 reading of `tallyLib` in which every leaf holds a valid certificate. -/
def tallyX509 : X509Ext tallyLib where
  Certificate := Unit
  parseLeafCert _ := .ok (some ())
  extractIdentity _ := .ok ()
  isTimeValid _ := .ok true

/-- The conversation `create` makes for `[1]` has one leaf, and the theorem applies to it. -/
theorem created_conversation_verified_iff :
    ∃ (c : MlsConversation tallyLib) (ks : Keystore),
      MlsConversation.create [1] (.ok []) {} (.ok ()) Keystore.empty = (ks, .ok (c, none)) ∧
      tallyLib.members c.group.state ≠ [] ∧
      (tallyX509.e2eiConversationState c = .verified ↔
        ∀ kp ∈ tallyLib.members c.group.state, ∃ cert,
          tallyX509.parseLeafCert (tallyLib.credential kp) = .ok (some cert) ∧
          tallyX509.extractIdentity cert = .ok () ∧ tallyX509.isTimeValid cert = .ok true) :=
  ⟨_, _, rfl, List.cons_ne_nil _ _,
    tallyX509.e2eiConversationState_eq_verified_iff _ (List.cons_ne_nil _ _)⟩

/-- An X.509 reading of `rosterLib`: the client `[0]` holds a Basic credential, every other
client an X.509 certificate out of its validity window. -/
def expiredX509 : X509Ext rosterLib where
  Certificate := Unit
  parseLeafCert (c : ClientId) := if c = [0] then .ok none else .ok (some ())
  extractIdentity _ := .ok ()
  isTimeValid _ := .ok false

/-- A conversation created by the Basic client `[0]` with the X.509 client `[1]`, whose
certificate has expired, is `NotEnabled`, not `Degraded`. -/
theorem basic_and_expired_members_not_enabled :
    ∃ (c : MlsConversation rosterLib) (ks : Keystore)
      (m : Option (MlsConversationCreationMessage rosterLib)),
      MlsConversation.create [1] (.ok [0]) { extraMembers := [⟨[([1], some ([1] : ClientId))]⟩] } (.ok ())
          Keystore.empty = (ks, .ok (c, m)) ∧
      rosterLib.members c.group.state = [[0], [1]] ∧
      expiredX509.parseLeafCert [0] = .ok none ∧ expiredX509.parseLeafCert [1] = .ok (some ()) ∧
      expiredX509.isTimeValid () = .ok false ∧
      expiredX509.e2eiConversationState c = .notEnabled :=
  ⟨_, _, _, rfl, rfl, rfl, rfl, rfl, rfl⟩

end CoreCrypto
