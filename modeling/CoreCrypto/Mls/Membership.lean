import CoreCrypto.Mls.Persistence

/-!
# What `add_members` and `remove_members` commit, and what `members()` reports
(`conversation.rs:196-283`)

Neither operation checks the members it is given against the group. `remove_members`
selects the leaves whose credential identity is a listed client (`filter` at 255-263), so a
listed client that is no leaf selects nothing; `add_members` keeps the key packages the
clients yield (`filter_map` at 223-227), so a client without one contributes nothing.

* `memberRefsOf_append_absent`, `removeMembers_append_absent`: for every group and every
  listing, members whose clients are no leaf can be dropped from the call without changing
  its outcome, state or keystore.
* `keypackagesOf_append_without`, `addMembers_append_without`: likewise for members none of
  whose clients yields a key package.
* `addMembers_leaves`: under an openmls law, an addition to a group without pending proposals
  that returns `Ok` adds, up to order, the credentials of the key packages the listed clients
  yield, one leaf per client with a key package.
* `removeMembers_leaves`: under two openmls laws, such a removal leaves, up to order, exactly
  the credentials of the leaves whose identity is not listed.
* `members_lookup`: `members()` lists under each member id the credentials of exactly that
  identity's leaves, in leaf order, and nothing else; so after an addition each id lists, up to
  order, what it listed and the added credentials of its identity (`addMembers_members`), and
  after a removal no listed client has an entry (`removeMembers_members`).

The openmls laws are stated over the leaves' credentials as multisets: openmls fills the
leftmost blank leaf first, and a removal commit's update path gives the committer's leaf a new
key package.

On `rosterLib` both show up in one conversation of two leaves: a removal that lists a
non-leaf client next to a leaf succeeds, and a member with a client without a key package
is added with one leaf instead of two.
-/

namespace CoreCrypto

/-- A merged add commit adds the credentials of its key packages to those of the leaves, as a
multiset: openmls puts each new leaf in the leftmost blank leaf, so the order is not kept. A
commit also carries the group's pending proposals, so the law is for a group with none. -/
def OpenMls.AddAddsCredentials (L : OpenMls) : Prop :=
  ∀ s kps s₁ m w s₂, L.pendingProposals s = [] → L.addMembers s kps = .ok (s₁, m, w) →
    L.mergePendingCommit s₁ = .ok s₂ →
    ((L.members s₂).map L.credential).Perm ((L.members s).map L.credential ++ kps.map L.credential)

/-- A merged removal commit keeps, as a multiset, the credentials of exactly the leaves whose
ref is not listed. The leaves themselves are not all kept: the commit's update path gives the
committer's leaf a new key package, with the same credential. As for additions, the group is
to have no pending proposals. -/
def OpenMls.RemoveKeepsUnlistedCredentials (L : OpenMls) : Prop :=
  ∀ s refs s₁ m w s₂, L.pendingProposals s = [] → L.removeMembers s refs = .ok (s₁, m, w) →
    L.mergePendingCommit s₁ = .ok s₂ →
    ∃ removed kept, (L.members s).Perm (removed ++ kept) ∧
      (∀ kp ∈ removed, ∃ r ∈ refs, L.hashRef kp = .ok r) ∧
      (∀ kp ∈ kept, ∀ r, L.hashRef kp = .ok r → r ∉ refs) ∧
      ((L.members s₂).map L.credential).Perm (kept.map L.credential)

/-- Distinct key packages have distinct refs. -/
def OpenMls.HashRefInjective (L : OpenMls) : Prop :=
  ∀ kp kp' r, L.hashRef kp = .ok r → L.hashRef kp' = .ok r → kp = kp'

namespace MlsConversation

variable {L : OpenMls}

/-! ## Clients that are no leaf -/

/-- Members none of whose clients yields a key package add nothing to the commit. -/
theorem keypackagesOf_append_without (members absent : List (ConversationMember L))
    (h : ∀ m ∈ absent, ∀ e ∈ m.keypackagesForAllClients, e.2 = none) :
    keypackagesOf (members ++ absent) = keypackagesOf members := by
  have hnone : (absent.flatMap ConversationMember.keypackagesForAllClients).filterMap
      Prod.snd = [] :=
    List.filterMap_eq_nil_iff.2 fun e he =>
      let ⟨m, hm, hem⟩ := List.mem_flatMap.1 he
      h m hm e hem
  rw [keypackagesOf, List.flatMap_append, List.filterMap_append, hnone, List.append_nil,
    keypackagesOf]

/-- `add_members` does not fail on, or report, listed members none of whose clients yields a
key package: the call behaves exactly as if they were not listed. -/
theorem addMembers_append_without (members absent : List (ConversationMember L))
    (answer : KeystoreAnswer) (w : World L)
    (h : ∀ m ∈ absent, ∀ e ∈ m.keypackagesForAllClients, e.2 = none) :
    addMembers (members ++ absent) answer w = addMembers members answer w := by
  rw [addMembers, keypackagesOf_append_without members absent h, addMembers]

/-! ## What a successful addition leaves -/

/-- Under the openmls law that a merged add commit adds its credentials, an `add_members` on a
group without pending proposals that returns `Ok` adds, up to order, the credentials of the key
packages the listed clients yield: the group grows by one leaf per client with a key package,
not per listed client. -/
theorem addMembers_leaves (hadd : L.AddAddsCredentials)
    {members : List (ConversationMember L)} {answer : KeystoreAnswer} {w w' : World L}
    {r : MlsConversationCreationMessage L} (hidle : L.pendingProposals w.1.group.state = [])
    (h : addMembers members answer w = (w', .ok r)) :
    ((L.members w'.1.group.state).map L.credential).Perm
      ((L.members w.1.group.state).map L.credential ++ (keypackagesOf members).map L.credential) ∧
    (L.members w'.1.group.state).length = (L.members w.1.group.state).length +
      (members.flatMap ConversationMember.keypackagesForAllClients).countP (·.2.isSome) := by
  obtain ⟨s₁, s₂, buf, ha, hm, -, -, rfl⟩ := addMembers_eq_ok h
  have hleaves := hadd _ _ _ _ _ _ hidle ha hm
  refine ⟨hleaves, ?_⟩
  have hlen := hleaves.length_eq
  simp only [List.length_map, List.length_append] at hlen
  rw [hlen, keypackagesOf, List.length_filterMap_eq_countP]

/-! ## What a successful removal leaves -/

/-- The refs `remove_members` selects are those of the leaves whose identity is listed. -/
theorem memberRefsOf_eq_ok {clients : List ClientId} {s : L.GroupState}
    {refs : List L.KeyPackageRef} (h : memberRefsOf clients s = .ok refs) :
    (∀ kp ∈ L.members s, L.identity (L.credential kp) ∈ clients →
      ∃ r ∈ refs, L.hashRef kp = .ok r) ∧
    ∀ r ∈ refs, ∃ kp ∈ L.members s,
      L.identity (L.credential kp) ∈ clients ∧ L.hashRef kp = .ok r := by
  obtain ⟨hselected, hrefs⟩ := Except.mapM_eq_ok h
  refine ⟨fun kp hkp hc => ?_, fun r hr => ?_⟩
  · obtain ⟨r, hr, hf⟩ := hselected kp (List.mem_filter.2 ⟨hkp, by simpa using hc⟩)
    exact ⟨r, hr, Except.mapError_eq_ok hf⟩
  · obtain ⟨kp, hkp, hf⟩ := hrefs r hr
    obtain ⟨hkp, hc⟩ := List.mem_filter.1 hkp
    exact ⟨kp, hkp, by simpa using hc, Except.mapError_eq_ok hf⟩

/-- Under injective refs, the leaves the removal law keeps are, up to order, the leaves whose
identity is not listed: a leaf with a listed ref is the leaf of that ref, which was selected for
its identity, and a leaf with a listed identity had its ref selected. -/
theorem kept_perm_unlisted (hinj : L.HashRefInjective) {clients : List ClientId}
    {s : L.GroupState} {refs : List L.KeyPackageRef} (hrefs : memberRefsOf clients s = .ok refs)
    {removed kept : List L.KeyPackage} (hperm : (L.members s).Perm (removed ++ kept))
    (hremoved : ∀ kp ∈ removed, ∃ r ∈ refs, L.hashRef kp = .ok r)
    (hkept : ∀ kp ∈ kept, ∀ r, L.hashRef kp = .ok r → r ∉ refs) :
    ((L.members s).filter fun kp => L.identity (L.credential kp) ∉ clients).Perm kept := by
  obtain ⟨hlisted, hselected⟩ := memberRefsOf_eq_ok hrefs
  have hnone : removed.filter (fun kp => L.identity (L.credential kp) ∉ clients) = [] :=
    List.filter_eq_nil_iff.2 fun kp hkp => by
      obtain ⟨r, hr, hkr⟩ := hremoved kp hkp
      obtain ⟨kp', -, hc, hkr'⟩ := hselected r hr
      simpa [hinj kp' kp r hkr' hkr] using hc
  have hall : kept.filter (fun kp => L.identity (L.credential kp) ∉ clients) = kept :=
    List.filter_eq_self.2 fun kp hkp => by
      have hmem := hperm.symm.subset (List.mem_append_right removed hkp)
      simpa using fun hc =>
        let ⟨r, hr, hkr⟩ := hlisted kp hmem hc
        hkept kp hkp r hkr hr
  have h := hperm.filter fun kp => decide (L.identity (L.credential kp) ∉ clients)
  rwa [List.filter_append, hnone, hall, List.nil_append] at h

/-- Under the openmls laws that a merged removal keeps the credentials of the leaves whose ref
is not listed and that distinct key packages have distinct refs, a `remove_members` on a group
without pending proposals that returns `Ok` leaves, up to order, exactly the credentials of the
previous leaves whose identity is not a listed client. -/
theorem removeMembers_leaves (hremove : L.RemoveKeepsUnlistedCredentials)
    (hinj : L.HashRefInjective) {members : List (ConversationMember L)} {answer : KeystoreAnswer}
    {w w' : World L} {message : L.MlsMessageOut} (hidle : L.pendingProposals w.1.group.state = [])
    (h : removeMembers members answer w = (w', .ok message)) :
    ((L.members w'.1.group.state).map L.credential).Perm
      (((L.members w.1.group.state).filter fun kp =>
        L.identity (L.credential kp) ∉ members.flatMap ConversationMember.clients).map L.credential) := by
  obtain ⟨refs, s₁, wl, s₂, buf, hrefs, hrm, hm, -, -, rfl⟩ := removeMembers_eq_ok h
  obtain ⟨removed, kept, hperm, hremoved, hkept, hcred⟩ := hremove _ _ _ _ _ _ hidle hrm hm
  exact hcred.trans ((kept_perm_unlisted hinj hrefs hperm hremoved hkept).map _).symm

/-! ## The `members()` map -/

/-- The credentials of the leaves whose identity is `memberId`, in leaf order. -/
def credentialsOf (leaves : List L.KeyPackage) (memberId : MemberId) : List L.Credential :=
  (leaves.filter fun kp => L.identity (L.credential kp) = memberId).map L.credential

@[simp] theorem credentialsOf_append (leaves leaves' : List L.KeyPackage) (memberId : MemberId) :
    credentialsOf (leaves ++ leaves') memberId =
      credentialsOf leaves memberId ++ credentialsOf leaves' memberId := by
  simp only [credentialsOf, List.filter_append, List.map_append]

theorem credentialsOf_cons (kp : L.KeyPackage) (leaves : List L.KeyPackage) (memberId : MemberId) :
    credentialsOf (kp :: leaves) memberId =
      if L.identity (L.credential kp) = memberId then L.credential kp :: credentialsOf leaves memberId
      else credentialsOf leaves memberId := by
  unfold credentialsOf
  split <;> simp [List.filter_cons, *]

/-- The `try_fold` of `members()` from any map: under each member id, what was there, then the
credentials of that identity's leaves in order; no entry when there was none and no leaf has
that identity. -/
theorem lookup_foldl_members (leaves : List L.KeyPackage)
    (acc : AList fun _ : MemberId => List L.Credential) (memberId : MemberId) :
    (leaves.foldl (fun acc kp =>
        let memberId := L.identity (L.credential kp)
        acc.insert memberId ((acc.lookup memberId).getD [] ++ [L.credential kp])) acc).lookup memberId =
      if (acc.lookup memberId).isNone && (credentialsOf leaves memberId).isEmpty then none
      else some ((acc.lookup memberId).getD [] ++ credentialsOf leaves memberId) := by
  induction leaves generalizing acc with
  | nil => cases h : acc.lookup memberId <;> simp [h, credentialsOf]
  | cons kp leaves ih =>
    rw [List.foldl_cons, ih, credentialsOf_cons]
    by_cases hid : L.identity (L.credential kp) = memberId
    · subst hid
      simp [AList.lookup_insert]
    · rw [AList.lookup_insert_ne (Ne.symm hid), if_neg hid]

/-- **`members()`.** For every conversation and every member id, `members()` lists under the
id the credentials of exactly the leaves whose identity is that id, in leaf order, and has no
entry for an id no leaf has. -/
theorem members_lookup (c : MlsConversation L) (memberId : MemberId) :
    c.members.lookup memberId =
      if (credentialsOf (L.members c.group.state) memberId).isEmpty then none
      else some (credentialsOf (L.members c.group.state) memberId) := by
  have h := lookup_foldl_members (L.members c.group.state) ∅ memberId
  simpa using h

theorem members_lookup_getD (c : MlsConversation L) (memberId : MemberId) :
    (c.members.lookup memberId).getD [] = credentialsOf (L.members c.group.state) memberId := by
  have h := lookup_foldl_members (L.members c.group.state) ∅ memberId
  rw [members, h]
  split <;> simp_all

/-- `credentialsOf` reads the leaves' credentials only. -/
theorem credentialsOf_eq_filter (leaves : List L.KeyPackage) (memberId : MemberId) :
    credentialsOf leaves memberId =
      (leaves.map L.credential).filter fun c => L.identity c = memberId := by
  rw [credentialsOf, List.filter_map]
  rfl

/-- Leaves with the same credentials up to order list the same credentials up to order under
every id. -/
theorem credentialsOf_perm {leaves leaves' : List L.KeyPackage}
    (h : (leaves.map L.credential).Perm (leaves'.map L.credential)) (memberId : MemberId) :
    (credentialsOf leaves memberId).Perm (credentialsOf leaves' memberId) := by
  rw [credentialsOf_eq_filter, credentialsOf_eq_filter]
  exact h.filter _

/-- Dropping the leaves of the listed identities drops every credential listed under them and
no other. -/
theorem credentialsOf_filter_unlisted (leaves : List L.KeyPackage) (clients : List ClientId)
    (memberId : MemberId) :
    credentialsOf (leaves.filter fun kp => L.identity (L.credential kp) ∉ clients) memberId =
      if memberId ∈ clients then [] else credentialsOf leaves memberId := by
  unfold credentialsOf
  rw [List.filter_filter]
  split
  · simp only [List.map_eq_nil_iff, List.filter_eq_nil_iff, Bool.and_eq_true, decide_eq_true_eq]
    rintro kp - ⟨rfl, hnot⟩
    exact hnot ‹_›
  · congr 1
    refine List.filter_congr fun kp _ => ?_
    by_cases hid : L.identity (L.credential kp) = memberId
    · simp [hid, ‹memberId ∉ clients›]
    · simp [hid]

/-- **`members()` after an addition.** Under the openmls law that a merged add commit adds its
credentials, after an `add_members` on a group without pending proposals that returns `Ok`, every
member id lists, up to order, the credentials it listed before and those of the added key
packages of that identity. -/
theorem addMembers_members (hadd : L.AddAddsCredentials)
    {members : List (ConversationMember L)} {answer : KeystoreAnswer} {w w' : World L}
    {r : MlsConversationCreationMessage L} (hidle : L.pendingProposals w.1.group.state = [])
    (h : addMembers members answer w = (w', .ok r)) (memberId : MemberId) :
    ((w'.1.members.lookup memberId).getD []).Perm
      ((w.1.members.lookup memberId).getD [] ++ credentialsOf (keypackagesOf members) memberId) := by
  obtain ⟨s₁, s₂, buf, ha, hm, -, -, rfl⟩ := addMembers_eq_ok h
  rw [members_lookup_getD, members_lookup_getD, ← credentialsOf_append]
  refine credentialsOf_perm ?_ memberId
  rw [List.map_append]
  exact hadd _ _ _ _ _ _ hidle ha hm

/-- **`members()` after a removal.** Under the openmls laws of `removeMembers_leaves`, after a
`remove_members` on a group without pending proposals that returns `Ok`, `members()` has no
entry for any listed client, and every other member id lists the same credentials as before, up
to order. -/
theorem removeMembers_members (hremove : L.RemoveKeepsUnlistedCredentials)
    (hinj : L.HashRefInjective) {members : List (ConversationMember L)} {answer : KeystoreAnswer}
    {w w' : World L} {message : L.MlsMessageOut} (hidle : L.pendingProposals w.1.group.state = [])
    (h : removeMembers members answer w = (w', .ok message)) (memberId : MemberId) :
    (memberId ∈ members.flatMap ConversationMember.clients → w'.1.members.lookup memberId = none) ∧
    (memberId ∉ members.flatMap ConversationMember.clients →
      ((w'.1.members.lookup memberId).getD []).Perm ((w.1.members.lookup memberId).getD [])) := by
  obtain ⟨refs, s₁, wl, s₂, buf, hrefs, hrm, hm, -, -, rfl⟩ := removeMembers_eq_ok h
  obtain ⟨removed, kept, hperm, hremoved, hkept, hcred⟩ := hremove _ _ _ _ _ _ hidle hrm hm
  have hleaves := credentialsOf_perm
    (hcred.trans ((kept_perm_unlisted hinj hrefs hperm hremoved hkept).map _).symm) memberId
  rw [credentialsOf_filter_unlisted] at hleaves
  refine ⟨fun hlisted => ?_, fun hunlisted => ?_⟩
  · rw [if_pos hlisted] at hleaves
    rw [members_lookup, if_pos (List.isEmpty_iff.2 hleaves.eq_nil)]
  · rw [if_neg hunlisted] at hleaves
    rw [members_lookup_getD, members_lookup_getD]
    exact hleaves

end MlsConversation

/-! ## On `rosterLib` -/

/-- The conversation `[1]` of the two leaves `[1]` and `[2]`, as `create` leaves it for the
creator `[1]` with `[2]` as extra member. -/
def pairConversation : MlsConversation rosterLib × Keystore :=
  (⟨[1], ⟨([[1], [2]], none), .persisted⟩, [], { extraMembers := [⟨[([2], some [2])]⟩] }⟩,
    ⟨AList.insert [1] [1, 2] ∅, ∅, [], ∅, ∅⟩)

example :
    MlsConversation.create [1] (.ok [1])
        { extraMembers := [⟨[([2], some ([2] : ClientId))]⟩] } (.ok ()) Keystore.empty =
      (pairConversation.2, .ok (pairConversation.1, some ⟨(), ()⟩)) := rfl

/-- A member whose only client `[5]` has no key package changes nothing in an addition. -/
theorem addMembers_pair_ignores_client_without_keypackage :
    (∀ m ∈ [(⟨[([5], none)]⟩ : ConversationMember rosterLib)],
      ∀ e ∈ m.keypackagesForAllClients, e.2 = none) ∧
    MlsConversation.addMembers [⟨[([6], some ([6] : ClientId))]⟩, ⟨[([5], none)]⟩] (.ok ())
        pairConversation =
      MlsConversation.addMembers [⟨[([6], some ([6] : ClientId))]⟩] (.ok ()) pairConversation :=
  ⟨by simp, @MlsConversation.addMembers_append_without rosterLib
    [⟨[([6], some ([6] : ClientId))]⟩] [⟨[([5], none)]⟩] (.ok ()) pairConversation (by simp)⟩

/-- Adding a member with the clients `[5]` (no key package) and `[6]` to the created pair,
or creating the conversation with it as extra member, returns `Ok` with one leaf more, not
two: `[5]` is no leaf. -/
theorem add_client_without_keypackage_skipped :
    (∃ (c : MlsConversation rosterLib) (ks : Keystore) (w' : World rosterLib)
      (message : MlsConversationCreationMessage rosterLib),
      MlsConversation.create [1] (.ok [1])
          { extraMembers := [⟨[([2], some ([2] : ClientId))]⟩] } (.ok ()) Keystore.empty =
        (ks, .ok (c, some ⟨(), ()⟩)) ∧
      MlsConversation.addMembers [⟨[([5], none), ([6], some ([6] : ClientId))]⟩] (.ok ())
          (c, ks) = (w', .ok message) ∧
      rosterLib.members w'.1.group.state = [[1], [2], [6]]) ∧
    ∃ (c : MlsConversation rosterLib) (ks : Keystore)
      (message : Option (MlsConversationCreationMessage rosterLib)),
      MlsConversation.create [1] (.ok [1])
          { extraMembers := [⟨[([5], none), ([6], some ([6] : ClientId))]⟩] } (.ok ())
          Keystore.empty = (ks, .ok (c, message)) ∧
      rosterLib.members c.group.state = [[1], [6]] :=
  ⟨⟨_, _, _, _, rfl, rfl, rfl⟩, _, _, _, rfl, rfl⟩

theorem rosterLib_removeKeepsUnlistedCredentials : rosterLib.RemoveKeepsUnlistedCredentials := by
  intro s refs s₁ m w s₂ _ h1 h2
  simp only [rosterLib] at h1
  split at h1 <;> cases h1
  cases h2
  refine ⟨_, _, (List.filter_append_perm (fun leaf => @List.contains ClientId _ refs leaf) s.1).symm,
    fun kp hkp => ⟨kp, ?_, rfl⟩, fun kp hkp r hr => ?_, .refl _⟩
  · simpa using (List.mem_filter.1 hkp).2
  · cases hr
    simpa using (List.mem_filter.1 hkp).2

theorem rosterLib_hashRefInjective : rosterLib.HashRefInjective := by
  intro kp kp' r h h'
  cases h
  cases h'
  rfl

theorem rosterLib_addAddsCredentials : rosterLib.AddAddsCredentials := by
  intro s kps s₁ m w s₂ _ h1 h2
  simp only [rosterLib] at h1
  split at h1 <;> cases h1
  cases h2
  exact .of_eq (List.map_append _ _ _)

/-- Adding a member with the clients `[5]` (no key package) and `[6]` to the pair adds the one
leaf `[6]`. -/
theorem addMembers_pair_leaves :
    rosterLib.AddAddsCredentials ∧ rosterLib.pendingProposals pairConversation.1.group.state = [] ∧
    ∃ (w' : World rosterLib) (r : MlsConversationCreationMessage rosterLib),
      MlsConversation.addMembers [⟨[([5], none), ([6], some ([6] : ClientId))]⟩] (.ok ())
          pairConversation = (w', .ok r) ∧
      ((rosterLib.members w'.1.group.state).map rosterLib.credential).Perm
        ((rosterLib.members pairConversation.1.group.state).map rosterLib.credential ++
          (MlsConversation.keypackagesOf
            [⟨[([5], none), ([6], some ([6] : ClientId))]⟩]).map rosterLib.credential) ∧
      (rosterLib.members w'.1.group.state).length =
        (rosterLib.members pairConversation.1.group.state).length +
        (([⟨[([5], none), ([6], some ([6] : ClientId))]⟩] : List (ConversationMember rosterLib)).flatMap
          ConversationMember.keypackagesForAllClients).countP (·.2.isSome) :=
  have h : MlsConversation.addMembers [⟨[([5], none), ([6], some ([6] : ClientId))]⟩] (.ok ())
      pairConversation = (_, .ok _) := rfl
  ⟨rosterLib_addAddsCredentials, rfl, _, _, h,
    MlsConversation.addMembers_leaves rosterLib_addAddsCredentials rfl h⟩

/-- Removing the member of client `[2]` from the pair leaves exactly the credential `[1]`. -/
theorem removeMembers_pair_leaves :
    rosterLib.RemoveKeepsUnlistedCredentials ∧ rosterLib.HashRefInjective ∧
    rosterLib.pendingProposals pairConversation.1.group.state = [] ∧
    ∃ (w' : World rosterLib) (message : rosterLib.MlsMessageOut),
      MlsConversation.removeMembers [⟨[([2], none)]⟩] (.ok ()) pairConversation =
        (w', .ok message) ∧
      ((rosterLib.members w'.1.group.state).map rosterLib.credential).Perm
        (((rosterLib.members pairConversation.1.group.state).filter fun kp =>
          rosterLib.identity (rosterLib.credential kp) ∉
            ([⟨[([2], none)]⟩] : List (ConversationMember rosterLib)).flatMap
              ConversationMember.clients).map rosterLib.credential) :=
  have h : MlsConversation.removeMembers [⟨[([2], none)]⟩] (.ok ()) pairConversation =
      (_, .ok ()) := rfl
  ⟨rosterLib_removeKeepsUnlistedCredentials, rosterLib_hashRefInjective, rfl, _, _, h,
    MlsConversation.removeMembers_leaves rosterLib_removeKeepsUnlistedCredentials
      rosterLib_hashRefInjective rfl h⟩

/-- Adding a member with the clients `[5]` (no key package) and `[6]` to the pair lists the
credential of `[6]` under `[6]`, with what was there. -/
theorem addMembers_pair_members :
    rosterLib.AddAddsCredentials ∧ rosterLib.pendingProposals pairConversation.1.group.state = [] ∧
    ∃ (w' : World rosterLib) (r : MlsConversationCreationMessage rosterLib),
      MlsConversation.addMembers [⟨[([5], none), ([6], some ([6] : ClientId))]⟩] (.ok ())
          pairConversation = (w', .ok r) ∧
      ((w'.1.members.lookup [6]).getD []).Perm ((pairConversation.1.members.lookup [6]).getD [] ++
        MlsConversation.credentialsOf
          (MlsConversation.keypackagesOf [⟨[([5], none), ([6], some ([6] : ClientId))]⟩]) [6]) :=
  have h : MlsConversation.addMembers [⟨[([5], none), ([6], some ([6] : ClientId))]⟩] (.ok ())
      pairConversation = (_, .ok _) := rfl
  ⟨rosterLib_addAddsCredentials, rfl, _, _, h,
    MlsConversation.addMembers_members rosterLib_addAddsCredentials rfl h [6]⟩

/-- Removing the member of client `[2]` from the pair leaves no entry under `[2]` in
`members()`, and the entry of `[1]` as it was. -/
theorem removeMembers_pair_members :
    rosterLib.RemoveKeepsUnlistedCredentials ∧ rosterLib.HashRefInjective ∧
    rosterLib.pendingProposals pairConversation.1.group.state = [] ∧
    ∃ (w' : World rosterLib) (message : rosterLib.MlsMessageOut),
      MlsConversation.removeMembers [⟨[([2], none)]⟩] (.ok ()) pairConversation =
        (w', .ok message) ∧
      ([2] ∈ ([⟨[([2], none)]⟩] : List (ConversationMember rosterLib)).flatMap
          ConversationMember.clients → w'.1.members.lookup [2] = none) ∧
      ([2] ∉ ([⟨[([2], none)]⟩] : List (ConversationMember rosterLib)).flatMap
          ConversationMember.clients →
        ((w'.1.members.lookup [2]).getD []).Perm ((pairConversation.1.members.lookup [2]).getD [])) :=
  have h : MlsConversation.removeMembers [⟨[([2], none)]⟩] (.ok ()) pairConversation =
      (_, .ok ()) := rfl
  ⟨rosterLib_removeKeepsUnlistedCredentials, rosterLib_hashRefInjective, rfl, _, _, h,
    MlsConversation.removeMembers_members rosterLib_removeKeepsUnlistedCredentials
      rosterLib_hashRefInjective rfl h [2]⟩

end CoreCrypto
