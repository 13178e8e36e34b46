import CoreCrypto.Basic

/-!
# `ConversationMember` (`member.rs`)

A member hands out key packages from a stack of bundles. `keypackage_hash` pops the top
bundle and returns its key package's hash; on an empty stack it first runs `gen_keypackage`,
which builds a bundle, stores it under its hash and pushes it, and then calls itself again.
openmls's `KeyPackageBundle` stays abstract: `Bundle` is its type and `hash` is
`kpb.key_package().hash(backend)`. The bundle `KeyPackageBundle::new` draws and the key
store's answer are arguments of each call.

* `keypackageHash_eq_body_body`: the recursion is at most one level deep. Unrolled twice,
  `keypackage_hash` never reaches its innermost call.
* `keypackageHash_bundles`: every call, whatever it returns, leaves the tail of the stack.
  So a member built by `new` or `generate` never holds more than one bundle
  (`Reachable.bundles_length_le_one`).
* `keypackageHashes_eq_ok`: over `n` calls in which generation and storage succeed and the
  bundles already held hash, every call returns `Ok`. The hashes are those of `n` bundles
  taken in order from the held ones and then the generated ones.
* `keypackageHashes_hand_out_distinct`: a member the code builds (`Generated`) holds only
  bundles that hash. With fresh draws, the `n` bundles handed out are pairwise distinct and
  none of them is left on the stack.
-/

namespace CoreCrypto

namespace Member

/-- `ConversationMember` by the field its key-package methods use: the `keypackage_bundles`
stack, its top (the `Vec`'s last element) at the head. -/
structure ConversationMember (Bundle : Type) where
  keypackageBundles : List Bundle

/-- The answer of `backend.key_store().store(..)`: an `eyre` message on failure. -/
abbrev StoreAnswer : Type := Except String Unit

namespace ConversationMember

variable {Bundle : Type} (hash : Bundle → Except MlsError Bytes)

/-- `ConversationMember::new`: the stack holds the given bundle. -/
def new (kpb : Bundle) : ConversationMember Bundle := ⟨[kpb]⟩

/-- `ConversationMember::gen_keypackage`, given the bundle `KeyPackageBundle::new` returned and
the key store's answer: the bundle is stored under its key package's hash, then pushed. -/
def genKeypackage (drawn : Except MlsError Bundle) (stored : StoreAnswer) :
    Mut (ConversationMember Bundle) Unit := do
  let kpb ← Mut.lift (drawn.mapError .mlsError)
  let _ ← Mut.lift ((hash kpb).mapError .mlsError)
  Mut.lift (stored.mapError .other)
  Mut.modify fun m => ⟨kpb :: m.keypackageBundles⟩

/-- `ConversationMember::generate`: an empty stack, then `gen_keypackage`. -/
def generate (drawn : Except MlsError Bundle) (stored : StoreAnswer) :
    Except CryptoError (ConversationMember Bundle) :=
  match genKeypackage hash drawn stored ⟨[]⟩ with
  | (m, .ok ()) => .ok m
  | (_, .error e) => .error e

theorem genKeypackage_eq_ok {drawn : Except MlsError Bundle} {stored : StoreAnswer}
    {m m' : ConversationMember Bundle} {u : Unit}
    (h : genKeypackage hash drawn stored m = (m', .ok u)) :
    ∃ kpb hkp, drawn = .ok kpb ∧ hash kpb = .ok hkp ∧ stored = .ok () ∧
      m' = ⟨kpb :: m.keypackageBundles⟩ := by
  obtain ⟨kpb, hd, h⟩ := Mut.lift_bind_eq_ok h
  obtain ⟨hkp, hh, h⟩ := Mut.lift_bind_eq_ok h
  obtain ⟨u', hs, h⟩ := Mut.lift_bind_eq_ok h
  cases h
  exact ⟨kpb, hkp, Except.mapError_eq_ok hd, Except.mapError_eq_ok hh,
    Except.mapError_eq_ok hs, rfl⟩

/-- A failed `gen_keypackage` pushes nothing: the push is its last step. -/
theorem genKeypackage_eq_error {drawn : Except MlsError Bundle} {stored : StoreAnswer}
    {m m' : ConversationMember Bundle} {e : CryptoError}
    (h : genKeypackage hash drawn stored m = (m', .error e)) : m' = m := by
  rcases Mut.lift_bind_eq_error h with ⟨rfl, -⟩ | ⟨_, -, h⟩
  · rfl
  rcases Mut.lift_bind_eq_error h with ⟨rfl, -⟩ | ⟨_, -, h⟩
  · rfl
  rcases Mut.lift_bind_eq_error h with ⟨rfl, -⟩ | ⟨_, -, h⟩
  · rfl
  cases h

/-- A member `generate` builds holds one bundle, and its key package hashes. -/
theorem generate_eq_ok {drawn : Except MlsError Bundle} {stored : StoreAnswer}
    {m : ConversationMember Bundle} (h : generate hash drawn stored = .ok m) :
    ∃ kpb hkp, hash kpb = .ok hkp ∧ m = ⟨[kpb]⟩ := by
  rcases hg : genKeypackage hash drawn stored ⟨[]⟩ with ⟨m', _ | ⟨⟨⟩⟩⟩ <;>
    rw [generate, hg] at h <;> cases h
  obtain ⟨kpb, hkp, -, hh, -, rfl⟩ := genKeypackage_eq_ok hash hg
  exact ⟨kpb, hkp, hh, rfl⟩

/-- `ConversationMember::keypackage_hash`, given the bundle and store answer that
`gen_keypackage` would get. The recursive call runs on the stack `gen_keypackage` has just
pushed to. -/
def keypackageHash (drawn : Except MlsError Bundle) (stored : StoreAnswer) :
    Mut (ConversationMember Bundle) Bytes := fun m =>
  match _hm : m.keypackageBundles with
  | kpb :: rest => (⟨rest⟩, (hash kpb).mapError .mlsError)
  | [] =>
    match _hg : genKeypackage hash drawn stored m with
    | (m', .ok ()) => keypackageHash drawn stored m'
    | (m', .error e) => (m', .error e)
termination_by m => if m.keypackageBundles.isEmpty then 1 else 0
decreasing_by
  obtain ⟨kpb, -, -, -, -, rfl⟩ := genKeypackage_eq_ok hash _hg
  simp [_hm]

@[simp] theorem keypackageHash_cons (drawn : Except MlsError Bundle) (stored : StoreAnswer)
    (kpb : Bundle) (rest : List Bundle) :
    keypackageHash hash drawn stored ⟨kpb :: rest⟩ = (⟨rest⟩, (hash kpb).mapError .mlsError) := by
  rw [keypackageHash]

theorem keypackageHash_nil (drawn : Except MlsError Bundle) (stored : StoreAnswer) :
    keypackageHash hash drawn stored ⟨[]⟩ =
      match genKeypackage hash drawn stored ⟨[]⟩ with
      | (m', .ok ()) => keypackageHash hash drawn stored m'
      | (m', .error e) => (m', .error e) := by
  rw [keypackageHash]
  split
  · simp_all
  · split <;> simp_all

/-- `keypackage_hash` with its recursive call replaced by `k`. -/
def keypackageHashBody (drawn : Except MlsError Bundle) (stored : StoreAnswer)
    (k : Mut (ConversationMember Bundle) Bytes) : Mut (ConversationMember Bundle) Bytes :=
  fun m =>
    match m.keypackageBundles with
    | kpb :: rest => (⟨rest⟩, (hash kpb).mapError .mlsError)
    | [] => (genKeypackage hash drawn stored >>= fun _ => k) m

/-- **At most one recursion.** `keypackage_hash` is its body unrolled twice, whatever the
innermost call `k` would do: the recursive call always pops the bundle just generated. -/
theorem keypackageHash_eq_body_body (drawn : Except MlsError Bundle) (stored : StoreAnswer)
    (k : Mut (ConversationMember Bundle) Bytes) :
    keypackageHash hash drawn stored =
      keypackageHashBody hash drawn stored (keypackageHashBody hash drawn stored k) := by
  funext m
  rcases m with ⟨_ | ⟨kpb, rest⟩⟩
  · simp only [keypackageHash_nil, keypackageHashBody, Mut.bind_apply]
    rcases hg : genKeypackage hash drawn stored ⟨[]⟩ with ⟨m', _ | ⟨⟨⟩⟩⟩
    · rfl
    · obtain ⟨kpb, -, -, -, -, rfl⟩ := genKeypackage_eq_ok hash hg
      simp
  · simp [keypackageHashBody]

/-- **Step lemma.** Every call, whatever it returns, leaves the tail of the stack. -/
theorem keypackageHash_bundles (drawn : Except MlsError Bundle) (stored : StoreAnswer)
    (m : ConversationMember Bundle) :
    (keypackageHash hash drawn stored m).1.keypackageBundles = m.keypackageBundles.tail := by
  rcases m with ⟨_ | ⟨kpb, rest⟩⟩
  · rw [keypackageHash_nil]
    rcases hg : genKeypackage hash drawn stored ⟨[]⟩ with ⟨m', _ | ⟨⟨⟩⟩⟩
    · rw [genKeypackage_eq_error hash hg]
      rfl
    · obtain ⟨kpb, -, -, -, -, rfl⟩ := genKeypackage_eq_ok hash hg
      simp
  · simp

/-- A call on a stack whose top hashes, or on an empty stack when the generation and storage
succeed, returns `Ok` with the hash of the bundle it pops: the top, or the generated one. -/
theorem keypackageHash_eq_ok {kpb : Bundle} {hkp : Bytes} (hd : hash kpb = .ok hkp)
    (m : ConversationMember Bundle)
    (hheld : ∀ b ∈ m.keypackageBundles.head?, ∃ h, hash b = .ok h) :
    ∃ h, keypackageHash hash (.ok kpb) (.ok ()) m = (⟨m.keypackageBundles.tail⟩, .ok h) ∧
      hash (m.keypackageBundles.headD kpb) = .ok h := by
  rcases m with ⟨_ | ⟨b, rest⟩⟩
  · have hg : genKeypackage hash (.ok kpb) (.ok ()) ⟨[]⟩ = (⟨[kpb]⟩, .ok ()) := by
      simp [genKeypackage, hd, Except.mapError]
    refine ⟨hkp, ?_, hd⟩
    simp [keypackageHash_nil, hg, hd, Except.mapError]
  · obtain ⟨h, hb⟩ := hheld b rfl
    exact ⟨h, by simp [hb, Except.mapError], hb⟩

/-! ## Consecutive calls -/

/-- Consecutive calls of `keypackage_hash`, each given the bundle and store answer its
generation would get; the first error ends the run. -/
def keypackageHashes :
    List (Except MlsError Bundle × StoreAnswer) → Mut (ConversationMember Bundle) (List Bytes)
  | [] => pure []
  | (drawn, stored) :: calls => do
    let h ← keypackageHash hash drawn stored
    let hs ← keypackageHashes calls
    pure (h :: hs)

/-- **Run lemma.** Over calls in which generation and storage succeed, from a stack whose
bundles hash, every call returns `Ok`. The calls hand out, in order, bundles that together with
the stack left afterwards form a sublist of the held bundles followed by the drawn ones. -/
theorem keypackageHashes_eq_ok (m : ConversationMember Bundle) (drawn : List Bundle)
    (stored : List StoreAnswer) (hlen : drawn.length = stored.length)
    (hgen : ∀ kpb ∈ drawn, ∃ h, hash kpb = .ok h) (hstored : ∀ s ∈ stored, s = .ok ())
    (hheld : ∀ kpb ∈ m.keypackageBundles, ∃ h, hash kpb = .ok h) :
    ∃ m' handed hashes,
      keypackageHashes hash ((drawn.map .ok).zip stored) m = (m', .ok hashes) ∧
      handed.length = drawn.length ∧ handed.mapM hash = .ok hashes ∧
      (handed ++ m'.keypackageBundles).Sublist (m.keypackageBundles ++ drawn) := by
  induction drawn generalizing m stored with
  | nil => exact ⟨m, [], [], rfl, rfl, rfl, by simp⟩
  | cons kpb drawn ih =>
    obtain _ | ⟨s, stored⟩ := stored
    · cases hlen
    obtain ⟨hkp, hd⟩ := hgen kpb (List.mem_cons_self _ _)
    obtain ⟨h, hcall, hb⟩ := keypackageHash_eq_ok hash hd m fun b hb =>
      hheld b (List.mem_of_mem_head? hb)
    obtain ⟨m', handed, hashes, hrun, hlen', hmap, hsub⟩ :=
      ih ⟨m.keypackageBundles.tail⟩ stored (Nat.succ.inj hlen)
        (fun b hb => hgen b (List.mem_cons_of_mem _ hb))
        (fun s hs => hstored s (List.mem_cons_of_mem _ hs))
        (fun b hb => hheld b (List.mem_of_mem_tail hb))
    refine ⟨m', m.keypackageBundles.headD kpb :: handed, h :: hashes, ?_, by simp [hlen'],
      by rw [List.mapM_cons, hb, hmap]; rfl, ?_⟩
    · rw [hstored s (List.mem_cons_self _ _), List.map_cons, List.zip_cons_cons]
      simp only [keypackageHashes, Mut.bind_apply, hcall, hrun, Mut.pure_apply]
    · -- the bundle handed out is the held top, or the drawn one
      rcases m with ⟨_ | ⟨c, rest⟩⟩
      · exact hsub.cons₂ kpb
      · exact (hsub.trans ((List.Sublist.refl rest).append
          (List.sublist_cons_self kpb drawn))).cons₂ c

/-! ## Reachable members -/

/-- The members `new` and `generate` build, and what calls of `keypackage_hash` leave. -/
inductive Reachable : ConversationMember Bundle → Prop
  | new (kpb : Bundle) : Reachable (new kpb)
  | generate {drawn : Except MlsError Bundle} {stored : StoreAnswer}
      {m : ConversationMember Bundle} : generate hash drawn stored = .ok m → Reachable m
  | keypackageHash {m : ConversationMember Bundle} (drawn : Except MlsError Bundle)
      (stored : StoreAnswer) : Reachable m → Reachable (keypackageHash hash drawn stored m).1

/-- Every reachable member holds at most one bundle. -/
theorem Reachable.bundles_length_le_one {m : ConversationMember Bundle} (hm : Reachable hash m) :
    m.keypackageBundles.length ≤ 1 := by
  induction hm with
  | new kpb => rfl
  | generate h =>
    obtain ⟨kpb, -, -, rfl⟩ := generate_eq_ok hash h
    rfl
  | keypackageHash drawn stored _ ih =>
    rw [keypackageHash_bundles, List.length_tail]
    omega

/-- The members the code builds: `new` has no caller, so a member comes from `generate` and
the calls of `keypackage_hash` made on it since. -/
inductive Generated : ConversationMember Bundle → Prop
  | generate {drawn : Except MlsError Bundle} {stored : StoreAnswer}
      {m : ConversationMember Bundle} : generate hash drawn stored = .ok m → Generated m
  | keypackageHash {m : ConversationMember Bundle} (drawn : Except MlsError Bundle)
      (stored : StoreAnswer) : Generated m → Generated (keypackageHash hash drawn stored m).1

/-- Every bundle a member the code builds holds has a hash: `gen_keypackage` hashes a bundle
before it pushes it, and `keypackage_hash` only pops. -/
theorem Generated.held_hash {m : ConversationMember Bundle} (hm : Generated hash m) :
    ∀ kpb ∈ m.keypackageBundles, ∃ h, hash kpb = .ok h := by
  induction hm with
  | generate h =>
    obtain ⟨kpb, hkp, hh, rfl⟩ := generate_eq_ok hash h
    simpa using ⟨hkp, hh⟩
  | keypackageHash drawn stored _ ih =>
    rw [keypackageHash_bundles]
    exact fun b hb => ih b (List.mem_of_mem_tail hb)

/-- **Handed-out bundles.** From a member the code builds, over `n` calls in which generation
and storage succeed, every call returns `Ok` and recurses at most once, and the hashes
returned are those of `n` bundles. `KeyPackageBundle::new` draws fresh key material, so the
drawn bundles are distinct from each other and from the held one; then the `n` bundles are
pairwise distinct and none of them is left on the stack. -/
theorem keypackageHashes_hand_out_distinct {m : ConversationMember Bundle}
    (hm : Generated hash m) (drawn : List Bundle) (stored : List StoreAnswer)
    (hlen : drawn.length = stored.length) (hgen : ∀ kpb ∈ drawn, ∃ h, hash kpb = .ok h)
    (hstored : ∀ s ∈ stored, s = .ok ()) (hfresh : (m.keypackageBundles ++ drawn).Nodup) :
    (∀ d s k, keypackageHash hash d s =
      keypackageHashBody hash d s (keypackageHashBody hash d s k)) ∧
    ∃ (m' : ConversationMember Bundle) (handed : List Bundle) (hashes : List Bytes),
      keypackageHashes hash ((drawn.map .ok).zip stored) m = (m', .ok hashes) ∧
      handed.length = drawn.length ∧ handed.mapM hash = .ok hashes ∧
      handed.Nodup ∧ ∀ kpb ∈ handed, kpb ∉ m'.keypackageBundles := by
  obtain ⟨m', handed, hashes, hrun, hlen', hmap, hsub⟩ :=
    keypackageHashes_eq_ok hash m drawn stored hlen hgen hstored (hm.held_hash hash)
  have hdisj := List.nodup_append.1 (hsub.nodup hfresh)
  exact ⟨keypackageHash_eq_body_body hash, m', handed, hashes, hrun, hlen', hmap, hdisj.1,
    fun kpb hk hk' => hdisj.2.2 hk hk'⟩

end ConversationMember

/-- A hash that fails on the bundle `0`. -/
def hashNonzero (kpb : Nat) : Except MlsError Bytes :=
  if kpb = 0 then .error (.openMls "unsupported ciphersuite") else .ok [kpb.toUInt8]

/-- A member `generate` builds with the bundle `5`, then two calls: the first hands out `5`,
the second generates and hands out `7`; the bundle `6` drawn for the first is not used. -/
theorem generated_member_hands_out_distinct :
    ConversationMember.Generated hashNonzero ⟨[5]⟩ ∧
    [6, 7].length = ([.ok (), .ok ()] : List StoreAnswer).length ∧
    (∀ kpb ∈ [6, 7], ∃ h, hashNonzero kpb = .ok h) ∧
    (∀ s ∈ ([.ok (), .ok ()] : List StoreAnswer), s = .ok ()) ∧ ([5] ++ [6, 7]).Nodup ∧
    (∀ d s k, ConversationMember.keypackageHash hashNonzero d s =
      ConversationMember.keypackageHashBody hashNonzero d s
        (ConversationMember.keypackageHashBody hashNonzero d s k)) ∧
    ∃ (m' : ConversationMember Nat) (handed : List Nat) (hashes : List Bytes),
      ConversationMember.keypackageHashes hashNonzero
          (([6, 7].map .ok).zip [.ok (), .ok ()]) ⟨[5]⟩ = (m', .ok hashes) ∧
      handed.length = [6, 7].length ∧ handed.mapM hashNonzero = .ok hashes ∧
      handed.Nodup ∧ ∀ kpb ∈ handed, kpb ∉ m'.keypackageBundles :=
  have hm : ConversationMember.Generated hashNonzero ⟨[5]⟩ :=
    @ConversationMember.Generated.generate Nat hashNonzero (.ok 5) (.ok ()) _ rfl
  have hgen : ∀ kpb ∈ [6, 7], ∃ h, hashNonzero kpb = .ok h := by simp [hashNonzero]
  have hstored : ∀ s ∈ ([.ok (), .ok ()] : List StoreAnswer), s = .ok () := by simp
  have hfresh : ([5] ++ [6, 7]).Nodup := by decide
  ⟨hm, rfl, hgen, hstored, hfresh, ConversationMember.keypackageHashes_hand_out_distinct
    hashNonzero hm [6, 7] [.ok (), .ok ()] rfl hgen hstored hfresh⟩

/-- The member `new` builds, after one call, is reachable and holds no bundle. -/
theorem member_after_one_call_reachable :
    ConversationMember.Reachable hashNonzero
      (ConversationMember.keypackageHash hashNonzero (.ok 6) (.ok ()) (.new 5)).1 ∧
    (ConversationMember.keypackageHash hashNonzero (.ok 6) (.ok ())
      (.new 5)).1.keypackageBundles.length ≤ 1 :=
  have hm := ConversationMember.Reachable.keypackageHash (.ok 6) (.ok ())
    (@ConversationMember.Reachable.new Nat hashNonzero 5)
  ⟨hm, ConversationMember.Reachable.bundles_length_le_one hashNonzero hm⟩

end Member

end CoreCrypto
