import Mathlib.Data.List.AList

/-!
# Bytes, identifiers, errors and the mutable-state monad

The vocabulary every other module shares:

* the byte strings and identifiers of `conversation.rs` and `proteus.rs`
  (`ConversationId`, `ClientId`, `MemberId`, `SessionIdentifier`);
* the error enums of `error.rs` (crypto and keystore), reduced to the variants the modelled
  code raises, with the payload each carries;
* `Mut σ α`, Rust code over mutable state `σ`. A `&mut self` method, or code holding a lock
  guard, keeps every mutation it made before a `?` returned early with an error; `Mut` hands
  back the reached state together with the result, so "what does a failed call leave
  behind" is a question about the model, not an assumption of it.
-/

namespace CoreCrypto

/-- `Vec<u8>`. -/
abbrev Bytes : Type := List UInt8

/-- `ConversationId = Vec<u8>`; equality is byte-exact. -/
abbrev ConversationId : Type := Bytes

/-- `ClientId`: an opaque byte string. -/
abbrev ClientId : Type := Bytes

/-- `MemberId = Vec<u8>`, the key of the `members()` map. -/
abbrev MemberId : Type := Bytes

/-- `SessionIdentifier = String` (Proteus). -/
abbrev SessionIdentifier : Type := String

/-! ## Errors -/

/-- `MissingKeyErrorKind`: which entity a lookup did not find. -/
inductive MissingKeyErrorKind where
  | mlsKeyBundle
  | mlsGroup
  | mlsPendingGroup
  | proteusPrekey
  | proteusSession
  | proteusIdentity
  deriving DecidableEq, Repr

/-- `CryptoKeystoreError`, the variants the modelled keystore calls raise. -/
inductive CryptoKeystoreError where
  /-- the requested entity is not in the store -/
  | missingKeyInStore (kind : MissingKeyErrorKind)
  /-- a stored key blob has the wrong length -/
  | invalidKeySize (expected actual : Nat) (key : String)
  /-- any failure of the storage backend (I/O, SQL, IndexedDB) -/
  | backend (detail : String)
  deriving DecidableEq, Repr

/-- `MlsError`: an error reported by openmls, or a (de)serialization error of the keystore's
JSON payloads (`MlsKeystoreSerializationError`). -/
inductive MlsError where
  | openMls (detail : String)
  | mlsKeystoreSerializationError (detail : String)
  deriving DecidableEq, Repr

/-- An error reported by the Proteus library (`ProteusError`). -/
structure ProteusError where
  detail : String
  deriving DecidableEq, Repr

/-- `CryptoError`, the variants the modelled code returns. -/
inductive CryptoError where
  | conversationNotFound (id : ConversationId)
  | malformedIdentifier (field : String)
  | lockPoisonError
  | keyStoreError (e : CryptoKeystoreError)
  | mlsError (e : MlsError)
  | proteusError (e : ProteusError)
  | mlsNotInitialized
  | callbacksNotSet
  | unauthorizedExternalCommit
  | proteusSupportNotEnabled (feature : String)
  /-- `std::io::Error` (file system, or a group's `save` into its buffer) -/
  | ioError (detail : String)
  /-- `hex::FromHexError` -/
  | hexDecodeError
  /-- `std::num::ParseIntError` -/
  | parseIntError
  /-- `eyre::Report` (`CryptoError::Other`), by its message -/
  | other (detail : String)
  /-- a call the API forbids in the current state, such as initializing a client twice -/
  | implementationError
  | proteusNotInitialized
  deriving DecidableEq, Repr

/-- What the storage backend answers to one write: `.ok ()` when the write went through,
`.error e` when it failed and (the write being one transaction) changed nothing. -/
abbrev KeystoreAnswer : Type := Except CryptoKeystoreError Unit

/-! ## `Result` combinators that succeeded -/

/-- A `map_err` that returned `Ok`: the value was already `Ok`. -/
theorem Except.mapError_eq_ok {ε ε' α : Type} {x : Except ε α} {f : ε → ε'} {a : α}
    (h : x.mapError f = .ok a) : x = .ok a := by
  cases x with
  | error e => cases h
  | ok b => cases h; rfl

/-- A `map` that returned `Ok`: the value was `Ok` before. -/
theorem Except.map_eq_ok {ε α β : Type} {x : Except ε α} {f : α → β} {b : β}
    (h : x.map f = .ok b) : ∃ a, x = .ok a ∧ f a = b := by
  cases x with
  | error e => cases h
  | ok a => cases h; exact ⟨a, rfl, rfl⟩

/-- A `map` that returned `Err`: the value was that `Err` before. -/
theorem Except.map_eq_error {ε α β : Type} {x : Except ε α} {f : α → β} {e : ε}
    (h : x.map f = .error e) : x = .error e := by
  cases x with
  | error e' => cases h; rfl
  | ok a => cases h

/-- A `mapM` that returned `Ok` sent every element to an element of the result, and every
element of the result comes from one. -/
theorem Except.mapM_eq_ok {ε α β : Type} {f : α → Except ε β} {l : List α} {l' : List β}
    (h : l.mapM f = .ok l') :
    (∀ a ∈ l, ∃ b ∈ l', f a = .ok b) ∧ ∀ b ∈ l', ∃ a ∈ l, f a = .ok b := by
  induction l generalizing l' with
  | nil => cases h; simp
  | cons a l ih =>
    rw [List.mapM_cons] at h
    cases ha : f a with
    | error e => rw [ha] at h; cases h
    | ok b =>
      cases hl : l.mapM f with
      | error e => rw [ha, hl] at h; cases h
      | ok bs =>
        rw [ha, hl] at h
        cases h
        obtain ⟨h1, h2⟩ := ih hl
        exact ⟨List.forall_mem_cons.2 ⟨⟨b, List.mem_cons_self _ _, ha⟩, fun a' ha' =>
            let ⟨b', hb', hf⟩ := h1 a' ha'
            ⟨b', List.mem_cons_of_mem _ hb', hf⟩⟩,
          List.forall_mem_cons.2 ⟨⟨a, List.mem_cons_self _ _, ha⟩, fun b' hb' =>
            let ⟨a', ha', hf⟩ := h2 b' hb'
            ⟨a', List.mem_cons_of_mem _ ha', hf⟩⟩⟩

/-! ## Maps whose every entry has a property -/

section Entries

variable {κ : Type} [DecidableEq κ] {β : κ → Type} {Q : (k : κ) → β k → Prop} {m : AList β}

/-- Inserting an entry that has the property keeps every entry with it. -/
theorem forall_lookup_insert (h : ∀ k v, m.lookup k = some v → Q k v) {k : κ} {v : β k}
    (hv : Q k v) : ∀ k' v', (m.insert k v).lookup k' = some v' → Q k' v' := by
  intro k' v' h'
  by_cases hk : k' = k
  · subst hk
    rw [AList.lookup_insert] at h'
    cases h'
    exact hv
  · rw [AList.lookup_insert_ne hk] at h'
    exact h k' v' h'

/-- Erasing an entry keeps every remaining entry with the property. -/
theorem forall_lookup_erase (h : ∀ k v, m.lookup k = some v → Q k v) (k : κ) :
    ∀ k' v', (m.erase k).lookup k' = some v' → Q k' v' := by
  intro k' v' h'
  by_cases hk : k' = k
  · subst hk
    rw [AList.lookup_erase] at h'
    cases h'
  · rw [AList.lookup_erase_ne hk] at h'
    exact h k' v' h'

end Entries

/-! ## The mutable-state monad -/

/-- Rust code over mutable state `σ`: from a state it returns the state it leaves and its
result. An early `?` return keeps the mutations made so far. -/
def Mut (σ : Type) (α : Type) : Type := σ → σ × Except CryptoError α

namespace Mut

variable {σ α β : Type}

/-- `Ok(a)`, state untouched. -/
protected def pure (a : α) : Mut σ α := fun s => (s, .ok a)

/-- Sequencing with `?`: an error stops the computation where it stands. -/
protected def bind (m : Mut σ α) (f : α → Mut σ β) : Mut σ β := fun s =>
  match m s with
  | (s', .ok a) => f a s'
  | (s', .error e) => (s', .error e)

instance : Monad (Mut σ) where
  pure := Mut.pure
  bind := Mut.bind

/-- `r?` on a result computed without touching the state. -/
def lift (r : Except CryptoError α) : Mut σ α := fun s => (s, r)

/-- Read the state. -/
def get : Mut σ σ := fun s => (s, .ok s)

/-- Replace the state. -/
def set (s : σ) : Mut σ Unit := fun _ => (s, .ok ())

/-- Update the state in place. -/
def modify (f : σ → σ) : Mut σ Unit := fun s => (f s, .ok ())

/-- Code over the first component of the state (a call that does not see the keystore). -/
def zoomFst {τ : Type} (m : Mut σ α) : Mut (σ × τ) α := fun s =>
  (((m s.1).1, s.2), (m s.1).2)

/-- Code over the second component of the state (a call that only sees the keystore). -/
def zoomSnd {τ : Type} (m : Mut τ α) : Mut (σ × τ) α := fun s =>
  ((s.1, (m s.2).1), (m s.2).2)

@[simp] theorem pure_apply (a : α) (s : σ) : (pure a : Mut σ α) s = (s, .ok a) := rfl

@[simp] theorem bind_apply (m : Mut σ α) (f : α → Mut σ β) (s : σ) :
    (m >>= f) s = match m s with
      | (s', .ok a) => f a s'
      | (s', .error e) => (s', .error e) := rfl

@[simp] theorem lift_apply (r : Except CryptoError α) (s : σ) : lift r s = (s, r) := rfl

@[simp] theorem get_apply (s : σ) : (get : Mut σ σ) s = (s, .ok s) := rfl

@[simp] theorem set_apply (s s₀ : σ) : set s s₀ = (s, .ok ()) := rfl

@[simp] theorem modify_apply (f : σ → σ) (s : σ) : modify f s = (f s, .ok ()) := rfl

@[simp] theorem zoomFst_apply {τ : Type} (m : Mut σ α) (s : σ × τ) :
    zoomFst m s = (((m s.1).1, s.2), (m s.1).2) := rfl

@[simp] theorem zoomSnd_apply {τ : Type} (m : Mut τ α) (s : σ × τ) :
    zoomSnd m s = ((s.1, (m s.2).1), (m s.2).2) := rfl

/-- `Mut` obeys the monad laws, so `do` blocks can be reassociated by `simp`. -/
instance : LawfulMonad (Mut σ) := LawfulMonad.mk' (Mut σ)
  (fun x => funext fun s => by
    show Mut.bind x (fun a => Mut.pure (id a)) s = x s
    unfold Mut.bind
    rcases x s with ⟨s', e | a⟩ <;> rfl)
  (fun _ _ => rfl)
  (fun x f g => funext fun s => by
    show Mut.bind (Mut.bind x f) g s = Mut.bind x (fun a => Mut.bind (f a) g) s
    unfold Mut.bind
    rcases x s with ⟨s', e | a⟩ <;> rfl)

/-- Inversion for a successful `bind`: both halves succeeded. -/
theorem bind_eq_ok {m : Mut σ α} {f : α → Mut σ β} {s s'' : σ} {b : β}
    (h : (m >>= f) s = (s'', .ok b)) :
    ∃ s' a, m s = (s', .ok a) ∧ f a s' = (s'', .ok b) := by
  rw [bind_apply] at h
  match hm : m s, h with
  | (s', .ok a), h => exact ⟨s', a, rfl, h⟩

/-- Inversion for a failed `bind`: the first half failed, or it succeeded and the second
half failed. -/
theorem bind_eq_error {m : Mut σ α} {f : α → Mut σ β} {s s'' : σ} {e : CryptoError}
    (h : (m >>= f) s = (s'', .error e)) :
    m s = (s'', .error e) ∨ ∃ s' a, m s = (s', .ok a) ∧ f a s' = (s'', .error e) := by
  rw [bind_apply] at h
  match hm : m s, h with
  | (s', .ok a), h => exact .inr ⟨s', a, rfl, h⟩
  | (s', .error e'), h => cases h; exact .inl rfl

@[simp] theorem get_bind_apply (f : σ → Mut σ β) (s : σ) : (get >>= f) s = f s s := rfl

/-- `pure` succeeds in place. -/
theorem pure_eq_ok {a b : α} {s s' : σ} (h : (pure a : Mut σ α) s = (s', .ok b)) :
    s' = s ∧ b = a := by
  cases h
  exact ⟨rfl, rfl⟩

/-- A computation run for its effect alone, successful. -/
theorem bind_pure_unit_eq_ok {m : Mut σ α} {s s' : σ}
    (h : (m >>= fun _ => pure ()) s = (s', .ok ())) : ∃ a, m s = (s', .ok a) := by
  obtain ⟨_, a, hm, hp⟩ := bind_eq_ok h
  obtain ⟨rfl, -⟩ := pure_eq_ok hp
  exact ⟨a, hm⟩

/-- Inversion for a `lift` followed by more, successful: the lifted result was `Ok`. -/
theorem lift_bind_eq_ok {r : Except CryptoError α} {f : α → Mut σ β} {s s' : σ} {b : β}
    (h : (lift r >>= f) s = (s', .ok b)) : ∃ a, r = .ok a ∧ f a s = (s', .ok b) := by
  cases r with
  | error e => cases h
  | ok a => exact ⟨a, rfl, h⟩

/-- Inversion for a `lift` followed by more, failed: the lift failed in place, or it
succeeded and the rest failed. -/
theorem lift_bind_eq_error {r : Except CryptoError α} {f : α → Mut σ β} {s s' : σ} {e : CryptoError}
    (h : (lift r >>= f) s = (s', .error e)) :
    (s' = s ∧ r = .error e) ∨ ∃ a, r = .ok a ∧ f a s = (s', .error e) := by
  cases r with
  | error e' => cases h; exact .inl ⟨rfl, rfl⟩
  | ok a => exact .inr ⟨a, rfl, h⟩

/-! ## Invariants

`Preserves Q m`: from any state satisfying `Q`, `m` reaches a state satisfying `Q`, whatever
it returns. Each combinator keeps it, so an invariant of a `do` block follows the block's
shape. -/

/-- `m` keeps `Q`, on success and on failure. -/
def Preserves (Q : σ → Prop) (m : Mut σ α) : Prop := ∀ s, Q s → Q (m s).1

namespace Preserves

variable {Q : σ → Prop}

theorem pure (a : α) : Preserves Q (pure a : Mut σ α) := fun _ h => h

theorem lift (r : Except CryptoError α) : Preserves Q (lift r : Mut σ α) := fun _ h => h

theorem get : Preserves Q (get : Mut σ σ) := fun _ h => h

theorem modify {f : σ → σ} (hf : ∀ s, Q s → Q (f s)) : Preserves Q (modify f) := hf

theorem bind {m : Mut σ α} {f : α → Mut σ β} (hm : Preserves Q m) (hf : ∀ a, Preserves Q (f a)) :
    Preserves Q (m >>= f) := by
  intro s h
  rw [bind_apply]
  rcases hms : m s with ⟨s', e | a⟩
  · simpa [hms] using hm s h
  · exact hf a s' (by simpa [hms] using hm s h)

end Preserves

/-- `m` keeps `Q`, and whatever it returns on success satisfies `R`: the form an invariant
takes across a `do` block whose later steps read an earlier step's result. -/
def Ensures (Q : σ → Prop) (m : Mut σ α) (R : α → Prop) : Prop :=
  ∀ s, Q s → Q (m s).1 ∧ ∀ a, (m s).2 = .ok a → R a

namespace Ensures

variable {Q : σ → Prop} {R : α → Prop}

theorem lift (r : Except CryptoError α) : Ensures Q (lift r) (fun a => r = .ok a) :=
  fun _ h => ⟨h, fun _ ha => ha⟩

theorem preserves {m : Mut σ α} (h : Ensures Q m R) : Preserves Q m := fun s hs => (h s hs).1

theorem bind {m : Mut σ α} {f : α → Mut σ β} (hm : Ensures Q m R)
    (hf : ∀ a, R a → Preserves Q (f a)) : Preserves Q (m >>= f) := by
  intro s h
  obtain ⟨hq, hr⟩ := hm s h
  rw [bind_apply]
  rcases hms : m s with ⟨s', e | a⟩
  · simpa [hms] using hq
  · exact hf a (hr a (by rw [hms])) s' (by simpa [hms] using hq)

theorem bind_ensures {R' : β → Prop} {m : Mut σ α} {f : α → Mut σ β} (hm : Ensures Q m R)
    (hf : ∀ a, R a → Ensures Q (f a) R') : Ensures Q (m >>= f) R' := by
  intro s h
  obtain ⟨hq, hr⟩ := hm s h
  rw [bind_apply]
  rcases hms : m s with ⟨s', e | a⟩
  · exact ⟨by simpa [hms] using hq, fun _ h => by cases h⟩
  · exact hf a (hr a (by rw [hms])) s' (by simpa [hms] using hq)

end Ensures

/-! ## Commuting with an update

`Commutes f m`: running `m` after the update `f` is running `m` and then `f`, with the same
result. When `f` replaces a part of the state, this says that `m` neither reads nor writes
that part. -/

/-- `m` commutes with the update `f`. -/
def Commutes (f : σ → σ) (m : Mut σ α) : Prop := ∀ s, m (f s) = (f (m s).1, (m s).2)

/-- The update `g` of the second component of a pair. -/
abbrev onSnd {τ : Type} (g : τ → τ) (s : σ × τ) : σ × τ := (s.1, g s.2)

namespace Commutes

variable {f : σ → σ}

theorem pure (a : α) : Commutes f (pure a : Mut σ α) := fun _ => rfl

theorem lift (r : Except CryptoError α) : Commutes f (lift r : Mut σ α) := fun _ => rfl

theorem modify {g : σ → σ} (hg : ∀ s, g (f s) = f (g s)) : Commutes f (modify g) :=
  fun s => by rw [modify_apply, modify_apply, hg]

theorem bind {m : Mut σ α} {k : α → Mut σ β} (hm : Commutes f m) (hk : ∀ a, Commutes f (k a)) :
    Commutes f (m >>= k) := by
  intro s
  rw [bind_apply, bind_apply, hm s]
  rcases m s with ⟨s', e | a⟩
  · rfl
  · exact hk a s'

/-- A read of the state whose continuation does not see the update. -/
theorem get_bind {k : σ → Mut σ β} (hk : ∀ s, k (f s) = k s) (hk' : ∀ s, Commutes f (k s)) :
    Commutes f (get >>= k) := fun s => by
  rw [get_bind_apply, get_bind_apply, hk]
  exact hk' s s

/-- Code that sees the first component commutes with any update of the second. -/
theorem zoomFst {τ : Type} (g : τ → τ) (m : Mut σ α) : Commutes (onSnd g) (zoomFst m) :=
  fun _ => rfl

theorem zoomSnd {τ : Type} {g : τ → τ} {m : Mut τ α} (hm : Commutes g m) :
    Commutes (onSnd (σ := σ) g) (zoomSnd m) := fun s => by
  rw [zoomSnd_apply, zoomSnd_apply, hm]

/-- Commuting with every replacement of a part of the state keeps that part. -/
theorem preserves {τ : Type} {part : σ → τ} {replace : τ → σ → σ}
    (hreplace : ∀ s, replace (part s) s = s) (hpart : ∀ t s, part (replace t s) = t)
    {m : Mut σ α} (h : ∀ t, Commutes (replace t) m) (t : τ) :
    Preserves (fun s => part s = t) m := by
  rintro s rfl
  calc part (m s).1 = part (m (replace (part s) s)).1 := by rw [hreplace]
    _ = part s := by rw [h, hpart]

end Commutes

end Mut

end CoreCrypto
