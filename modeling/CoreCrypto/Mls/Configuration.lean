import Mathlib.Data.List.DropRight
import Mathlib.Data.String.Basic
import CoreCrypto.Mls.OpenMls

/-!
# `MlsCentralConfiguration::try_new` (`mls/mod.rs:129-162`)

`try_new` checks its three identifiers in source order, each error naming the field it
checks, then passes the entropy seed through `&seed[..EntropySeed::EXPECTED_LEN]` before
`EntropySeed::try_from_slice`. The slice decides what happens to the seed: a shorter one
makes it panic, a longer one is cut to its first `EXPECTED_LEN` bytes, which `try_from_slice`
then accepts. `tryNew` returns `none` where the call panics; `EXPECTED_LEN` is a parameter.

* `rustTrim_isEmpty`: `s.trim().is_empty()` exactly when every character of `s` is white
  space.
* `tryNew_eq_error`: every error names the field whose check failed.
* `tryNew_ok_iff`, `tryNew_eq_ok`: `Ok` exactly when the identifiers pass and the seed, if
  any, has at least `EXPECTED_LEN` bytes; the configuration keeps the first `EXPECTED_LEN`.
* `tryNew_eq_none_iff`: a panic exactly when the identifiers pass and the seed is shorter.
-/

namespace CoreCrypto

/-- `char::is_whitespace`: the Unicode `White_Space` property. -/
def isRustWhitespace (c : Char) : Bool :=
  (9 ≤ c.toNat && c.toNat ≤ 13) || c.toNat == 0x20 || c.toNat == 0x85 || c.toNat == 0xA0 ||
    c.toNat == 0x1680 || (0x2000 ≤ c.toNat && c.toNat ≤ 0x200A) || c.toNat == 0x2028 ||
    c.toNat == 0x2029 || c.toNat == 0x202F || c.toNat == 0x205F || c.toNat == 0x3000

/-- `str::trim`: the string without its leading and trailing white space. -/
def rustTrim (s : String) : String :=
  ⟨(s.data.dropWhile isRustWhitespace).rdropWhile isRustWhitespace⟩

/-- A string trims to nothing exactly when it is all white space. -/
theorem rustTrim_isEmpty (s : String) :
    (rustTrim s).isEmpty ↔ ∀ c ∈ s.data, isRustWhitespace c := by
  have hdrop : ∀ l : List Char, (∀ c ∈ l.dropWhile isRustWhitespace, isRustWhitespace c) ↔
      l.dropWhile isRustWhitespace = [] := fun l => by
    refine ⟨fun h => ?_, fun h => by simp [h]⟩
    by_contra hne
    exact absurd (h _ (List.head_mem hne)) (by simp [List.head_dropWhile_not])
  rw [String.isEmpty_iff, rustTrim, ← List.dropWhile_eq_nil_iff, ← hdrop,
    ← List.rdropWhile_eq_nil_iff]
  exact ⟨fun h => congrArg String.data h, fun h => congrArg String.mk h⟩

/-- `&seed[..n]`: the first `n` bytes, `none` where the slice panics (`n > seed.len()`). -/
def sliceTo (seed : Bytes) (n : Nat) : Option Bytes :=
  if n ≤ seed.length then some (seed.take n) else none

/-- Modelled from the spec: `EntropySeed` (of `mls_crypto_provider`, not in this repository),
a seed of exactly `EXPECTED_LEN` bytes. -/
structure EntropySeed (EXPECTED_LEN : Nat) where
  bytes : Bytes
  length_eq : bytes.length = EXPECTED_LEN

/-- Modelled from the spec: `EntropySeed::try_from_slice`: exactly `EXPECTED_LEN` bytes make a
seed, any other length is an error. -/
def EntropySeed.tryFromSlice (EXPECTED_LEN : Nat) (data : Bytes) :
    Except CryptoError (EntropySeed EXPECTED_LEN) :=
  if h : data.length = EXPECTED_LEN then .ok ⟨data, h⟩
  else .error (.keyStoreError (.invalidKeySize EXPECTED_LEN data.length "EntropySeed"))

/-- `MlsCentralConfiguration`. -/
structure MlsCentralConfiguration (EXPECTED_LEN : Nat) where
  storePath : String
  identityKey : String
  clientId : Option ClientId
  externalEntropy : Option (EntropySeed EXPECTED_LEN)
  ciphersuites : List MlsCiphersuite

namespace MlsCentralConfiguration

section TryNew

variable (EXPECTED_LEN : Nat)

/-- The entropy block of `try_new` (`mod.rs:150-154`); `none` where the slice panics. -/
def externalEntropyOf (entropy : Option Bytes) :
    Option (Except CryptoError (Option (EntropySeed EXPECTED_LEN))) :=
  match entropy with
  | none => some (.ok none)
  | some seed => (sliceTo seed EXPECTED_LEN).map fun slice =>
    (EntropySeed.tryFromSlice EXPECTED_LEN slice).map some

/-- `MlsCentralConfiguration::try_new`; `none` where it panics. -/
def tryNew (storePath identityKey : String) (clientId : Option ClientId)
    (ciphersuites : List MlsCiphersuite) (entropy : Option Bytes) :
    Option (Except CryptoError (MlsCentralConfiguration EXPECTED_LEN)) :=
  if (rustTrim storePath).isEmpty then some (.error (.malformedIdentifier "store_path"))
  else if (rustTrim identityKey).isEmpty then some (.error (.malformedIdentifier "identity_key"))
  else if clientId.any List.isEmpty then some (.error (.malformedIdentifier "client_id"))
  else (externalEntropyOf EXPECTED_LEN entropy).map fun r =>
    r.map fun externalEntropy => ⟨storePath, identityKey, clientId, externalEntropy, ciphersuites⟩

/-- The identifiers `try_new` accepts: a store path and an identity key that are not all
white space, and a client id, if any, that is not empty. -/
def IdentifiersPass (storePath identityKey : String) (clientId : Option ClientId) : Prop :=
  (∃ c ∈ storePath.data, isRustWhitespace c = false) ∧
    (∃ c ∈ identityKey.data, isRustWhitespace c = false) ∧ ∀ id ∈ clientId, id ≠ []

/-- The entropy block panics exactly on a seed shorter than `EXPECTED_LEN`. -/
theorem externalEntropyOf_eq_none_iff (entropy : Option Bytes) :
    externalEntropyOf EXPECTED_LEN entropy = none ↔
      ∃ seed ∈ entropy, seed.length < EXPECTED_LEN := by
  cases entropy with
  | none => simp [externalEntropyOf]
  | some seed => simp [externalEntropyOf, sliceTo]

/-- When it does not panic, the entropy block never fails, and keeps the first
`EXPECTED_LEN` bytes of the seed. -/
theorem externalEntropyOf_eq_some {entropy : Option Bytes}
    {r : Except CryptoError (Option (EntropySeed EXPECTED_LEN))}
    (h : externalEntropyOf EXPECTED_LEN entropy = some r) :
    ∃ seed, r = .ok seed ∧ seed.map EntropySeed.bytes = entropy.map (List.take EXPECTED_LEN) := by
  cases entropy with
  | none => cases h; exact ⟨none, rfl, rfl⟩
  | some seed =>
    by_cases hlen : EXPECTED_LEN ≤ seed.length
    · have hslice : (seed.take EXPECTED_LEN).length = EXPECTED_LEN := by simp [hlen]
      simp only [externalEntropyOf, sliceTo, hlen, if_true, Option.map_some', Option.some.injEq]
        at h
      subst h
      exact ⟨some ⟨_, hslice⟩, by simp [EntropySeed.tryFromSlice, hslice, Except.map], rfl⟩
    · simp [externalEntropyOf, sliceTo, hlen] at h

/-- When the identifiers pass, `try_new` is its entropy block. -/
theorem tryNew_of_pass {storePath identityKey : String} {clientId : Option ClientId}
    (ciphersuites : List MlsCiphersuite) (entropy : Option Bytes)
    (h : IdentifiersPass storePath identityKey clientId) :
    tryNew EXPECTED_LEN storePath identityKey clientId ciphersuites entropy =
      (externalEntropyOf EXPECTED_LEN entropy).map fun r =>
        r.map fun externalEntropy =>
          ⟨storePath, identityKey, clientId, externalEntropy, ciphersuites⟩ := by
  obtain ⟨⟨c, hc, hcw⟩, ⟨d, hd, hdw⟩, hid⟩ := h
  have hstore : (rustTrim storePath).isEmpty = false :=
    Bool.eq_false_iff.2 fun he => by simp [(rustTrim_isEmpty _).1 he c hc] at hcw
  have hkey : (rustTrim identityKey).isEmpty = false :=
    Bool.eq_false_iff.2 fun he => by simp [(rustTrim_isEmpty _).1 he d hd] at hdw
  have hclient : clientId.any List.isEmpty = false := by
    cases clientId with
    | none => rfl
    | some id => simpa using hid id rfl
  simp only [tryNew, hstore, hkey, hclient]
  rfl

/-- Every error of `try_new` names the field whose check failed. -/
theorem tryNew_eq_error {storePath identityKey : String} {clientId : Option ClientId}
    {ciphersuites : List MlsCiphersuite} {entropy : Option Bytes} {e : CryptoError}
    (h : tryNew EXPECTED_LEN storePath identityKey clientId ciphersuites entropy =
      some (.error e)) :
    e = .malformedIdentifier "store_path" ∧ (∀ c ∈ storePath.data, isRustWhitespace c) ∨
      e = .malformedIdentifier "identity_key" ∧ (∀ c ∈ identityKey.data, isRustWhitespace c) ∨
      e = .malformedIdentifier "client_id" ∧ clientId = some [] := by
  unfold tryNew at h
  split at h
  · cases h; exact .inl ⟨rfl, (rustTrim_isEmpty _).1 ‹_›⟩
  split at h
  · cases h; exact .inr (.inl ⟨rfl, (rustTrim_isEmpty _).1 ‹_›⟩)
  split at h
  · cases h
    cases clientId with
    | none => contradiction
    | some id =>
      rename_i hclient
      exact .inr (.inr ⟨rfl, by simpa using hclient⟩)
  obtain ⟨r, hr, hre⟩ := Option.map_eq_some'.1 h
  obtain ⟨seed, rfl, -⟩ := externalEntropyOf_eq_some EXPECTED_LEN hr
  cases hre

/-- The identifiers fail exactly when `try_new` returns one of their errors. -/
theorem tryNew_of_not_pass {storePath identityKey : String} {clientId : Option ClientId}
    (ciphersuites : List MlsCiphersuite) (entropy : Option Bytes)
    (h : ¬IdentifiersPass storePath identityKey clientId) :
    ∃ e, tryNew EXPECTED_LEN storePath identityKey clientId ciphersuites entropy =
      some (.error e) := by
  unfold IdentifiersPass at h
  unfold tryNew
  split
  · exact ⟨_, rfl⟩
  split
  · exact ⟨_, rfl⟩
  split
  · exact ⟨_, rfl⟩
  rename_i hstore hkey hclient
  refine absurd ⟨?_, ?_, ?_⟩ h
  · simpa [rustTrim_isEmpty] using hstore
  · simpa [rustTrim_isEmpty] using hkey
  · rintro id rfl
    simpa using hclient

/-- `try_new` returns `Ok` exactly when the identifiers pass and the seed, if any, has at
least `EXPECTED_LEN` bytes: a longer seed is accepted. -/
theorem tryNew_ok_iff (storePath identityKey : String) (clientId : Option ClientId)
    (ciphersuites : List MlsCiphersuite) (entropy : Option Bytes) :
    (∃ config, tryNew EXPECTED_LEN storePath identityKey clientId ciphersuites entropy =
        some (.ok config)) ↔
      IdentifiersPass storePath identityKey clientId ∧
        ∀ seed ∈ entropy, EXPECTED_LEN ≤ seed.length := by
  by_cases hpass : IdentifiersPass storePath identityKey clientId
  · rw [tryNew_of_pass EXPECTED_LEN ciphersuites entropy hpass]
    cases hent : externalEntropyOf EXPECTED_LEN entropy with
    | none =>
      obtain ⟨seed, hseed, hlt⟩ := (externalEntropyOf_eq_none_iff EXPECTED_LEN entropy).1 hent
      simpa using fun _ => ⟨seed, hseed, hlt⟩
    | some r =>
      obtain ⟨seed, rfl, -⟩ := externalEntropyOf_eq_some EXPECTED_LEN hent
      have hlong : ∀ seed ∈ entropy, EXPECTED_LEN ≤ seed.length := fun s hs =>
        Nat.le_of_not_lt fun hlt => by
          simp [(externalEntropyOf_eq_none_iff EXPECTED_LEN entropy).2 ⟨s, hs, hlt⟩] at hent
      simpa [Except.map] using ⟨hpass, hlong⟩
  · obtain ⟨e, he⟩ := tryNew_of_not_pass EXPECTED_LEN ciphersuites entropy hpass
    simp [he, hpass]

/-- A configuration `try_new` returns holds its arguments, the seed cut to its first
`EXPECTED_LEN` bytes. -/
theorem tryNew_eq_ok {storePath identityKey : String} {clientId : Option ClientId}
    {ciphersuites : List MlsCiphersuite} {entropy : Option Bytes}
    {config : MlsCentralConfiguration EXPECTED_LEN}
    (h : tryNew EXPECTED_LEN storePath identityKey clientId ciphersuites entropy =
      some (.ok config)) :
    config.storePath = storePath ∧ config.identityKey = identityKey ∧
      config.clientId = clientId ∧ config.ciphersuites = ciphersuites ∧
      config.externalEntropy.map EntropySeed.bytes = entropy.map (List.take EXPECTED_LEN) := by
  have hpass := ((tryNew_ok_iff EXPECTED_LEN _ _ _ _ _).1 ⟨config, h⟩).1
  rw [tryNew_of_pass EXPECTED_LEN ciphersuites entropy hpass] at h
  obtain ⟨r, hr, hre⟩ := Option.map_eq_some'.1 h
  obtain ⟨seed, rfl, hseed⟩ := externalEntropyOf_eq_some EXPECTED_LEN hr
  cases hre
  exact ⟨rfl, rfl, rfl, rfl, hseed⟩

/-- `try_new` panics exactly when the identifiers pass and the seed is shorter than
`EXPECTED_LEN`. -/
theorem tryNew_eq_none_iff (storePath identityKey : String) (clientId : Option ClientId)
    (ciphersuites : List MlsCiphersuite) (entropy : Option Bytes) :
    tryNew EXPECTED_LEN storePath identityKey clientId ciphersuites entropy = none ↔
      IdentifiersPass storePath identityKey clientId ∧
        ∃ seed ∈ entropy, seed.length < EXPECTED_LEN := by
  by_cases hpass : IdentifiersPass storePath identityKey clientId
  · rw [tryNew_of_pass EXPECTED_LEN ciphersuites entropy hpass, Option.map_eq_none',
      externalEntropyOf_eq_none_iff]
    exact (and_iff_right hpass).symm
  · obtain ⟨e, he⟩ := tryNew_of_not_pass EXPECTED_LEN ciphersuites entropy hpass
    simp [he, hpass]

end TryNew

end MlsCentralConfiguration

/-- With a 32-byte seed expected and valid identifiers, a 31-byte seed makes `try_new` panic
and a 33-byte seed is accepted, cut to its first 32 bytes. -/
theorem entropy_seed_length_not_rejected :
    MlsCentralConfiguration.tryNew 32 "/tmp/crypto" "MY_IDENTITY_KEY" (some [1]) [1]
        (some (List.replicate 31 7)) = none ∧
    ∃ config, MlsCentralConfiguration.tryNew 32 "/tmp/crypto" "MY_IDENTITY_KEY" (some [1]) [1]
        (some (List.replicate 33 7)) = some (.ok config) ∧
      config.externalEntropy.map EntropySeed.bytes = some (List.replicate 32 7) :=
  ⟨rfl, _, rfl, rfl⟩

end CoreCrypto
