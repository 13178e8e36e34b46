import CoreCrypto.Mls.Persistence

/-!
# Concurrent calls on one conversation

`add_members`, `remove_members` and `decrypt_message` take `&self`: the group sits behind an
`RwLock` that each call takes and releases region by region. A call in flight is a `Thread`,
the program point it reached between two regions; `Thread.step` runs its next region
atomically on the shared world, and a schedule says which call steps next.

* **Alone, a call is its operation.** Run alone for five steps, the thread of a call does
  what the sequential operation of `Mls.Conversation` does (`ConversationCall.thread_runs`);
  so a serial schedule is the sequential run of the calls (`runSchedule_serial`).
* **Interleaved, the row can go back.** `add_members` releases the lock between `save` and
  `mls_group_persist`. When a second `add_members` saves and persists inside that window,
  the first then writes its older serialization over the newer one: both calls return `Ok`
  and the row is one commit behind the group (`interleaved_adds_leave_row_stale`).
-/

namespace CoreCrypto

/-- A call in flight: the region it runs next. -/
inductive Thread (L : OpenMls) where
  /-- `add_members`, before its write-locked commit and merge -/
  | addMembers (keypackages : List L.KeyPackage) (answer : KeystoreAnswer)
  /-- `remove_members`, before reading the refs of the leaves to remove -/
  | removeMembers (clients : List ClientId) (answer : KeystoreAnswer)
  /-- `remove_members`, holding the refs, before its write-locked commit and merge -/
  | removeMembersLocked (refs : List L.KeyPackageRef) (answer : KeystoreAnswer)
  /-- `decrypt_message`, which holds the write lock from parsing to persisting -/
  | decryptMessage (message : Bytes) (answer : KeystoreAnswer)
  /-- before the read-locked `state_changed()` test -/
  | checkChanged (answer : KeystoreAnswer)
  /-- before the write-locked `save` -/
  | save (answer : KeystoreAnswer)
  /-- holding the serialization, before `mls_group_persist` -/
  | persist (buf : Bytes) (answer : KeystoreAnswer)
  /-- returned -/
  | done (result : Except CryptoError Unit)

namespace Thread

variable {L : OpenMls}

/-- Run one region, then go on at `next` with its result, or return its error. -/
def resume {α : Type} (m : Mut (World L) α) (next : α → Thread L) (w : World L) :
    World L × Thread L :=
  match m w with
  | (w', .ok a) => (w', next a)
  | (w', .error e) => (w', .done (.error e))

/-- The next region of a call, as the source orders them. -/
def step : Thread L → World L → World L × Thread L
  | .addMembers keypackages answer =>
    resume (MlsConversation.addMembersLocked keypackages) fun _ => .checkChanged answer
  | .removeMembers clients answer =>
    resume (MlsConversation.memberRefs clients) fun refs => .removeMembersLocked refs answer
  | .removeMembersLocked refs answer =>
    resume (MlsConversation.removeMembersLocked refs) fun _ => .checkChanged answer
  | .decryptMessage message answer =>
    resume (MlsConversation.decryptMessage message answer) fun _ => .done (.ok ())
  | .checkChanged answer =>
    resume MlsConversation.groupStateChanged fun changed =>
      if changed then .save answer else .done (.ok ())
  | .save answer => resume MlsConversation.groupSave fun buf => .persist buf answer
  | .persist buf answer =>
    resume (MlsConversation.groupPersist buf answer) fun _ => .done (.ok ())
  | .done result => fun w => (w, .done result)

/-- A thread run alone for `n` steps. -/
def runSolo : Nat → Thread L → World L → World L × Thread L
  | 0, t, w => (w, t)
  | n + 1, t, w => runSolo n (t.step w).2 (t.step w).1

theorem runSolo_done (n : Nat) (r : Except CryptoError Unit) (w : World L) :
    runSolo n (.done r) w = (w, .done r) := by
  induction n with
  | zero => rfl
  | succ n ih => exact ih

theorem runSolo_add (m n : Nat) (t : Thread L) (w : World L) :
    runSolo (m + n) t w = runSolo n (runSolo m t w).2 (runSolo m t w).1 := by
  induction m generalizing t w with
  | zero => simp only [Nat.zero_add, runSolo]
  | succ m ih => rw [Nat.add_right_comm]; exact ih _ _

/-! ## A thread alone -/

/-- Run alone for `n` steps, the thread has done what `m` does and returned its result. -/
def Runs (n : Nat) (t : Thread L) (m : Mut (World L) Unit) : Prop :=
  ∀ w, runSolo n t w = ((m w).1, .done (m w).2)

theorem Runs.done_pure (n : Nat) : (Thread.done (.ok ()) : Thread L).Runs n (pure ()) :=
  fun w => runSolo_done n _ w

/-- A returned thread stays returned: more steps change nothing. -/
theorem Runs.mono {n n' : Nat} {t : Thread L} {m : Mut (World L) Unit} (h : t.Runs n m)
    (hn : n ≤ n') : t.Runs n' m := by
  obtain ⟨k, rfl⟩ := Nat.exists_eq_add_of_le hn
  intro w
  rw [runSolo_add, h w, runSolo_done]

/-- **Step lemma.** A thread whose next region is `m`, continuing as a thread that does `f`,
does `m >>= f`. -/
theorem Runs.resume {α : Type} {n : Nat} {t : Thread L} {m : Mut (World L) α}
    {f : α → Mut (World L) Unit} (next : α → Thread L)
    (hstep : ∀ w, t.step w = resume m next w) (hnext : ∀ a, (next a).Runs n (f a)) :
    t.Runs (n + 1) (m >>= f) := by
  intro w
  show runSolo n (t.step w).2 (t.step w).1 = _
  rw [hstep, Mut.bind_apply]
  unfold Thread.resume
  rcases m w with ⟨w', e | a⟩
  · exact runSolo_done n _ w'
  · exact hnext a w'

/-- The last region of a call, returning `Ok`. -/
theorem Runs.resume_done {t : Thread L} {m : Mut (World L) Unit}
    (hstep : ∀ w, t.step w = Thread.resume m (fun _ => .done (.ok ())) w) : t.Runs 1 m := by
  simpa only [bind_pure_unit] using Runs.resume _ hstep fun _ => Runs.done_pure 0

/-- The persistence block, region by region. -/
theorem checkChanged_runs (answer : KeystoreAnswer) :
    (Thread.checkChanged answer : Thread L).Runs 3 (MlsConversation.persistWhenChanged answer) := by
  refine Runs.resume (fun changed => if changed then .save answer else .done (.ok ()))
    (fun _ => rfl) fun changed => ?_
  cases changed
  · exact Runs.done_pure 2
  · refine Runs.resume _ (fun _ => rfl) fun buf => ?_
    exact Runs.resume_done fun _ => rfl

end Thread

namespace ConversationCall

variable {L : OpenMls}

/-- The thread of a call that has not run yet. -/
def thread : ConversationCall L → Thread L
  | .addMembers members answer => .addMembers (MlsConversation.keypackagesOf members) answer
  | .removeMembers members answer =>
    .removeMembers (members.flatMap ConversationMember.clients) answer
  | .decryptMessage message answer => .decryptMessage message answer

/-- **Refinement.** Run alone, the thread of a call ends, within five steps, with the world
and the result of the sequential operation. -/
theorem thread_runs (c : ConversationCall L) : c.thread.Runs 5 c.run := by
  cases c with
  | addMembers members answer =>
    show Thread.Runs 5 _ ((MlsConversation.addMembersLocked _ >>= _) >>= fun _ => pure ())
    rw [bind_assoc]
    refine Thread.Runs.resume _ (fun _ => rfl) fun ⟨message, welcome⟩ => ?_
    simp only [bind_assoc, pure_bind, bind_pure_unit]
    exact (Thread.checkChanged_runs answer).mono (by omega)
  | removeMembers members answer =>
    show Thread.Runs 5 _ ((MlsConversation.memberRefs _ >>= _) >>= fun _ => pure ())
    rw [bind_assoc]
    refine Thread.Runs.resume _ (fun _ => rfl) fun refs => ?_
    simp only [bind_assoc, pure_bind, bind_pure_unit]
    exact Thread.Runs.resume _ (fun _ => rfl) fun _ => Thread.checkChanged_runs answer
  | decryptMessage message answer =>
    exact Thread.Runs.mono (Thread.Runs.resume _ (fun _ => rfl) fun _ => Thread.Runs.done_pure 0)
      (by omega)

/-- The calls one after the other, each on the world the previous one left, whatever it
returned. -/
def runCalls : List (ConversationCall L) → World L → World L × List (Except CryptoError Unit)
  | [], w => (w, [])
  | c :: cs, w => ((runCalls cs (c.run w).1).1, (c.run w).2 :: (runCalls cs (c.run w).1).2)

end ConversationCall

/-! ## Schedules -/

section Schedules

variable {L : OpenMls}

/-- Run a schedule: each entry names the call whose next region runs; an entry past the end
of the pool is skipped. -/
def runSchedule : List Nat → List (Thread L) × World L → List (Thread L) × World L
  | [], p => p
  | i :: sched, (ts, w) =>
    match ts[i]? with
    | some t => runSchedule sched (ts.set i (t.step w).2, (t.step w).1)
    | none => runSchedule sched (ts, w)

theorem runSchedule_append (a b : List Nat) (p : List (Thread L) × World L) :
    runSchedule (a ++ b) p = runSchedule b (runSchedule a p) := by
  induction a generalizing p with
  | nil => rfl
  | cons i a ih =>
    obtain ⟨ts, w⟩ := p
    simp only [List.cons_append, runSchedule]
    split <;> exact ih _

/-- `n` steps of one call in a row are that call run alone. -/
theorem runSchedule_replicate {ts : List (Thread L)} {i : Nat} {t : Thread L}
    (h : ts[i]? = some t) (n : Nat) (w : World L) :
    runSchedule (List.replicate n i) (ts, w) =
      (ts.set i (Thread.runSolo n t w).2, (Thread.runSolo n t w).1) := by
  induction n generalizing ts t w with
  | zero =>
    obtain ⟨hi, rfl⟩ := List.getElem?_eq_some_iff.1 h
    refine Prod.ext (List.ext_getElem? fun j => ?_) rfl
    show ts[j]? = (ts.set i ts[i])[j]?
    rw [List.getElem?_set]
    split
    · subst_vars; simp [hi]
    · rfl
  | succ n ih =>
    have hi : i < ts.length := (List.getElem?_eq_some_iff.1 h).1
    simp only [List.replicate_succ, runSchedule, h]
    rw [ih (List.getElem?_set_self hi), List.set_set]
    rfl

/-- Each call in turn, from index `start`, runs its five steps. -/
def serialSchedule (start n : Nat) : List Nat :=
  (List.range' start n).flatMap (List.replicate 5)

/-- **Serial schedules.** When each call runs its regions before the next call starts, the
pool ends with every call returned with the result of its sequential operation, on the
world of the sequential run. -/
theorem runSchedule_serial (cs : List (ConversationCall L)) (ts : List (Thread L))
    (w : World L) :
    runSchedule (serialSchedule ts.length cs.length) (ts ++ cs.map ConversationCall.thread, w) =
      (ts ++ (ConversationCall.runCalls cs w).2.map Thread.done,
        (ConversationCall.runCalls cs w).1) := by
  induction cs generalizing ts w with
  | nil => simp only [serialSchedule, List.range'_zero, List.flatMap_nil, List.map_nil]; rfl
  | cons c cs ih =>
    have hc : (ts ++ (c :: cs).map ConversationCall.thread)[ts.length]? = some c.thread := by
      simp only [List.getElem?_append_right (Nat.le_refl _), Nat.sub_self, List.map_cons,
        List.getElem?_cons_zero]
    simp only [serialSchedule, List.length_cons, List.range'_succ, List.flatMap_cons]
    rw [runSchedule_append, runSchedule_replicate hc, c.thread_runs w]
    have := ih (ts ++ [.done (c.run w).2]) (c.run w).1
    simp only [List.length_append, List.length_singleton, List.append_assoc,
      List.singleton_append, serialSchedule] at this
    simp only [List.map_cons, List.set_append_right _ _ (Nat.le_refl _), Nat.sub_self,
      List.set_cons_zero, this, ConversationCall.runCalls]

/-- A group created for `[1]` (one leaf, saved as `[0]`) and two `add_members` calls, each of
the one member `[2]` with a key package. The first commits and saves `[0, 0]`; the second commits, saves and persists `[0, 0, 0]`; the
first persists. Both return `Ok`, the group has three leaves, the row holds two. -/
theorem interleaved_adds_leave_row_stale :
    ∃ (c₀ : MlsConversation tallyLib) (ks₀ : Keystore) (w : World tallyLib),
      MlsConversation.create [1] (.ok []) {} (.ok ()) Keystore.empty = (ks₀, .ok (c₀, none)) ∧
      runSchedule [0, 0, 0, 1, 1, 1, 1, 0]
          ([(ConversationCall.addMembers [⟨[([2], some ())]⟩] (.ok ())).thread,
            (ConversationCall.addMembers [⟨[([2], some ())]⟩] (.ok ())).thread], (c₀, ks₀)) =
        ([.done (.ok ()), .done (.ok ())], w) ∧
      w.2.mlsGroups.lookup w.1.id = some [0, 0] ∧ tallyLib.save w.1.group.state = .ok [0, 0, 0] :=
  ⟨_, _, _, rfl, rfl, rfl, rfl⟩

end Schedules

end CoreCrypto
