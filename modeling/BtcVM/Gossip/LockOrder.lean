import Mathlib.Data.List.Basic

/-!
# Lock order between the gossip set and the push driver

`UnifiedBTCSet.Add` of a transaction holds the set's write lock while `OnTxRelay` calls the
push gossiper's `Add`, which takes the driver's lock. A push-gossip round holds the driver's
lock while it asks the set `Has` for queued items, which takes the set's read lock. The
two goroutines take the locks in opposite orders.

The driver (`gossip.PushGossiper`) is not under `src/`; as the spec describes it, it holds
its lock across its `Add` and across a round. Block relays call the driver's `Add` on a
goroutine of their own, holding no set lock. Each goroutine is a program counter; a lock
acquisition is a step enabled only while the lock is available. A state where an `Add`
holds the set waiting for the driver and a round holds the driver waiting for the set stays
so after every step (`deadlock_step`), and one interleaving of an `Add` and a round reaches
it (`add_round_deadlock`).
-/

namespace BtcVM.Gossip

/-- A goroutine that takes the set's or the driver's lock, with its program counter. -/
inductive Goroutine
  /-- `UnifiedBTCSet.Add` of a transaction that the mempool accepts -/
  | add (pc : Nat)
  /-- `Has`, `Iterate` or `GetFilter` on the set: a read-locked section -/
  | read (pc : Nat)
  /-- a push-gossip round -/
  | round (pc : Nat)
  /-- the block-relay goroutine's call of the driver's `Add` -/
  | relay (pc : Nat)
  | done
  deriving DecidableEq, Repr

/-- The goroutines and the two locks: the set's `RWMutex` (a writer or a count of readers)
and the driver's mutex, each holder named by its index. -/
structure LockSys where
  threads : List Goroutine
  writer : Option Nat
  readers : Nat
  driver : Option Nat
  deriving DecidableEq, Repr

/-- Goroutine `i` at its program counter takes one step: the next state, or `none` when it is
blocked on a lock or has returned.

* `add`: 0 `s.lock.Lock()`; 1 `OnTxRelay` → the driver's `Add` takes its lock;
  2 it unlocks; 3 `s.lock.Unlock()`.
* `read`: 0 `s.lock.RLock()`; 1 `s.lock.RUnlock()`.
* `round`: 0 the driver's lock; 1 `Has` takes `s.lock.RLock()`; 2 `RUnlock`; 3 the driver's
  unlock.
* `relay`: 0 the driver's lock; 1 its unlock. -/
def threadStep (s : LockSys) (i : Nat) : Goroutine → Option LockSys
  | .add 0 =>
    if s.writer = none ∧ s.readers = 0 then some { s with writer := some i, threads := s.threads.set i (.add 1) } else none
  | .add 1 =>
    if s.driver = none then some { s with driver := some i, threads := s.threads.set i (.add 2) } else none
  | .add 2 => some { s with driver := none, threads := s.threads.set i (.add 3) }
  | .add _ => some { s with writer := none, threads := s.threads.set i .done }
  | .read 0 =>
    if s.writer = none then some { s with readers := s.readers + 1, threads := s.threads.set i (.read 1) } else none
  | .read _ => some { s with readers := s.readers - 1, threads := s.threads.set i .done }
  | .round 0 =>
    if s.driver = none then some { s with driver := some i, threads := s.threads.set i (.round 1) } else none
  | .round 1 =>
    if s.writer = none then some { s with readers := s.readers + 1, threads := s.threads.set i (.round 2) } else none
  | .round 2 => some { s with readers := s.readers - 1, threads := s.threads.set i (.round 3) }
  | .round _ => some { s with driver := none, threads := s.threads.set i .done }
  | .relay 0 =>
    if s.driver = none then some { s with driver := some i, threads := s.threads.set i (.relay 1) } else none
  | .relay _ => some { s with driver := none, threads := s.threads.set i .done }
  | .done => none

/-- Goroutine `i` takes a step. -/
def LockSys.step (s : LockSys) (i : Nat) : Option LockSys :=
  match s.threads[i]? with
  | some g => threadStep s i g
  | none => none

/-- The state after the goroutines with these indices step in turn. -/
def LockSys.run (s : LockSys) : List Nat → Option LockSys
  | [] => some s
  | i :: is => (s.step i).bind (·.run is)

/-- The calls whose goroutines take these locks. -/
inductive Call
  | add
  | read
  | round
  | relay
  deriving DecidableEq, Repr

/-- A call's goroutine before its first step. -/
def Call.start : Call → Goroutine
  | .add => .add 0
  | .read => .read 0
  | .round => .round 0
  | .relay => .relay 0

/-- The goroutines of these calls before any of them has run: every lock free. -/
def LockSys.init (calls : List Call) : LockSys := ⟨calls.map Call.start, none, 0, none⟩

/-- An `Add` holds the set's lock and waits for the driver's, which a round holds while it
waits for the set's. -/
def LockSys.Deadlock (s : LockSys) : Prop :=
  ∃ i j, s.threads[i]? = some (.add 1) ∧ s.writer = some i ∧
    s.threads[j]? = some (.round 1) ∧ s.driver = some j

/-! ## Who holds a lock -/

/-- The goroutine is between its `s.lock.Lock()` and its `s.lock.Unlock()`. -/
def Goroutine.holdsSet : Goroutine → Bool
  | .add (_ + 1) => true
  | _ => false

/-- The goroutine is between taking and releasing the driver's lock. -/
def Goroutine.holdsDriver : Goroutine → Bool
  | .add 2 => true
  | .round (_ + 1) => true
  | .relay (_ + 1) => true
  | _ => false

/-- A goroutine whose program counter says it holds a lock is that lock's recorded holder. -/
def LockSys.Owned (s : LockSys) : Prop :=
  ∀ k g, s.threads[k]? = some g →
    (g.holdsSet = true → s.writer = some k) ∧ (g.holdsDriver = true → s.driver = some k)

/-- Before any goroutine runs, none holds a lock, so `Owned` holds trivially. -/
theorem init_owned (calls : List Call) : (LockSys.init calls).Owned := by
  intro k g hk
  simp only [LockSys.init, List.getElem?_map, Option.map_eq_some'] at hk
  obtain ⟨c, -, rfl⟩ := hk
  cases c <;> simp [Call.start, Goroutine.holdsSet, Goroutine.holdsDriver]

/-- Goroutine `m` moves to `g'` and the locks become `w` and `d`: ownership is kept when `g'`
holds only what `m` is recorded to hold, and no other goroutine loses a lock. -/
theorem owned_set {s : LockSys} (hs : s.Owned) {m : Nat} {g g' : Goroutine}
    (hg : s.threads[m]? = some g) {w d : Option Nat} (r : Nat)
    (hw : ∀ k, k ≠ m → s.writer = some k → w = some k)
    (hd : ∀ k, k ≠ m → s.driver = some k → d = some k)
    (hset : g'.holdsSet = true → w = some m) (hdrv : g'.holdsDriver = true → d = some m) :
    LockSys.Owned ⟨s.threads.set m g', w, r, d⟩ := by
  have hm : m < s.threads.length := (List.getElem?_eq_some_iff.mp hg).1
  intro k g₁ hk
  by_cases hkm : k = m
  · subst hkm
    simp only [List.getElem?_set_self hm, Option.some.injEq] at hk
    subst hk
    exact ⟨hset, hdrv⟩
  · rw [List.getElem?_set_ne (Ne.symm hkm)] at hk
    obtain ⟨h₁, h₂⟩ := hs k g₁ hk
    exact ⟨fun h => hw k hkm (h₁ h), fun h => hd k hkm (h₂ h)⟩

/-- Every step keeps the recorded holders in line with the program counters. -/
theorem owned_step {s s' : LockSys} {m : Nat} (hs : s.Owned) (h : s.step m = some s') :
    s'.Owned := by
  unfold LockSys.step at h
  rcases hg : s.threads[m]? with _ | g
  · simp [hg] at h
  rw [hg] at h
  have hown := hs m g hg
  rcases g with ⟨_ | _ | _ | pc⟩ | ⟨_ | pc⟩ | ⟨_ | _ | _ | pc⟩ | ⟨_ | pc⟩ | _ <;>
    simp only [threadStep] at h <;> (try split_ifs at h) <;> cases h <;>
    refine owned_set hs hg _ ?_ ?_ ?_ ?_ <;>
    simp_all [Goroutine.holdsSet, Goroutine.holdsDriver] <;>
    exact fun _ hk h => hk h.symm

/-- Every run keeps each goroutine that holds a lock its recorded holder. -/
theorem owned_run : ∀ (ks : List Nat) {s s' : LockSys}, s.Owned → s.run ks = some s' → s'.Owned
  | [], _, _, hs, h => by cases h; exact hs
  | _ :: ks, _, _, hs, h => by
    obtain ⟨t, ht, hr⟩ := Option.bind_eq_some.mp h
    exact owned_run ks (owned_step hs ht) hr

/-! ## The deadlock -/

/-- A step of a goroutine other than the two deadlocked ones that leaves both holders alone
keeps the deadlock. -/
theorem deadlock_set {threads : List Goroutine} {i j k : Nat}
    (hi : threads[i]? = some (.add 1)) (hj : threads[j]? = some (.round 1)) (hki : k ≠ i)
    (hkj : k ≠ j) (g' : Goroutine) (r : Nat) :
    LockSys.Deadlock ⟨threads.set k g', some i, r, some j⟩ :=
  ⟨i, j, by rwa [List.getElem?_set_ne hki], rfl, by rwa [List.getElem?_set_ne hkj], rfl⟩

/-- No step undoes a deadlock: neither goroutine in it can move, and no other holds either
lock. -/
theorem deadlock_step {s s' : LockSys} {k : Nat} (hs : s.Owned) (hdl : s.Deadlock)
    (h : s.step k = some s') : s'.Deadlock := by
  obtain ⟨i, j, hi, hw, hj, hd⟩ := hdl
  unfold LockSys.step at h
  rcases hg : s.threads[k]? with _ | g
  · simp [hg] at h
  rw [hg] at h
  have hown := hs k g hg
  rcases g with ⟨_ | _ | _ | pc⟩ | ⟨_ | pc⟩ | ⟨_ | _ | _ | pc⟩ | ⟨_ | pc⟩ | _ <;>
    simp only [threadStep] at h <;> (try split_ifs at h) <;> cases h <;>
    simp_all [Goroutine.holdsSet, Goroutine.holdsDriver]
  exact deadlock_set hi hj (by rintro rfl; simp_all) (by rintro rfl; simp_all) _ _

/-- Once reached, the deadlock outlasts every run. -/
theorem deadlock_run : ∀ (ks : List Nat) {s s' : LockSys}, s.Owned → s.Deadlock →
    s.run ks = some s' → s'.Deadlock
  | [], _, _, _, hd, h => by cases h; exact hd
  | _ :: ks, _, _, hs, hd, h => by
    obtain ⟨t, ht, hr⟩ := Option.bind_eq_some.mp h
    exact deadlock_run ks (owned_step hs ht) (deadlock_step hs hd ht) hr

/-- Whatever other calls run, an `Add` that takes the set's lock and then a round that takes
the driver's deadlock, and stay deadlocked after any further steps. -/
theorem add_round_deadlock (calls : List Call) :
    ∃ s, (LockSys.init (.add :: .round :: calls)).run [0, 1] = some s ∧ s.Deadlock ∧
      ∀ ks s', s.run ks = some s' → s'.Deadlock := by
  have hrun : (LockSys.init (.add :: .round :: calls)).run [0, 1] =
      some ⟨.add 1 :: .round 1 :: calls.map Call.start, some 0, 0, some 1⟩ := by
    simp [LockSys.init, LockSys.run, LockSys.step, threadStep, Call.start]
  have hd : LockSys.Deadlock ⟨.add 1 :: .round 1 :: calls.map Call.start, some 0, 0, some 1⟩ :=
    ⟨0, 1, by simp, rfl, by simp, rfl⟩
  exact ⟨_, hrun, hd, fun ks _ h => deadlock_run ks (owned_run [0, 1] (init_owned _) hrun) hd h⟩

end BtcVM.Gossip