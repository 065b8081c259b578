import BtcVM.Gossip.LockOrder

/-!
# Without a push round, the locks never deadlock

`add_round_deadlock` needs a push-gossip round: a round is the only goroutine that takes the
driver's lock before the set's. Among `Add`s, read-locked calls (`Has`, `Iterate`,
`GetFilter`) and block relays, the set's lock is always the first taken, so every holder can
move on. From every state those calls reach, some run returns them all and frees both locks
(`run_completes`).

The proof follows the holders. The recorded writer and driver are goroutines whose program
counters hold those locks, and the reader count is the number of goroutines in a read-locked
section (`LockSys.Held`). A goroutine blocked on a lock waits for a holder that can move
(`progress`), and every step shortens what is left to run (`remaining_step`).

The deadlock needs an `Add` too: the `Add` is the only goroutine that takes the set's lock
before the driver's. Among read-locked calls, rounds and relays the set's lock is never held
for writing, so a round's `Has` never waits, and the same argument applies
(`run_completes_without_add`). What the proof uses is that only one lock order is in play
(`LockSys.OneOrder`).
-/

namespace BtcVM.Gossip

/-! ## Lock holders -/

/-- The goroutine is between `RLock` and `RUnlock`. -/
def Goroutine.holdsRead : Goroutine → Bool
  | .read (_ + 1) => true
  | .round 2 => true
  | _ => false

/-- A push-gossip round. -/
def Goroutine.isRound : Goroutine → Bool
  | .round _ => true
  | _ => false

/-- An `Add`. -/
def Goroutine.isAdd : Goroutine → Bool
  | .add _ => true
  | _ => false

/-- The steps the goroutine has left before it returns. -/
def Goroutine.remaining : Goroutine → Nat
  | .add pc => 4 - min pc 3
  | .read pc => 2 - min pc 1
  | .round pc => 4 - min pc 3
  | .relay pc => 2 - min pc 1
  | .done => 0

/-- The steps the goroutines of a list have left. -/
def stepsLeft : List Goroutine → Nat
  | [] => 0
  | g :: gs => g.remaining + stepsLeft gs

/-- The steps all goroutines of the system have left. -/
def LockSys.remaining (s : LockSys) : Nat := stepsLeft s.threads

/-- The recorded writer and driver are goroutines that hold those locks, and the reader count
is the number of goroutines in a read-locked section. -/
structure LockSys.Held (s : LockSys) : Prop where
  writer : ∀ k, s.writer = some k → ∃ g, s.threads[k]? = some g ∧ g.holdsSet = true
  driver : ∀ k, s.driver = some k → ∃ g, s.threads[k]? = some g ∧ g.holdsDriver = true
  readers : s.readers = s.threads.countP Goroutine.holdsRead

/-- No goroutine is a push-gossip round. -/
def LockSys.NoRound (s : LockSys) : Prop := ∀ g ∈ s.threads, g.isRound = false

/-- No goroutine is an `Add`. -/
def LockSys.NoAdd (s : LockSys) : Prop := ∀ g ∈ s.threads, g.isAdd = false

/-- Only one lock order is in play: no round, so the set's lock is always taken first, or no
`Add`, so no goroutine takes the set's lock and then the driver's. -/
def LockSys.OneOrder (s : LockSys) : Prop := s.NoRound ∨ s.NoAdd

/-- Before any goroutine runs, the locks' records agree with the goroutines: none is held. -/
theorem init_held (calls : List Call) : (LockSys.init calls).Held := by
  refine ⟨fun _ h => (by cases h), fun _ h => (by cases h), ?_⟩
  simp only [LockSys.init, List.countP_map]
  symm
  rw [List.countP_eq_zero]
  intro c _
  cases c <;> decide

/-- Without a round among the calls, no goroutine is a round. -/
theorem init_noRound {calls : List Call} (hc : Call.round ∉ calls) :
    (LockSys.init calls).NoRound := by
  simp only [LockSys.NoRound, LockSys.init, List.mem_map]
  rintro _ ⟨c, hc', rfl⟩
  cases c <;> first | rfl | exact absurd hc' hc

/-- Without an `Add` among the calls, no goroutine is an `Add`. -/
theorem init_noAdd {calls : List Call} (hc : Call.add ∉ calls) :
    (LockSys.init calls).NoAdd := by
  simp only [LockSys.NoAdd, LockSys.init, List.mem_map]
  rintro _ ⟨c, hc', rfl⟩
  cases c <;> first | rfl | exact absurd hc' hc

/-- Without an `Add`, nobody holds the set's lock for writing. -/
theorem LockSys.Held.writer_eq_none {s : LockSys} (hs : s.Held) (ha : s.NoAdd) : s.writer = none := by
  cases hw : s.writer with
  | none => rfl
  | some k =>
    obtain ⟨g, hg, hk⟩ := hs.writer k hw
    have := ha g (List.getElem?_mem hg)
    cases g <;> simp_all [Goroutine.holdsSet, Goroutine.isAdd]

/-- Goroutine `m` moves from `g` to `g'` and the lock records become `w`, `r`, `d`: the
records stay held when each names `m` only if `g'` holds that lock, or names a goroutine it
named before, and the reader count moves with `m`'s read-locked section. -/
theorem held_set {s : LockSys} (hs : s.Held) {m : Nat} {g g' : Goroutine}
    (hg : s.threads[m]? = some g) {w d : Option Nat} {r : Nat}
    (hw : ∀ k, w = some k → k = m ∧ g'.holdsSet = true ∨ k ≠ m ∧ s.writer = some k)
    (hd : ∀ k, d = some k → k = m ∧ g'.holdsDriver = true ∨ k ≠ m ∧ s.driver = some k)
    (hr : r + (if g.holdsRead then 1 else 0) = s.readers + (if g'.holdsRead then 1 else 0)) :
    LockSys.Held ⟨s.threads.set m g', w, r, d⟩ := by
  obtain ⟨hm, hgm⟩ := List.getElem?_eq_some_iff.mp hg
  refine ⟨fun k hk => ?_, fun k hk => ?_, ?_⟩
  · rcases hw k hk with ⟨rfl, h⟩ | ⟨hne, h⟩
    · exact ⟨g', List.getElem?_set_self hm, h⟩
    · obtain ⟨g₁, h₁, h₂⟩ := hs.writer k h
      exact ⟨g₁, by rwa [List.getElem?_set_ne (Ne.symm hne)], h₂⟩
  · rcases hd k hk with ⟨rfl, h⟩ | ⟨hne, h⟩
    · exact ⟨g', List.getElem?_set_self hm, h⟩
    · obtain ⟨g₁, h₁, h₂⟩ := hs.driver k h
      exact ⟨g₁, by rwa [List.getElem?_set_ne (Ne.symm hne)], h₂⟩
  · have hle := List.boole_getElem_le_countP Goroutine.holdsRead s.threads m hm
    show r = (s.threads.set m g').countP _
    rw [List.countP_set _ _ _ _ hm, hgm] at *
    rw [hs.readers] at hr
    rw [hgm] at hle
    omega

/-- Every step keeps the lock records held. -/
theorem held_step {s s' : LockSys} {m : Nat} (hs : s.Held) (h : s.step m = some s') :
    s'.Held := by
  unfold LockSys.step at h
  rcases hg : s.threads[m]? with _ | g
  · simp [hg] at h
  rw [hg] at h
  have hw : s.writer = some m → g.holdsSet = true := fun hk => by
    obtain ⟨g₁, h₁, h₂⟩ := hs.writer m hk
    rw [hg] at h₁; cases h₁; exact h₂
  have hd : s.driver = some m → g.holdsDriver = true := fun hk => by
    obtain ⟨g₁, h₁, h₂⟩ := hs.driver m hk
    rw [hg] at h₁; cases h₁; exact h₂
  have hrd : g.holdsRead = true → 0 < s.readers := fun hk => by
    rw [hs.readers, List.countP_pos_iff]
    exact ⟨g, List.getElem?_mem hg, hk⟩
  rcases g with ⟨_ | _ | _ | pc⟩ | ⟨_ | pc⟩ | ⟨_ | _ | _ | pc⟩ | ⟨_ | pc⟩ | _ <;>
    simp only [threadStep] at h <;> (try split_ifs at h) <;> cases h <;>
    refine held_set hs hg ?_ ?_ ?_ <;>
    simp only [Goroutine.holdsSet, Goroutine.holdsDriver, Goroutine.holdsRead, Option.some.injEq,
      forall_eq', true_and, and_true, Bool.false_eq_true, and_false, false_or, if_true, if_false,
      reduceCtorEq, imp_false, true_implies, Nat.add_zero, Nat.zero_add] at hw hd hrd ⊢ <;>
    first
      | exact fun _ h => h.elim
      | exact .inl trivial
      | exact fun k hk => (eq_or_ne k m).imp_right fun hne => ⟨hne, hk⟩
      | exact fun k hk => ⟨fun h => hw (h ▸ hk), hk⟩
      | exact fun k hk => ⟨fun h => hd (h ▸ hk), hk⟩
      | omega

/-! ## Steps -/

/-- A step moves one goroutine to a successor of its own kind, or to `done`, with fewer steps
left. -/
theorem step_eq {s s' : LockSys} {m : Nat} (h : s.step m = some s') :
    ∃ g g', s.threads[m]? = some g ∧ s'.threads = s.threads.set m g' ∧
      (g'.isRound = true → g.isRound = true) ∧ (g'.isAdd = true → g.isAdd = true) ∧
      g'.remaining < g.remaining := by
  unfold LockSys.step at h
  rcases hg : s.threads[m]? with _ | g
  · simp [hg] at h
  rw [hg] at h
  rcases g with ⟨_ | _ | _ | pc⟩ | ⟨_ | pc⟩ | ⟨_ | _ | _ | pc⟩ | ⟨_ | pc⟩ | _ <;>
    simp only [threadStep] at h <;> (try split_ifs at h) <;> cases h <;>
    exact ⟨_, _, rfl, rfl, by simp [Goroutine.isRound], by simp [Goroutine.isAdd],
      by simp [Goroutine.remaining]⟩

/-- A kind of goroutine absent from a list stays absent when one goroutine moves to a
successor of its own kind. -/
theorem absent_set {p : Goroutine → Bool} {l : List Goroutine} {m : Nat} {g g' : Goroutine}
    (hl : ∀ x ∈ l, p x = false) (hg : l[m]? = some g) (hp : p g' = true → p g = true) :
    ∀ x ∈ l.set m g', p x = false := by
  intro x hx
  rcases List.mem_or_eq_of_mem_set hx with hx | rfl
  · exact hl x hx
  · cases hx' : p x
    · rfl
    · exact absurd (hp hx') (by rw [hl g (List.getElem?_mem hg)]; decide)

/-- Every step keeps the goroutines taking the locks in one order. -/
theorem oneOrder_step {s s' : LockSys} {m : Nat} (hs : s.OneOrder) (h : s.step m = some s') :
    s'.OneOrder := by
  obtain ⟨g, g', hg, hs', hr, ha, -⟩ := step_eq h
  rcases hs with hs | hs
  · exact .inl fun x hx => absent_set hs hg hr x (hs' ▸ hx)
  · exact .inr fun x hx => absent_set hs hg ha x (hs' ▸ hx)

/-- Moving goroutine `m` from `g` to `g'` changes the steps left by the difference. -/
theorem stepsLeft_set : ∀ {l : List Goroutine} {m : Nat} {g : Goroutine} (g' : Goroutine),
    l[m]? = some g → stepsLeft (l.set m g') + g.remaining = stepsLeft l + g'.remaining
  | [], _, _, _, h => by cases h
  | _ :: _, 0, _, _, h => by
    simp only [List.getElem?_cons_zero, Option.some.injEq] at h
    subst h
    simp only [List.set_cons_zero, stepsLeft]
    omega
  | _ :: _, _ + 1, _, g', h => by
    have ih := stepsLeft_set g' (by simpa using h)
    simp only [List.set_cons_succ, stepsLeft]
    omega

/-- Every step shortens what is left to run. -/
theorem remaining_step {s s' : LockSys} {m : Nat} (h : s.step m = some s') :
    s'.remaining < s.remaining := by
  obtain ⟨g, g', hg, hs', -, -, hlt⟩ := step_eq h
  have := stepsLeft_set g' hg
  simp only [LockSys.remaining, hs']
  omega

/-! ## Progress -/

section Progress

variable {s : LockSys} (hs : s.Held) (ho : s.OneOrder)
include hs ho

/-- The driver's holder can always move on: an `Add` about to release it, a relay, or a round,
whose `Has` waits for no writer when there is a round but no `Add`. -/
theorem driver_holder_steps {k : Nat} (hk : s.driver = some k) : ∃ s', s.step k = some s' := by
  obtain ⟨g, hg, hd⟩ := hs.driver k hk
  have hround : g = .round 1 → s.writer = none := by
    rintro rfl
    rcases ho with hr | ha
    · cases hr _ (List.getElem?_mem hg)
    · exact hs.writer_eq_none ha
  rcases g with ⟨_ | _ | _ | pc⟩ | _ | ⟨_ | _ | _ | pc⟩ | ⟨_ | pc⟩ | _ <;>
    simp [Goroutine.holdsDriver] at hd <;>
    exact Option.isSome_iff_exists.mp (by simp [LockSys.step, hg, threadStep, hround])

/-- A held set lock lets some goroutine move: its holder, or the driver's holder it waits for. -/
theorem writer_holder_progress {k : Nat} (hk : s.writer = some k) :
    ∃ i s', s.step i = some s' := by
  obtain ⟨g, hg, hw⟩ := hs.writer k hk
  rcases g with ⟨_ | _ | _ | pc⟩ | _ | _ | _ | _ <;> simp [Goroutine.holdsSet] at hw
  · cases hd : s.driver with
    | none => exact ⟨k, Option.isSome_iff_exists.mp (by simp [LockSys.step, hg, threadStep, hd])⟩
    | some j => exact ⟨j, driver_holder_steps hs ho hd⟩
  all_goals exact ⟨k, Option.isSome_iff_exists.mp (by simp [LockSys.step, hg, threadStep])⟩

omit ho in
/-- Readers in a read-locked section let one of them move. -/
theorem reader_progress (hpos : 0 < s.readers) : ∃ i s', s.step i = some s' := by
  rw [hs.readers, List.countP_pos_iff] at hpos
  obtain ⟨g, hmem, hg⟩ := hpos
  obtain ⟨i, hi⟩ := List.mem_iff_getElem?.1 hmem
  rcases g with _ | ⟨_ | pc⟩ | ⟨_ | _ | _ | pc⟩ | _ | _ <;> simp [Goroutine.holdsRead] at hg <;>
    exact ⟨i, Option.isSome_iff_exists.mp (by simp [LockSys.step, hi, threadStep])⟩

/-- Some goroutine can move, unless every one has returned. -/
theorem progress : (∀ g ∈ s.threads, g = .done) ∨ ∃ i s', s.step i = some s' := by
  by_cases hall : ∀ g ∈ s.threads, g = .done
  · exact .inl hall
  push_neg at hall
  obtain ⟨g, hmem, hne⟩ := hall
  obtain ⟨i, hi⟩ := List.mem_iff_getElem?.1 hmem
  refine .inr ?_
  have free : (s.step i).isSome → ∃ i s', s.step i = some s' :=
    fun h => ⟨i, Option.isSome_iff_exists.mp h⟩
  have byDriver : (s.driver = none → (s.step i).isSome) → ∃ i s', s.step i = some s' := fun h => by
    cases hd : s.driver with
    | none => exact free (h hd)
    | some j => exact ⟨j, driver_holder_steps hs ho hd⟩
  have byWriter : (s.writer = none → (s.step i).isSome) → ∃ i s', s.step i = some s' := fun h => by
    cases hw : s.writer with
    | none => exact free (h hw)
    | some k => exact writer_holder_progress hs ho hw
  rcases g with ⟨_ | _ | _ | pc⟩ | ⟨_ | pc⟩ | ⟨_ | _ | _ | pc⟩ | ⟨_ | pc⟩ | _
  · by_cases hrd : s.readers = 0
    · exact byWriter fun hw => by simp [LockSys.step, hi, threadStep, hw, hrd]
    · exact reader_progress hs (Nat.pos_of_ne_zero hrd)
  · exact byDriver fun hd => by simp [LockSys.step, hi, threadStep, hd]
  · exact free (by simp [LockSys.step, hi, threadStep])
  · exact free (by simp [LockSys.step, hi, threadStep])
  · exact byWriter fun hw => by simp [LockSys.step, hi, threadStep, hw]
  · exact free (by simp [LockSys.step, hi, threadStep])
  · exact byDriver fun hd => by simp [LockSys.step, hi, threadStep, hd]
  · exact byWriter fun hw => by simp [LockSys.step, hi, threadStep, hw]
  · exact free (by simp [LockSys.step, hi, threadStep])
  · exact free (by simp [LockSys.step, hi, threadStep])
  · exact byDriver fun hd => by simp [LockSys.step, hi, threadStep, hd]
  · exact free (by simp [LockSys.step, hi, threadStep])
  · exact absurd rfl hne

end Progress

/-! ## Runs -/

theorem held_run : ∀ (ks : List Nat) {s s' : LockSys}, s.Held → s.OneOrder →
    s.run ks = some s' → s'.Held ∧ s'.OneOrder
  | [], _, _, hs, ho, h => by cases h; exact ⟨hs, ho⟩
  | _ :: ks, _, _, hs, ho, h => by
    obtain ⟨t, ht, hrun⟩ := Option.bind_eq_some.mp h
    exact held_run ks (held_step hs ht) (oneOrder_step ho ht) hrun

/-- With the locks held and one lock order, some run returns every goroutine: by induction on
what is left to run, each step given by `progress`. -/
theorem run_to_done {s : LockSys} (hs : s.Held) (ho : s.OneOrder) :
    ∃ ks s', s.run ks = some s' ∧ ∀ g ∈ s'.threads, g = .done := by
  obtain ⟨n, hn⟩ : ∃ n, s.remaining = n := ⟨_, rfl⟩
  induction n using Nat.strong_induction_on generalizing s with
  | _ n ih =>
    rcases progress hs ho with hall | ⟨i, s₁, h₁⟩
    · exact ⟨[], s, rfl, hall⟩
    · obtain ⟨ks, s', hrun, hall⟩ :=
        ih _ (hn ▸ remaining_step h₁) (held_step hs h₁) (oneOrder_step ho h₁) rfl
      exact ⟨i :: ks, s', by simp [LockSys.run, h₁, hrun], hall⟩

/-- Once every goroutine has returned, the lock records are free. -/
theorem LockSys.Held.free_of_done {s : LockSys} (hs : s.Held) (hall : ∀ g ∈ s.threads, g = .done) :
    s.writer = none ∧ s.readers = 0 ∧ s.driver = none := by
  refine ⟨?_, ?_, ?_⟩
  · cases hw : s.writer with
    | none => rfl
    | some k =>
      obtain ⟨g, hg, hk⟩ := hs.writer k hw
      rw [hall g (List.getElem?_mem hg)] at hk
      cases hk
  · rw [hs.readers, List.countP_eq_zero]
    intro g hg
    rw [hall g hg]
    decide
  · cases hd : s.driver with
    | none => rfl
    | some k =>
      obtain ⟨g, hg, hk⟩ := hs.driver k hd
      rw [hall g (List.getElem?_mem hg)] at hk
      cases hk

/-- From every state the calls reach with one lock order in play, some run returns them all and
frees both locks. -/
theorem oneOrder_completes {calls : List Call} (ho : (LockSys.init calls).OneOrder)
    {ks : List Nat} {s : LockSys} (h : (LockSys.init calls).run ks = some s) :
    ∃ ks' s', s.run ks' = some s' ∧ (∀ g ∈ s'.threads, g = .done) ∧
      s'.writer = none ∧ s'.readers = 0 ∧ s'.driver = none := by
  obtain ⟨hs, ho⟩ := held_run ks (init_held calls) ho h
  obtain ⟨ks', s', hrun, hall⟩ := run_to_done hs ho
  exact ⟨ks', s', hrun, hall, (held_run ks' hs ho hrun).1.free_of_done hall⟩

/-- Without a push-gossip round, the gossip set's lock and the driver's never deadlock: from
every state that `Add`s, read-locked calls and block relays reach, some run returns them all
and frees both locks. -/
theorem run_completes {calls : List Call} (hc : Call.round ∉ calls) {ks : List Nat}
    {s : LockSys} (h : (LockSys.init calls).run ks = some s) :
    ∃ ks' s', s.run ks' = some s' ∧ (∀ g ∈ s'.threads, g = .done) ∧
      s'.writer = none ∧ s'.readers = 0 ∧ s'.driver = none :=
  oneOrder_completes (.inl (init_noRound hc)) h

/-- `run_completes` once an `Add` holds the set's lock beside a read and a relay. -/
theorem add_read_relay_completes :
    Call.round ∉ [Call.add, .read, .relay] ∧
      ∃ s, (LockSys.init [.add, .read, .relay]).run [0] = some s ∧
        ∃ ks' s', s.run ks' = some s' ∧ (∀ g ∈ s'.threads, g = .done) ∧
          s'.writer = none ∧ s'.readers = 0 ∧ s'.driver = none :=
  have hc : Call.round ∉ [Call.add, .read, .relay] := by decide
  ⟨hc, _, rfl, @run_completes _ hc [0] _ rfl⟩

/-- Without an `Add`, the locks never deadlock either: from every state that read-locked
calls, push-gossip rounds and block relays reach, some run returns them all and frees both
locks. -/
theorem run_completes_without_add {calls : List Call} (hc : Call.add ∉ calls) {ks : List Nat}
    {s : LockSys} (h : (LockSys.init calls).run ks = some s) :
    ∃ ks' s', s.run ks' = some s' ∧ (∀ g ∈ s'.threads, g = .done) ∧
      s'.writer = none ∧ s'.readers = 0 ∧ s'.driver = none :=
  oneOrder_completes (.inr (init_noAdd hc)) h

/-- `run_completes_without_add` once a round holds the driver's lock beside a read and a
relay. -/
theorem round_read_relay_completes :
    Call.add ∉ [Call.round, .read, .relay] ∧
      ∃ s, (LockSys.init [.round, .read, .relay]).run [0] = some s ∧
        ∃ ks' s', s.run ks' = some s' ∧ (∀ g ∈ s'.threads, g = .done) ∧
          s'.writer = none ∧ s'.readers = 0 ∧ s'.driver = none :=
  have hc : Call.add ∉ [Call.round, .read, .relay] := by decide
  ⟨hc, _, rfl, @run_completes_without_add _ hc [0] _ rfl⟩

end BtcVM.Gossip
