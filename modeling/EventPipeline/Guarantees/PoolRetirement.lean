import EventPipeline.Portfolio.ConnectionPool

/-!
# EventPipeline.Guarantees.PoolRetirement

A replaced pool is closed once, and not before its last connection is returned.

The counts and the retired pools are keyed by addresses. The invariant ties each key to one
pool: an address with a count is that of the current pool or of a retired one, and no two
pools that are live share an address. With it every critical section is a change at one
pool, and the rest of the state stays as it was.
-/

namespace EventPipeline.Guarantees

open EventPipeline.Portfolio.ConnectionPool

/-- The current pool and the retired ones are counted rightly, and what was closed is
referred to by nothing. -/
structure PoolsConsistent (s : System) : Prop where
  current : ∀ {pool}, s.globals.pool = some pool →
    s.globals.pool_active pool.address = some (s.outstandingOf pool) ∧
    s.globals.retired_pools pool.address = none
  retired : ∀ {key pool}, s.globals.retired_pools key = some pool →
    pool.address = key ∧ s.globals.pool_active key = some (s.outstandingOf pool) ∧
    s.outstandingOf pool ≠ 0
  recorded : ∀ {key count}, s.globals.pool_active key = some count →
    ∃ pool, pool.address = key ∧
      (s.globals.pool = some pool ∨ s.globals.retired_pools key = some pool)
  held : ∀ {pool conn}, (pool, conn) ∈ s.outstanding →
    s.globals.pool = some pool ∨ s.globals.retired_pools pool.address = some pool
  installed : ∀ {pool}, pool ∈ s.installed ↔ s.globals.pool = some pool ∨
    s.globals.retired_pools pool.address = some pool ∨ pool ∈ s.closed
  closed_dead : ∀ {pool}, pool ∈ s.closed → ¬s.Live pool
  closed_once : s.closed.Nodup
  fresh : ∀ {pool}, pool ∈ s.created → pool ∉ s.installed
  created_once : s.created.Nodup
  serials : ∀ {pool}, pool ∈ s.created ∨ pool ∈ s.installed → pool.serial < s.serials
  addresses : ∀ {pool other}, s.Live pool → s.Live other → pool.address = other.address →
    pool = other

theorem poolsConsistent_initial : PoolsConsistent .initial where
  current := fun h => by cases h
  retired := fun h => by cases h
  recorded := fun h => by cases h
  held := fun h => by cases h
  installed := by simp [System.initial]
  closed_dead := fun h => by cases h
  closed_once := List.nodup_nil
  fresh := fun h => by cases h
  created_once := List.nodup_nil
  serials := fun h => by rcases h with h | h <;> cases h
  addresses := fun h => by
    rcases h with h | h | ⟨_, h⟩ | ⟨_, h⟩ <;> cases h

/-! ### What is live

An address may be used again once its pool is gone. Pools that are live, that is, created,
current, retired or with a connection checked out, have addresses of their own. -/

section Live

variable {s : System} (h : PoolsConsistent s) {pool : Pool}

theorem live_current (hpool : s.globals.pool = some pool) : s.Live pool := .inr (.inl hpool)

theorem live_retired {key : Nat} (hretired : s.globals.retired_pools key = some pool) :
    s.Live pool := .inr (.inr (.inl ⟨key, hretired⟩))

theorem live_created (hcreated : pool ∈ s.created) : s.Live pool := .inl hcreated

include h

theorem PoolsConsistent.retired_ne_current {key : Nat} {other : Pool}
    (hpool : s.globals.pool = some pool) (hother : s.globals.retired_pools key = some other) :
    pool ≠ other := by
  rintro rfl
  rw [(h.retired hother).1.symm, (h.current hpool).2] at hother
  cases hother

/-- A pool that is not installed has no count and no connections. -/
theorem PoolsConsistent.unrecorded (hcreated : pool ∈ s.created) :
    s.globals.pool_active pool.address = none ∧
    s.globals.retired_pools pool.address = none ∧ s.outstandingOf pool = 0 := by
  have hfresh : ¬(s.globals.pool = some pool ∨
      s.globals.retired_pools pool.address = some pool) := fun hin =>
    h.fresh hcreated (h.installed.mpr (hin.imp_right .inl))
  have hnone : ∀ other, other.address = pool.address → s.globals.pool = some other ∨
      s.globals.retired_pools pool.address = some other → False := by
    intro other haddress hother
    have hlive : s.Live other := hother.elim live_current live_retired
    rw [h.addresses hlive (live_created hcreated) haddress] at hother
    exact hfresh hother
  refine ⟨?_, ?_, ?_⟩
  · by_contra hsome
    obtain ⟨count, hcount⟩ := Option.ne_none_iff_exists'.mp hsome
    obtain ⟨other, haddress, hother⟩ := h.recorded hcount
    exact hnone other haddress hother
  · by_contra hsome
    obtain ⟨other, hother⟩ := Option.ne_none_iff_exists'.mp hsome
    exact hnone other (h.retired hother).1 (.inr hother)
  · by_contra hcount
    obtain ⟨⟨held, conn⟩, hmem, heq⟩ :=
      List.mem_map.mp (List.count_pos_iff.mp (Nat.pos_of_ne_zero hcount))
    obtain rfl : held = pool := heq
    exact hfresh (h.held hmem)

/-- A new pool shares its address with no pool that was installed and is live. -/
theorem PoolsConsistent.address_ne_current {old : Pool} (hcreated : pool ∈ s.created)
    (hold : s.globals.pool = some old) : old.address ≠ pool.address := by
  intro haddress
  have heq := h.addresses (live_current hold) (live_created hcreated) haddress
  exact h.fresh hcreated (h.installed.mpr (.inl (heq ▸ hold)))

omit h in
theorem outstanding_pos {conn : Conn} (hheld : (pool, conn) ∈ s.outstanding) :
    0 < s.outstandingOf pool :=
  List.count_pos_iff.mpr (List.mem_map.mpr ⟨_, hheld, rfl⟩)

end Live

/-! ### Installing a pool

The pool that is replaced is closed at once where nothing is checked out of it, and retired under
its address where something is. -/

/-- What `_install_pool` makes of the globals when the pool is new. The pool that is replaced is
closed if nothing of it is checked out, and retired with its counter if something is. -/
structure Installed (s : System) (pool : Pool) (globals : Globals) (closed : List Pool) :
    Prop where
  is_current : globals.pool = some pool
  active : ∀ {key count}, globals.pool_active key = some count ↔
    (key = pool.address ∧ count = 0) ∨
    (key ≠ pool.address ∧ s.globals.pool_active key = some count ∧
      ∀ old, s.globals.pool = some old → old.address = key → s.outstandingOf old ≠ 0)
  retired : ∀ {key old}, globals.retired_pools key = some old ↔
    s.globals.retired_pools key = some old ∨
    (s.globals.pool = some old ∧ old.address = key ∧ s.outstandingOf old ≠ 0)
  closes : ∀ {old}, old ∈ closed ↔ s.globals.pool = some old ∧ s.outstandingOf old = 0
  closes_once : closed.Nodup

theorem installPool_created {s : System} (h : PoolsConsistent s) {pool : Pool}
    (hcreated : pool ∈ s.created) :
    Installed s pool (installPool pool s.globals).1 (installPool pool s.globals).2 := by
  obtain ⟨hunrecorded, hunretired, _⟩ := h.unrecorded hcreated
  have hset : setdefault s.globals.pool_active pool.address 0 =
      Function.update s.globals.pool_active pool.address (some 0) := by
    rw [setdefault, hunrecorded]
    rfl
  cases hold : s.globals.pool with
  | none =>
      simp only [installPool, hold, hset]
      refine ⟨rfl, ?_, ?_, ?_, List.nodup_nil⟩
      · intro key count
        rcases eq_or_ne key pool.address with rfl | hne
        · simp [eq_comm]
        · simp [hne, hold]
      · simp [hold]
      · simp [hold]
  | some old =>
      have haddress := h.address_ne_current hcreated hold
      have hne : old ≠ pool := fun heq => haddress (by rw [heq])
      obtain ⟨hactive, hretired⟩ := h.current hold
      -- the count of the pool that is replaced is what is checked out of it
      have hcount : (Function.update s.globals.pool_active pool.address (some 0)
          old.address).getD 0 = s.outstandingOf old := by
        rw [Function.update_of_ne haddress, hactive]
        rfl
      simp only [installPool, hold, hset, if_neg hne, hcount]
      by_cases hidle : s.outstandingOf old = 0
      · -- nothing is checked out of the old pool: it is closed, and its count is dropped
        rw [if_pos hidle]
        refine ⟨rfl, ?_, ?_, ?_, List.pairwise_singleton _ _⟩
        · intro key count
          dsimp only
          rcases eq_or_ne key old.address with rfl | hkey
          · simp [haddress, hold, hidle]
          · rw [Function.update_of_ne hkey]
            rcases eq_or_ne key pool.address with rfl | hne
            · simp [eq_comm]
            · simp [hne, hold, hkey.symm]
        · intro key other
          refine ⟨.inl, fun hin => hin.resolve_right ?_⟩
          rw [hold]
          rintro ⟨hother, _, hbusy⟩
          rw [← Option.some.inj hother] at hbusy
          exact hbusy hidle
        · intro other
          rw [List.mem_singleton, hold, Option.some_inj]
          refine ⟨fun heq => ⟨heq.symm, ?_⟩, fun hother => hother.1.symm⟩
          rw [heq]
          exact hidle
      · -- the old pool is retired under its address, and keeps its count
        rw [if_neg hidle]
        refine ⟨rfl, ?_, ?_, ?_, List.nodup_nil⟩
        · intro key count
          dsimp only
          rcases eq_or_ne key pool.address with rfl | hkey
          · simp [eq_comm]
          · rw [Function.update_of_ne hkey]
            simp only [hkey, false_and, false_or, ne_eq, not_false_eq_true, true_and]
            refine ⟨fun hcount => ⟨hcount, fun other hother _ => ?_⟩, And.left⟩
            rw [hold] at hother
            rw [← Option.some.inj hother]
            exact hidle
        · intro key other
          dsimp only
          rcases eq_or_ne key old.address with rfl | hkey
          · rw [Function.update_self, hold, hretired]
            simp only [reduceCtorEq, false_or]
            refine ⟨fun heq => ⟨heq, ?_⟩, And.left⟩
            rw [← Option.some.inj heq]
            exact ⟨rfl, hidle⟩
          · rw [Function.update_of_ne hkey]
            refine ⟨.inl, fun hin => hin.resolve_right ?_⟩
            rw [hold]
            rintro ⟨hother, haddr, _⟩
            rw [← Option.some.inj hother] at haddr
            exact hkey haddr.symm
        · intro other
          rw [hold]
          refine ⟨fun hmem => absurd hmem List.not_mem_nil, ?_⟩
          rintro ⟨hother, hzero⟩
          rw [← Option.some.inj hother] at hzero
          exact absurd hzero hidle

/-- Installing the current pool again changes nothing. -/
theorem installPool_current {s : System} (h : PoolsConsistent s) {pool : Pool}
    (hpool : s.globals.pool = some pool) : installPool pool s.globals = (s.globals, []) := by
  have hset : setdefault s.globals.pool_active pool.address 0 = s.globals.pool_active := by
    rw [setdefault, (h.current hpool).1, Option.getD_some, ← (h.current hpool).1,
      Function.update_eq_self]
  simp only [installPool, hpool, hset, if_true]
  rw [← hpool]

theorem PoolsConsistent.install_created {s : System} (h : PoolsConsistent s) {pool : Pool}
    (hcreated : pool ∈ s.created) : PoolsConsistent (s.step (.install pool)) := by
  obtain ⟨_, hunretired, hnone⟩ := h.unrecorded hcreated
  have hspec := installPool_created h hcreated
  have hnew := h.fresh hcreated
  have hheld : ∀ {old conn}, (old, conn) ∈ s.outstanding → s.outstandingOf old ≠ 0 :=
    fun hmem => Nat.ne_of_gt (outstanding_pos hmem)
  have hlive : ∀ {other}, (s.step (.install pool)).Live other → s.Live other := by
    rintro other (hin | hin | ⟨key, hin⟩ | hin)
    · exact live_created (List.mem_of_mem_erase hin)
    · rw [System.step, hspec.is_current] at hin
      rw [← Option.some.inj hin]
      exact live_created hcreated
    · rcases hspec.retired.mp hin with hin | hin
      · exact live_retired hin
      · exact live_current hin.1
    · exact .inr (.inr (.inr hin))
  have hmem_installed : ∀ {other}, other ∈ (s.step (.install pool)).installed ↔
      other = pool ∨ other ∈ s.installed := by
    intro other
    rw [System.step, if_neg hnew, List.mem_cons]
  refine ⟨?_, ?_, ?_, ?_, ?_, ?_, ?_, ?_, ?_, ?_, ?_⟩
  · -- the new pool is current, with a count of zero
    intro other hother
    obtain rfl : pool = other := Option.some.inj (hspec.is_current.symm.trans hother)
    refine ⟨hspec.active.mpr (.inl ⟨rfl, hnone⟩), ?_⟩
    refine Option.eq_none_iff_forall_ne_some.mpr fun old hold => ?_
    rcases hspec.retired.mp hold with hold | ⟨hold, haddress, _⟩
    · rw [hunretired] at hold
      cases hold
    · exact h.address_ne_current hcreated hold haddress
  · -- a retired pool was retired before, or is the one that is replaced while in use
    intro key old hold
    rcases hspec.retired.mp hold with hold | ⟨hold, haddress, hbusy⟩
    · obtain ⟨haddress, hactive, hbusy⟩ := h.retired hold
      refine ⟨haddress, hspec.active.mpr (.inr ⟨?_, hactive, ?_⟩), hbusy⟩
      · rintro rfl
        rw [hunretired] at hold
        cases hold
      · rintro other hother rfl
        rw [(h.current hother).2] at hold
        cases hold
    · obtain ⟨hactive, _⟩ := h.current hold
      rw [haddress] at hactive
      refine ⟨haddress, hspec.active.mpr (.inr ⟨?_, hactive, ?_⟩), hbusy⟩
      · rw [← haddress]
        exact h.address_ne_current hcreated hold
      · intro other hother _
        rw [hold] at hother
        rw [← Option.some.inj hother]
        exact hbusy
  · -- every count belongs to the current pool or to a retired one
    intro key count hcount
    rcases hspec.active.mp hcount with ⟨rfl, _⟩ | ⟨_, hcount, hbusy⟩
    · exact ⟨pool, rfl, .inl hspec.is_current⟩
    · obtain ⟨old, haddress, hold⟩ := h.recorded hcount
      refine ⟨old, haddress, .inr (hspec.retired.mpr ?_)⟩
      rcases hold with hold | hold
      · exact .inr ⟨hold, haddress, hbusy old hold haddress⟩
      · exact .inl hold
  · -- a pool in use is retired when it is replaced
    intro old conn hmem
    rcases h.held hmem with hold | hold
    · exact .inr (hspec.retired.mpr (.inr ⟨hold, rfl, hheld hmem⟩))
    · exact .inr (hspec.retired.mpr (.inl hold))
  · -- the replaced pool is retired or closed, so that no installed pool is lost
    intro other
    rw [hmem_installed, h.installed]
    have hclosed : other ∈ (s.step (.install pool)).closed ↔ other ∈ s.closed ∨
        (s.globals.pool = some other ∧ s.outstandingOf other = 0) := by
      rw [← hspec.closes]
      exact List.mem_append
    rw [hclosed]
    change _ ↔ (installPool pool s.globals).1.pool = some other ∨
      (installPool pool s.globals).1.retired_pools other.address = some other ∨ _
    rw [hspec.retired, hspec.is_current, Option.some_inj, eq_comm]
    tauto
  · -- what is closed is not live: the replaced pool was idle
    intro old hold hin
    rcases List.mem_append.mp hold with hold | hold
    · exact h.closed_dead hold (hlive hin)
    · obtain ⟨hcurrent, hidle⟩ := hspec.closes.mp hold
      rcases hin with hin | hin | ⟨key, hin⟩ | ⟨conn, hin⟩
      · exact h.fresh (List.mem_of_mem_erase hin) (h.installed.mpr (.inl hcurrent))
      · obtain rfl : pool = old := Option.some.inj (hspec.is_current.symm.trans hin)
        exact h.address_ne_current hcreated hcurrent rfl
      · rcases hspec.retired.mp hin with hin | hin
        · exact h.retired_ne_current hcurrent hin rfl
        · exact hin.2.2 hidle
      · exact hheld hin hidle
  · -- the replaced pool was live, so that it had not been closed before
    refine List.nodup_append.mpr ⟨h.closed_once, hspec.closes_once, ?_⟩
    rintro old hold _ hclosed rfl
    exact h.closed_dead hold (live_current (hspec.closes.mp hclosed).1)
  · intro other hother hin
    obtain ⟨hne, hother⟩ := h.created_once.mem_erase_iff.mp hother
    exact (hmem_installed.mp hin).elim hne (h.fresh hother)
  · exact h.created_once.erase _
  · rintro other (hin | hin)
    · exact h.serials (.inl (List.mem_of_mem_erase hin))
    · rcases hmem_installed.mp hin with rfl | hin
      · exact h.serials (.inl hcreated)
      · exact h.serials (.inr hin)
  · exact fun ha hb => h.addresses (hlive ha) (hlive hb)

/-! ### Returning a connection -/

/-- What `_return_connection` makes of the globals for a connection that is checked out. The
counter of its pool goes down by one, and with the last connection of a retired pool the pool is
closed and its entries are dropped. -/
structure Returned (s : System) (pool : Pool) (globals : Globals) (closed : List Pool) :
    Prop where
  same_pool : globals.pool = s.globals.pool
  active : ∀ {key count}, globals.pool_active key = some count ↔
    (key = pool.address ∧ count + 1 = s.outstandingOf pool ∧
      (count = 0 → s.globals.retired_pools key = none)) ∨
    (key ≠ pool.address ∧ s.globals.pool_active key = some count)
  retired : ∀ {key old}, globals.retired_pools key = some old ↔
    s.globals.retired_pools key = some old ∧ (old = pool → s.outstandingOf pool ≠ 1)
  closes : ∀ {old}, old ∈ closed ↔ old = pool ∧ s.outstandingOf pool = 1 ∧
    s.globals.retired_pools pool.address = some pool
  closes_once : closed.Nodup

theorem returnConnection_held {s : System} (h : PoolsConsistent s) {pool : Pool} {conn : Conn}
    (hheld : (pool, conn) ∈ s.outstanding) (close : Bool)
    (putconn : Conn → Bool → Except PoolExc Unit) :
    Returned s pool (returnConnection putconn pool conn close s.globals).2.1
      (returnConnection putconn pool conn close s.globals).2.2 := by
  have hpos := outstanding_pos hheld
  have hactive : s.globals.pool_active pool.address = some (s.outstandingOf pool) :=
    (h.held hheld).elim (fun hin => (h.current hin).1) fun hin => (h.retired hin).2.1
  -- the address is in `_retired_pools` only as that of the pool itself
  have hretired : ∀ old, s.globals.retired_pools pool.address = some old → old = pool := by
    intro old hold
    refine h.addresses (live_retired hold) (.inr (.inr (.inr ⟨conn, hheld⟩))) ?_
    exact (h.retired hold).1
  simp only [returnConnection, hactive, Option.getD_some]
  by_cases hlast : s.outstandingOf pool - 1 = 0
  · have hone : s.outstandingOf pool = 1 := by omega
    rw [if_pos hlast]
    cases hpool : s.globals.retired_pools pool.address with
    | none =>
        refine ⟨rfl, ?_, ?_, ?_, List.nodup_nil⟩
        · intro key count
          dsimp only
          rcases eq_or_ne key pool.address with rfl | hkey
          · simp [hpool, hone, eq_comm]
          · simp [hkey]
        · intro key old
          refine ⟨fun hold => ⟨hold, ?_⟩, And.left⟩
          rintro rfl
          rw [← (h.retired hold).1, hpool] at hold
          cases hold
        · simp [hpool]
    | some old =>
        obtain rfl := hretired old hpool
        refine ⟨rfl, ?_, ?_, ?_, List.pairwise_singleton _ _⟩
        · intro key count
          dsimp only
          rcases eq_or_ne key old.address with rfl | hkey
          · simp [hpool, hone]
          · simp [hkey]
        · intro key other
          dsimp only
          rcases eq_or_ne key old.address with rfl | hkey
          · rw [Function.update_self, hpool, Option.some_inj]
            simp only [reduceCtorEq, false_iff, not_and]
            exact fun heq hne => hne heq.symm hone
          · rw [Function.update_of_ne hkey]
            refine ⟨fun hother => ⟨hother, ?_⟩, And.left⟩
            rintro rfl
            exact absurd (h.retired hother).1.symm hkey
        · simp [hpool, hone]
  · rw [if_neg hlast]
    have hmany : s.outstandingOf pool ≠ 1 := by omega
    refine ⟨rfl, ?_, ?_, ?_, List.nodup_nil⟩
    · intro key count
      dsimp only
      rcases eq_or_ne key pool.address with rfl | hkey
      · rw [Function.update_self, Option.some_inj]
        simp only [ne_eq, not_true_eq_false, true_and, false_and, or_false]
        constructor
        · rintro rfl
          exact ⟨by omega, fun hzero => absurd hzero hlast⟩
        · intro hcount
          omega
      · simp [hkey]
    · exact fun {key old} => ⟨fun hold => ⟨hold, fun _ => hmany⟩, And.left⟩
    · simp [hmany]

theorem outstandingOf_erase {s s' : System} {pool : Pool} {conn : Conn}
    (hheld : (pool, conn) ∈ s.outstanding)
    (hafter : s'.outstanding = s.outstanding.erase (pool, conn)) (other : Pool) :
    s.outstandingOf other = s'.outstandingOf other + if pool = other then 1 else 0 := by
  have hperm := (List.perm_cons_erase hheld).map Prod.fst
  rw [System.outstandingOf, System.outstandingOf, hafter, hperm.count_eq, List.map_cons,
    List.count_cons]
  simp only [beq_iff_eq]

/-- What returning a connection makes of the system: the globals change as in `Returned`, the
connection is no longer outstanding, and the pools this closed are added to the closed ones. That
`putconn` raises makes no difference to any of this. -/
structure GaveBack (s : System) (pool : Pool) (conn : Conn) (s' : System) (closed : List Pool) :
    Prop where
  held : (pool, conn) ∈ s.outstanding
  globals : Returned s pool s'.globals closed
  created : s'.created = s.created
  outstanding : s'.outstanding = s.outstanding.erase (pool, conn)
  installed : s'.installed = s.installed
  closed : s'.closed = s.closed ++ closed
  serials : s'.serials = s.serials

/-! The invariant after a return, one field after the other. The count of the pool went down by
one and every other pool kept its own; what is live was live before. -/

namespace GaveBack

variable {s s' : System} {pool : Pool} {conn : Conn} {closed : List Pool}

section

variable (hback : GaveBack s pool conn s' closed)

include hback

theorem pool_count : s.outstandingOf pool = s'.outstandingOf pool + 1 := by
  rw [outstandingOf_erase hback.held hback.outstanding pool, if_pos rfl]

theorem other_count {other : Pool} (hne : pool ≠ other) :
    s.outstandingOf other = s'.outstandingOf other := by
  rw [outstandingOf_erase hback.held hback.outstanding other, if_neg hne, Nat.add_zero]

theorem pool_live : s.Live pool := .inr (.inr (.inr ⟨conn, hback.held⟩))

theorem live {other : Pool} (hlive : s'.Live other) : s.Live other := by
  rcases hlive with hin | hin | ⟨key, hin⟩ | ⟨conn', hin⟩
  · exact live_created (hback.created ▸ hin)
  · exact live_current (hback.globals.same_pool ▸ hin)
  · exact live_retired (hback.globals.retired.mp hin).1
  · rw [hback.outstanding] at hin
    exact .inr (.inr (.inr ⟨conn', List.mem_of_mem_erase hin⟩))

end

variable (hback : GaveBack s pool conn s' closed) (h : PoolsConsistent s)

include hback h

theorem current {other : Pool} (hother : s'.globals.pool = some other) :
    s'.globals.pool_active other.address = some (s'.outstandingOf other) ∧
      s'.globals.retired_pools other.address = none := by
  rw [hback.globals.same_pool] at hother
  obtain ⟨hactive, hretired⟩ := h.current hother
  constructor
  · refine hback.globals.active.mpr ?_
    by_cases heq : pool = other
    · subst heq
      exact .inl ⟨rfl, hback.pool_count.symm, fun _ => hretired⟩
    · refine .inr ⟨fun haddress => heq ?_, ?_⟩
      · exact (h.addresses (live_current hother) hback.pool_live haddress).symm
      · rw [hactive, hback.other_count heq]
  · refine Option.eq_none_iff_forall_ne_some.mpr fun old hold => ?_
    rw [(hback.globals.retired.mp hold).1] at hretired
    cases hretired

theorem retired {key : Nat} {old : Pool} (hold : s'.globals.retired_pools key = some old) :
    old.address = key ∧ s'.globals.pool_active key = some (s'.outstandingOf old) ∧
      s'.outstandingOf old ≠ 0 := by
  obtain ⟨hold, hmany⟩ := hback.globals.retired.mp hold
  obtain ⟨rfl, hactive, hbusy⟩ := h.retired hold
  by_cases heq : pool = old
  · subst heq
    have hnonzero : s'.outstandingOf pool ≠ 0 := by
      intro hzero
      exact hmany rfl (by rw [hback.pool_count, hzero])
    exact ⟨rfl, hback.globals.active.mpr (.inl ⟨rfl, hback.pool_count.symm, fun hzero =>
      absurd hzero hnonzero⟩), hnonzero⟩
  · rw [hback.other_count heq] at hactive hbusy
    refine ⟨rfl, hback.globals.active.mpr (.inr ⟨fun haddress => heq ?_, hactive⟩), hbusy⟩
    exact (h.addresses (live_retired hold) hback.pool_live haddress).symm

theorem recorded {key count : Nat} (hrecorded : s'.globals.pool_active key = some count) :
    ∃ pool, pool.address = key ∧
      (s'.globals.pool = some pool ∨ s'.globals.retired_pools key = some pool) := by
  rcases hback.globals.active.mp hrecorded with ⟨rfl, hcounted, hzero⟩ | ⟨hne, hrecorded⟩
  · refine ⟨pool, rfl, (h.held hback.held).imp
      (fun hin => hback.globals.same_pool ▸ hin) fun hin => ?_⟩
    refine hback.globals.retired.mpr ⟨hin, fun _ hone => ?_⟩
    -- the last connection of a retired pool leaves no count
    rw [hzero (by omega)] at hin
    cases hin
  · obtain ⟨old, haddress, hold⟩ := h.recorded hrecorded
    refine ⟨old, haddress, hold.imp (fun hin => hback.globals.same_pool ▸ hin) fun hin => ?_⟩
    exact hback.globals.retired.mpr ⟨hin, fun heq => absurd haddress (heq ▸ hne.symm)⟩

theorem still_held {other : Pool} {conn' : Conn} (hmem : (other, conn') ∈ s'.outstanding) :
    s'.globals.pool = some other ∨ s'.globals.retired_pools other.address = some other := by
  have hbefore := hmem
  rw [hback.outstanding] at hbefore
  refine (h.held (List.mem_of_mem_erase hbefore)).imp (fun hin => hback.globals.same_pool ▸ hin)
    fun hin => hback.globals.retired.mpr ⟨hin, ?_⟩
  -- a pool that lost its last connection holds none
  rintro rfl hone
  have hpos := outstanding_pos hmem
  have hcount := hback.pool_count
  omega

theorem mem_installed {other : Pool} :
    other ∈ s'.installed ↔ s'.globals.pool = some other ∨
      s'.globals.retired_pools other.address = some other ∨ other ∈ s'.closed := by
  rw [hback.installed, h.installed, hback.globals.same_pool, hback.globals.retired, hback.closed,
    List.mem_append, hback.globals.closes]
  constructor
  · rintro (hin | hin | hin)
    · exact .inl hin
    · by_cases hone : other = pool ∧ s.outstandingOf pool = 1
      · refine .inr (.inr (.inr ⟨hone.1, hone.2, ?_⟩))
        rw [← hone.1]
        exact hin
      · exact .inr (.inl ⟨hin, fun heq hlast => hone ⟨heq, hlast⟩⟩)
    · exact .inr (.inr (.inl hin))
  · rintro (hin | hin | hin | ⟨rfl, _, hin⟩)
    · exact .inl hin
    · exact .inr (.inl hin.1)
    · exact .inr (.inr hin)
    · exact .inr (.inl hin)

/-- The pool that is closed now is live nowhere: it was retired, and its last connection came
back. -/
theorem closed_dead {old : Pool} (hold : old ∈ s'.closed) : ¬s'.Live old := by
  intro hin
  rw [hback.closed, List.mem_append, hback.globals.closes] at hold
  rcases hold with hold | ⟨rfl, hone, hretired⟩
  · exact h.closed_dead hold (hback.live hin)
  · rcases hin with hin | hin | ⟨key, hin⟩ | ⟨conn', hin⟩
    · exact h.fresh (hback.created ▸ hin) (h.installed.mpr (.inr (.inl hretired)))
    · exact h.retired_ne_current (hback.globals.same_pool ▸ hin) hretired rfl
    · exact (hback.globals.retired.mp hin).2 rfl hone
    · have hpos := outstanding_pos hin
      have hcount := hback.pool_count
      omega

theorem closed_once : s'.closed.Nodup := by
  rw [hback.closed]
  refine List.nodup_append.mpr ⟨h.closed_once, hback.globals.closes_once, ?_⟩
  rintro old hold _ hnew rfl
  obtain ⟨rfl, -, hretired⟩ := hback.globals.closes.mp hnew
  exact h.closed_dead hold (live_retired hretired)

theorem consistent : PoolsConsistent s' where
  current := hback.current h
  retired := hback.retired h
  recorded := hback.recorded h
  held := hback.still_held h
  installed := hback.mem_installed h
  closed_dead := hback.closed_dead h
  closed_once := hback.closed_once h
  fresh := by
    rw [hback.created, hback.installed]
    exact h.fresh
  created_once := by
    rw [hback.created]
    exact h.created_once
  serials := by
    rw [hback.created, hback.installed, hback.serials]
    exact h.serials
  addresses := fun ha hb => h.addresses (hback.live ha) (hback.live hb)

end GaveBack

theorem PoolsConsistent.giveBack {s : System} (h : PoolsConsistent s) {pool : Pool} {conn : Conn}
    (hheld : (pool, conn) ∈ s.outstanding) (close : Bool)
    (putconn : Conn → Bool → Except PoolExc Unit) :
    PoolsConsistent (s.step (.giveBack pool conn close putconn)) := by
  have hback : GaveBack s pool conn (s.step (.giveBack pool conn close putconn))
      (returnConnection putconn pool conn close s.globals).2.2 :=
    ⟨hheld, returnConnection_held h hheld close putconn, rfl, rfl, rfl, rfl, rfl⟩
  exact hback.consistent h

/-! ### The other actions

A new pool is known to nobody yet, and a checkout adds to the count of the current pool. With that
every action keeps the invariant. -/

theorem PoolsConsistent.create {s : System} (h : PoolsConsistent s) {address : Nat}
    (henabled : s.Enabled (.create address)) : PoolsConsistent (s.step (.create address)) := by
  have hnew : (⟨s.serials, address⟩ : Pool) ∉ s.created ∧ ⟨s.serials, address⟩ ∉ s.installed :=
    ⟨fun hin => absurd (h.serials (.inl hin)) (Nat.lt_irrefl _),
      fun hin => absurd (h.serials (.inr hin)) (Nat.lt_irrefl _)⟩
  -- the new pool is the only one that becomes live
  have hlive : ∀ {other}, (s.step (.create address)).Live other →
      other = ⟨s.serials, address⟩ ∨ s.Live other := by
    rintro other (hin | hin)
    · exact (List.mem_cons.mp hin).imp_right live_created
    · exact .inr (.inr hin)
  refine ⟨h.current, h.retired, h.recorded, h.held, h.installed, ?_, h.closed_once, ?_, ?_, ?_, ?_⟩
  · intro old hold hin
    rcases hlive hin with rfl | hin
    · exact hnew.2 (h.installed.mpr (.inr (.inr hold)))
    · exact h.closed_dead hold hin
  · intro other hother
    rcases List.mem_cons.mp hother with rfl | hother
    · exact hnew.2
    · exact h.fresh hother
  · exact List.nodup_cons.mpr ⟨hnew.1, h.created_once⟩
  · rintro other (hother | hother)
    · rcases List.mem_cons.mp hother with rfl | hother
      · exact Nat.lt_succ_self _
      · exact Nat.lt_succ_of_lt (h.serials (.inl hother))
    · exact Nat.lt_succ_of_lt (h.serials (.inr hother))
  · -- the address is that of no live pool (`System.Enabled`)
    intro a b ha hb haddress
    rcases hlive ha with rfl | ha
    · rcases hlive hb with rfl | hb
      · rfl
      · exact absurd haddress.symm (henabled b hb)
    · rcases hlive hb with rfl | hb
      · exact absurd haddress (henabled a ha)
      · exact h.addresses ha hb haddress

theorem PoolsConsistent.checkout {s : System} (h : PoolsConsistent s)
    (getconn : Except PoolExc Conn) : PoolsConsistent (s.step (.checkout getconn)) := by
  cases hpool : s.globals.pool with
  | none =>
      -- `open_pool` has not run, or `getconn` raised: nothing has changed
      have hstep : s.step (.checkout getconn) = s := by
        simp only [System.step, checkoutConnection, hpool]
      rw [hstep]
      exact h
  | some pool =>
      cases getconn with
      | error exc =>
          have hstep : s.step (.checkout (.error exc)) = s := by
            simp only [System.step, checkoutConnection, hpool]
          rw [hstep]
          exact h
      | ok conn =>
          -- a connection: the count of the current pool and the ledger move together
          obtain ⟨hactive, hretired⟩ := h.current hpool
          generalize hstep : s.step (.checkout (.ok conn)) = s'
          simp only [System.step, checkoutConnection, hpool, hactive, Option.getD_some] at hstep
          have hafter : s'.globals.pool = some pool := by rw [← hstep]
          have hsame_retired : s'.globals.retired_pools = s.globals.retired_pools := by
            rw [← hstep]
          have hcounted : s'.globals.pool_active = Function.update s.globals.pool_active
              pool.address (some (s.outstandingOf pool + 1)) := by
            rw [← hstep]
          have houtstanding : s'.outstanding = (pool, conn) :: s.outstanding := by rw [← hstep]
          have hinstalled : s'.installed = s.installed := by rw [← hstep]
          have hcreated : s'.created = s.created := by rw [← hstep]
          have hclosed : s'.closed = s.closed := by rw [← hstep]
          have hserials : s'.serials = s.serials := by rw [← hstep]
          have hcount : ∀ other, s'.outstandingOf other =
              s.outstandingOf other + if pool = other then 1 else 0 := by
            intro other
            rw [System.outstandingOf, houtstanding, List.map_cons, List.count_cons]
            simp only [beq_iff_eq]
            rfl
          have hlive : ∀ {other}, s'.Live other → s.Live other := by
            rintro other (hin | hin | ⟨key, hin⟩ | ⟨conn', hin⟩)
            · exact live_created (hcreated ▸ hin)
            · exact live_current (hpool.trans (hafter.symm.trans hin))
            · exact live_retired (hsame_retired ▸ hin)
            · rw [houtstanding] at hin
              rcases List.mem_cons.mp hin with heq | hin
              · rw [(Prod.mk.inj heq).1]
                exact live_current hpool
              · exact .inr (.inr (.inr ⟨conn', hin⟩))
          refine ⟨?_, ?_, ?_, ?_, ?_, ?_, ?_, ?_, ?_, ?_, ?_⟩
          · -- the count is one higher, and so is what is checked out
            intro other hother
            obtain rfl : pool = other := Option.some.inj (hafter.symm.trans hother)
            rw [hcount, if_pos rfl, hcounted, Function.update_self, hsame_retired]
            exact ⟨rfl, hretired⟩
          · -- a retired pool is another one, at another address
            intro key old hold
            rw [hsame_retired] at hold
            obtain ⟨haddress, hrecorded, hbusy⟩ := h.retired hold
            rw [hcount, if_neg (h.retired_ne_current hpool hold), Nat.add_zero, hcounted,
              Function.update_of_ne, hrecorded]
            · exact ⟨haddress, rfl, hbusy⟩
            · rintro rfl
              rw [hretired] at hold
              cases hold
          · intro key count hrecorded
            rw [hafter, hsame_retired]
            rw [hcounted] at hrecorded
            rcases eq_or_ne key pool.address with rfl | hne
            · exact ⟨pool, rfl, .inl rfl⟩
            · rw [Function.update_of_ne hne] at hrecorded
              rw [← hpool]
              exact h.recorded hrecorded
          · -- the new connection is of the current pool
            intro other conn' hmem
            rw [hafter, hsame_retired]
            rw [houtstanding] at hmem
            rcases List.mem_cons.mp hmem with heq | hmem
            · rw [(Prod.mk.inj heq).1]
              exact .inl rfl
            · rw [← hpool]
              exact h.held hmem
          · intro other
            rw [hinstalled, hafter, hsame_retired, hclosed, ← hpool]
            exact h.installed
          · intro old hold hin
            rw [hclosed] at hold
            exact h.closed_dead hold (hlive hin)
          · rw [hclosed]
            exact h.closed_once
          · rw [hcreated, hinstalled]
            exact h.fresh
          · rw [hcreated]
            exact h.created_once
          · rw [hcreated, hinstalled, hserials]
            exact h.serials
          · exact fun ha hb => h.addresses (hlive ha) (hlive hb)

theorem PoolsConsistent.step {s : System} (h : PoolsConsistent s) {action : Action}
    (henabled : s.Enabled action) : PoolsConsistent (s.step action) := by
  cases action with
  | create address => exact h.create henabled
  | install pool =>
      rcases henabled with hcreated | hcurrent
      · exact h.install_created hcreated
      · have hstep : s.step (.install pool) = s := by
          have hnew : pool ∉ s.created := fun hin =>
            h.fresh hin (h.installed.mpr (.inl hcurrent))
          rw [System.step, installPool_current h hcurrent]
          dsimp only
          rw [if_pos (h.installed.mpr (.inl hcurrent)), List.append_nil,
            List.erase_of_not_mem hnew]
        rw [hstep]
        exact h
  | checkout getconn => exact h.checkout getconn
  | giveBack pool conn close putconn => exact h.giveBack henabled close putconn

theorem poolsConsistent_of_reachable {s : System} (h : Reachable s) : PoolsConsistent s := by
  induction h with
  | initial => exact poolsConsistent_initial
  | step _ henabled ih => exact ih.step henabled

/-! ### Closing

A step closes a pool in one of two ways. The guarantee reads the rest off the invariant. -/

/-- A pool is closed when it is replaced with no connection checked out, or when the last
connection of a replaced pool is returned. -/
theorem closes_at_last_return {s : System} (h : PoolsConsistent s) {action : Action}
    (henabled : s.Enabled action) {pool : Pool} (hafter : pool ∈ (s.step action).closed)
    (hbefore : pool ∉ s.closed) :
    (∃ new_pool, action = .install new_pool ∧ s.globals.pool = some pool ∧ new_pool ≠ pool ∧
      s.outstandingOf pool = 0) ∨
    (∃ conn close putconn, action = .giveBack pool conn close putconn ∧
      s.globals.pool ≠ some pool ∧ s.outstandingOf pool = 1) := by
  cases action with
  | create address => exact absurd hafter hbefore
  | checkout getconn => exact absurd hafter hbefore
  | install new_pool =>
      have hclosed : pool ∈ (installPool new_pool s.globals).2 :=
        (List.mem_append.mp hafter).resolve_left hbefore
      rcases henabled with hcreated | hcurrent
      · obtain ⟨hold, hidle⟩ := (installPool_created h hcreated).closes.mp hclosed
        refine .inl ⟨new_pool, rfl, hold, fun heq => ?_, hidle⟩
        exact h.address_ne_current hcreated hold (by rw [heq])
      · rw [installPool_current h hcurrent] at hclosed
        cases hclosed
  | giveBack held conn close putconn =>
      have hclosed := (List.mem_append.mp hafter).resolve_left hbefore
      obtain ⟨rfl, hone, hretired⟩ :=
        (returnConnection_held h henabled close putconn).closes.mp hclosed
      exact .inr ⟨conn, close, putconn, rfl,
        fun hcurrent => h.retired_ne_current hcurrent hretired rfl, hone⟩

/-- In every state that any interleaving reaches, no pool with a connection checked out has
been closed, the counts of the current and the retired pools are right, the current pool is
open, and a replaced pool has been closed exactly once if none of its connections is checked
out and not at all otherwise. A pool is closed at its replacement or at the return of its
last connection.

Everything is read off the invariant `PoolsConsistent`, which each of the four actions keeps
(`PoolsConsistent.create`, `install_created`, `checkout`, `giveBack`). The last part looks at one
more step, from a state that has it (`closes_at_last_return`). -/
theorem pool_retirement {s : System} (h : Reachable s) :
    (∀ pool conn, (pool, conn) ∈ s.outstanding → pool ∉ s.closed) ∧
    (∀ pool, s.globals.pool = some pool ∨ (∃ key, s.globals.retired_pools key = some pool) →
      s.globals.pool_active pool.address = some (s.outstandingOf pool)) ∧
    (∀ pool, s.globals.pool = some pool → pool ∉ s.closed) ∧
    (∀ pool ∈ s.installed, s.globals.pool ≠ some pool →
      s.closed.count pool = if s.outstandingOf pool = 0 then 1 else 0) ∧
    (∀ action, s.Enabled action → ∀ pool ∈ (s.step action).closed, pool ∉ s.closed →
      (∃ new_pool, action = .install new_pool ∧ s.globals.pool = some pool ∧ new_pool ≠ pool ∧
        s.outstandingOf pool = 0) ∨
      (∃ conn close putconn, action = .giveBack pool conn close putconn ∧
        s.globals.pool ≠ some pool ∧ s.outstandingOf pool = 1)) := by
  have hs := poolsConsistent_of_reachable h
  refine ⟨fun pool conn hheld hclosed => ?_, fun pool hpool => ?_, fun pool hpool hclosed => ?_,
    fun pool hinstalled hreplaced => ?_, fun action henabled pool => ?_⟩
  · exact hs.closed_dead hclosed (.inr (.inr (.inr ⟨conn, hheld⟩)))
  · rcases hpool with hpool | ⟨key, hretired⟩
    · exact (hs.current hpool).1
    · obtain ⟨rfl, hactive, _⟩ := hs.retired hretired
      exact hactive
  · exact hs.closed_dead hclosed (live_current hpool)
  · rcases (hs.installed.mp hinstalled).resolve_left hreplaced with hretired | hclosed
    · -- retired: something is checked out, and it is not closed
      rw [if_neg (hs.retired hretired).2.2, List.count_eq_zero]
      exact fun hclosed => hs.closed_dead hclosed (live_retired hretired)
    · -- closed, hence idle: a pool in use is live
      have hidle : s.outstandingOf pool = 0 := by
        by_contra hbusy
        obtain ⟨⟨held, conn⟩, hmem, rfl⟩ :=
          List.mem_map.mp (List.count_pos_iff.mp (Nat.pos_of_ne_zero hbusy))
        exact hs.closed_dead hclosed (.inr (.inr (.inr ⟨conn, hmem⟩)))
      rw [if_pos hidle]
      rw [hs.closed_once.count, if_pos hclosed]
  · exact closes_at_last_return hs henabled

/-- A pool is replaced while a connection of it is checked out. -/
def replacedPool : System :=
  ((((System.initial.step (.create 7)).step (.install ⟨0, 7⟩)).step (.checkout (.ok 1))).step
    (.create 8)).step (.install ⟨1, 8⟩)

theorem replacedPool_reachable : Reachable replacedPool := by
  refine .step (.step (.step (.step (.step .initial ?_) ?_) ?_) ?_) ?_
  · rintro pool (hin | hin | ⟨_, hin⟩ | ⟨_, hin⟩) <;> cases hin
  · exact .inl (List.mem_singleton.mpr rfl)
  · trivial
  · rintro pool (hin | hin | ⟨_, hin⟩ | ⟨_, hin⟩)
    · cases hin
    · rw [← Option.some.inj hin]
      decide
    · cases hin
    · rw [(Prod.mk.inj (List.mem_singleton.mp hin)).1]
      decide
  · exact .inl (List.mem_singleton.mpr rfl)

/-- Its last return closes it, also where `putconn` raises. -/
theorem pool_retirement_replaced :
    (replacedPool.step (.giveBack ⟨0, 7⟩ 1 true
      fun _ _ => .error (.databaseError "connection already closed"))).closed.count ⟨0, 7⟩ = 1 := by
  have henabled : replacedPool.Enabled (.giveBack ⟨0, 7⟩ 1 true
      fun _ _ => .error (.databaseError "connection already closed")) :=
    List.mem_singleton.mpr rfl
  have hafter := pool_retirement (replacedPool_reachable.step henabled)
  exact hafter.2.2.2.1 ⟨0, 7⟩ (by decide) (by decide)

end EventPipeline.Guarantees
