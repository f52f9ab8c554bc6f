import Mathlib.Logic.Function.Basic
import Mathlib.Data.List.Count
import Mathlib.Data.List.Perm.Basic

/-!
# EventPipeline.Portfolio.ConnectionPool

The pool of database connections in `portfolio/db.py`, and its replacement.

The module keeps the current pool, the number of connections of each pool that are checked
out, and the pools that were replaced while connections of theirs were checked out. The
last two are dictionaries keyed by `id(pool)`, the address of the pool, and an address is
used again once nothing refers to a pool any more. So a pool has an identity of its own
here, and its address beside it.

`_create_pool` runs outside the lock; the other functions are critical sections. What
`getconn` and `putconn` of psycopg2 do is up to the environment. The gauge `db_pool_in_use`
is left out.
-/

namespace EventPipeline.Portfolio.ConnectionPool

/-- A `ThreadedConnectionPool`: which one it is, and `id(pool)`. -/
structure Pool where
  serial : Nat
  address : Nat
  deriving DecidableEq

/-- A connection, by its identity. -/
abbrev Conn := Nat

/-- An exception, with its text. -/
inductive PoolExc
  | poolError (message : String)
  | databaseError (message : String)
  deriving DecidableEq

/-- The globals of the module. -/
structure Globals where
  pool : Option Pool
  pool_active : Nat → Option Nat
  retired_pools : Nat → Option Pool

/-! ### Critical sections

The three functions run under one lock, so that each of them is one step. `getconn` and `putconn`
of the driver may raise, and what they answer is an argument of the step. -/

/-- `d.setdefault(key, value)`. -/
def setdefault {α : Type} (d : Nat → Option α) (key : Nat) (value : α) : Nat → Option α :=
  Function.update d key (some ((d key).getD value))

/-- `_install_pool(new_pool)`, with the pools that are closed. -/
def installPool (new_pool : Pool) (globals : Globals) : Globals × List Pool :=
  let pool_active := setdefault globals.pool_active new_pool.address 0
  let installed := { globals with pool := some new_pool, pool_active := pool_active }
  match globals.pool with
  | none => (installed, [])
  | some old_pool =>
      if old_pool = new_pool then (installed, [])
      else if (pool_active old_pool.address).getD 0 = 0 then
        ({ installed with pool_active := Function.update pool_active old_pool.address none },
          [old_pool])
      else
        ({ installed with
            retired_pools := Function.update globals.retired_pools old_pool.address old_pool }, [])

/-- `_checkout_connection()`, where `getconn` is what `pool.getconn()` does. -/
def checkoutConnection (getconn : Except PoolExc Conn) (globals : Globals) :
    Except PoolExc (Pool × Conn) × Globals :=
  match globals.pool with
  | none => (.error (.poolError "DB pool is not initialized"), globals)
  | some pool =>
      match getconn with
      | .error exc => (.error exc, globals)
      | .ok conn =>
          (.ok (pool, conn), { globals with
            pool_active := Function.update globals.pool_active pool.address
              (some ((globals.pool_active pool.address).getD 0 + 1)) })

/-- `_return_connection(pool, conn, close=close)`, with the pools that are closed. The count
is lowered whether `putconn` raises or not, and not below zero. -/
def returnConnection (putconn : Conn → Bool → Except PoolExc Unit) (pool : Pool) (conn : Conn)
    (close : Bool) (globals : Globals) : Except PoolExc Unit × Globals × List Pool :=
  let remaining := (globals.pool_active pool.address).getD 1 - 1
  let pool_active := Function.update globals.pool_active pool.address (some remaining)
  match (if remaining = 0 then globals.retired_pools pool.address else none) with
  | some retired =>
      (putconn conn close,
        { globals with
          pool_active := Function.update pool_active pool.address none
          retired_pools := Function.update globals.retired_pools pool.address none },
        [retired])
  | none => (putconn conn close, { globals with pool_active := pool_active }, [])

/-! ### Runs

Beside the globals a system has a ledger of what is checked out, which the source does not have.
It says what the counts are about. -/

/-- The module, with what its callers hold and what has happened. -/
structure System where
  globals : Globals
  /-- Created, and not installed yet. -/
  created : List Pool
  /-- Checked out, and not returned yet. -/
  outstanding : List (Pool × Conn)
  /-- Installed at some time. -/
  installed : List Pool
  /-- The calls of `closeall`. -/
  closed : List Pool
  /-- How many pools were created. -/
  serials : Nat

def System.initial : System :=
  ⟨⟨none, fun _ => none, fun _ => none⟩, [], [], [], [], 0⟩

/-- The number of connections of a pool that are checked out. -/
def System.outstandingOf (s : System) (pool : Pool) : Nat :=
  (s.outstanding.map Prod.fst).count pool

/-- Something refers to the pool. -/
def System.Live (s : System) (pool : Pool) : Prop :=
  pool ∈ s.created ∨ s.globals.pool = some pool ∨
    (∃ key, s.globals.retired_pools key = some pool) ∨ ∃ conn, (pool, conn) ∈ s.outstanding

/-- What a thread can do next. -/
inductive Action
  | create (address : Nat)
  | install (pool : Pool)
  | checkout (getconn : Except PoolExc Conn)
  | giveBack (pool : Pool) (conn : Conn) (close : Bool)
      (putconn : Conn → Bool → Except PoolExc Unit)

/-- When it can: a new object is given an address that no live one has, and its callers
install a pool they created, or the one that is current; a connection that is checked out is
returned to the pool it is from. -/
def System.Enabled (s : System) : Action → Prop
  | .create address => ∀ pool, s.Live pool → pool.address ≠ address
  | .install pool => pool ∈ s.created ∨ s.globals.pool = some pool
  | .checkout _ => True
  | .giveBack pool conn _ _ => (pool, conn) ∈ s.outstanding

def System.step (s : System) : Action → System
  | .create address =>
      { s with created := ⟨s.serials, address⟩ :: s.created, serials := s.serials + 1 }
  | .install pool =>
      let (globals, closed) := installPool pool s.globals
      { s with
        globals := globals
        created := s.created.erase pool
        installed := if pool ∈ s.installed then s.installed else pool :: s.installed
        closed := s.closed ++ closed }
  | .checkout getconn =>
      let (result, globals) := checkoutConnection getconn s.globals
      { s with
        globals := globals
        outstanding := match result with
          | .ok checked_out => checked_out :: s.outstanding
          | .error _ => s.outstanding }
  | .giveBack pool conn close putconn =>
      let (_, globals, closed) := returnConnection putconn pool conn close s.globals
      { s with
        globals := globals
        outstanding := s.outstanding.erase (pool, conn)
        closed := s.closed ++ closed }

/-- The states after any number of actions of any threads. -/
inductive Reachable : System → Prop
  | initial : Reachable .initial
  | step {s : System} {action : Action} (h : Reachable s) (enabled : s.Enabled action) :
      Reachable (s.step action)

end EventPipeline.Portfolio.ConnectionPool
