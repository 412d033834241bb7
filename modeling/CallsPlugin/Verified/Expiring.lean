import Mathlib.Data.Option.Basic

/-!
# Expiring entries

A cell of a key-value store that holds at most one entry, which counts as absent
once its time has passed.  The store offers a set that succeeds only on an
absent entry and one that succeeds only on a present one; the stored value is
the same for everybody, so neither can tell whose entry it finds.  Who set an
entry and who wrote it last is kept for the proofs only.
-/

namespace CallsPlugin.Verified

universe u

/-- An entry with its history. -/
structure Entry (α : Type u) where
  setBy : α
  writtenBy : α
  expiresAt : Nat
  deriving DecidableEq

/-- A cell. -/
abbrev Cell (α : Type u) := Option (Entry α)

namespace Cell

variable {α : Type u}

/-- What a reader finds at time `now`. -/
def live (now : Nat) (c : Cell α) : Option (Entry α) :=
  c.filter fun e => now < e.expiresAt

@[grind =]
theorem live_eq_some {now : Nat} {c : Cell α} {e : Entry α} :
    live now c = some e ↔ c = some e ∧ now < e.expiresAt := by
  simp [live, Option.filter_eq_some_iff]

/-- The entry `a` sets at time `now`. -/
def fresh (now ttl : Nat) (a : α) : Entry α := ⟨a, a, now + ttl⟩

/-- Set the cell if it holds no live entry: whether it did, and the cell. -/
def setIfAbsent (now ttl : Nat) (a : α) (c : Cell α) : Bool × Cell α :=
  match c.live now with
  | some _ => (false, c)
  | none => (true, some (fresh now ttl a))

/-- Write the cell again if it holds a live entry, whoever set it. -/
def rewrite (now ttl : Nat) (a : α) (c : Cell α) : Bool × Cell α :=
  match c.live now with
  | some e => (true, some { e with writtenBy := a, expiresAt := now + ttl })
  | none => (false, c)

end Cell

end CallsPlugin.Verified
