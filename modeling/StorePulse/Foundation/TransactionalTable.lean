import StorePulse.Foundation.Owned

/-!
# Tables under READ COMMITTED

A table holds the committed rows, oldest commit first, and the rows that open
transactions have written.  A statement of transaction `i` sees the rows
committed when it starts and the rows `i` wrote itself (`visible`).  A commit
makes the rows of one transaction visible to everybody in one step, a rollback
drops them.
-/

namespace StorePulse

/-- A table with uncommitted rows. -/
structure TxTable (Row : Type) where
  /-- The committed rows, oldest commit first. -/
  committed : List Row
  /-- Rows of open transactions, each with its writer. -/
  pending : List (Nat × Row)

namespace TxTable

variable {Row : Type}

/-- The table with no row. -/
def empty : TxTable Row := ⟨[], []⟩

/-- The uncommitted rows of one transaction. -/
def own (t : TxTable Row) (i : Nat) : List Row := ownedBy t.pending i

/-- What a statement of transaction `i` sees. -/
def visible (t : TxTable Row) (i : Nat) : List Row := t.committed ++ t.own i

/-- Transaction `i` writes a row. -/
def write (t : TxTable Row) (i : Nat) (row : Row) : TxTable Row :=
  { t with pending := t.pending ++ [row].map fun r => (i, r) }

/-- Transaction `i` commits. -/
def commit (t : TxTable Row) (i : Nat) : TxTable Row :=
  ⟨t.committed ++ t.own i, disown t.pending i⟩

/-- Transaction `i` rolls back. -/
def rollback (t : TxTable Row) (i : Nat) : TxTable Row :=
  { t with pending := disown t.pending i }

variable {t : TxTable Row} {i j : Nat} {row : Row}

@[simp] theorem own_empty : (empty : TxTable Row).own i = [] := rfl

@[simp] theorem committed_write : (t.write i row).committed = t.committed := rfl

@[simp] theorem own_write_self : (t.write i row).own i = t.own i ++ [row] := by
  rw [own, write, ownedBy_append, ownedBy_map_self, own]

theorem own_write_ne (h : j ≠ i) : (t.write i row).own j = t.own j := by
  rw [own, write, ownedBy_append, ownedBy_map_ne [row] h, List.append_nil, own]

@[simp] theorem committed_commit : (t.commit i).committed = t.committed ++ t.own i := rfl

@[simp] theorem own_commit_self : (t.commit i).own i = [] := ownedBy_disown_self

theorem own_commit_ne (h : j ≠ i) : (t.commit i).own j = t.own j := ownedBy_disown_ne h

@[simp] theorem committed_rollback : (t.rollback i).committed = t.committed := rfl

@[simp] theorem own_rollback_self : (t.rollback i).own i = [] := ownedBy_disown_self

theorem own_rollback_ne (h : j ≠ i) : (t.rollback i).own j = t.own j := ownedBy_disown_ne h

/-- A transaction that wrote nothing sees the committed rows. -/
theorem visible_of_own_nil (h : t.own i = []) : t.visible i = t.committed := by
  rw [visible, h, List.append_nil]

end TxTable

end StorePulse
