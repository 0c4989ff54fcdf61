import CriticalDamage.Damage.Structure
import CriticalDamage.HostDamage.BonusPath

/-!
# Captures

The structures of recent damage rolls, by the item they belong to. A store holds at most its
capacity; a new capture takes the place of an earlier one of the same item, and if the store is
full that of the oldest. A capture that is older than the store's time to live is not found, but it
stays until another takes its place.
-/

namespace CriticalDamage

/-- A structure, the item whose damage roll it is, and the time of the roll in milliseconds. -/
structure Capture where
  item : String
  damage : Structure
  time : Int
deriving DecidableEq, Repr

/-- Captures, oldest first. -/
structure CaptureStore where
  captures : List Capture
  /-- The age in milliseconds up to which a capture is found. -/
  timeToLive : Int
  capacity : Nat
deriving DecidableEq, Repr

namespace CaptureStore

def defaultTimeToLive : Int := 30000

def defaultCapacity : Nat := 1

/-- An empty store, of a capacity of at least one. -/
def new (timeToLive : Int) (capacity : Nat) : CaptureStore := ⟨[], timeToLive, max capacity 1⟩

/-- The last `n` captures. -/
def newest (n : Nat) (captures : List Capture) : List Capture :=
  captures.drop (captures.length - n)

/-- Changes the time to live and the capacity. If there are too many captures the oldest go. -/
def configure (s : CaptureStore) (timeToLive : Int) (capacity : Nat) : CaptureStore :=
  ⟨newest (max capacity 1) s.captures, timeToLive, max capacity 1⟩

/-- Adds a capture as the newest. -/
def record (s : CaptureStore) (item : String) (damage : Structure) (time : Int) : CaptureStore :=
  let others := s.captures.filter (·.item ≠ item)
  { s with captures := newest (s.capacity - 1) others ++ [⟨item, damage, time⟩] }

/-- The structure captured for an item, if it is not too old. -/
def lookup (s : CaptureStore) (item : String) (now : Int) : Option Structure :=
  match s.captures.find? (·.item = item) with
  | some c => if saturate64 (now - c.time) ≤ s.timeToLive then some c.damage else none
  | none => none

end CaptureStore

end CriticalDamage
