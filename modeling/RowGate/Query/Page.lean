/-!
# Pages

Clamped page requests, their offsets, and the 64-bit test for a next page.
-/

namespace RowGate.Query

def maxPageSize : Int := 200

def defaultPageSize : Int := 20

def maxPage : Int := (Nat.pow 2 63 - 1) / maxPageSize

/-- A clamped page request. -/
structure Page where
  page : Int
  size : Int
  offset : Int
deriving DecidableEq, Repr

/-- Clamps a page request and computes its offset. -/
def Page.of (page size : Int) : Page :=
  let page := min (max page 1) maxPage
  let size := min (max size 1) maxPageSize
  ⟨page, size, (page - 1) * size⟩

def wrap64 (n : Int) : Int := Int.bmod n (Nat.pow 2 64)

/-- Whether rows remain after a page that returned `returned` rows of `total`. -/
def hasNext (page size returned total : Int) : Bool :=
  let p := Page.of page size
  wrap64 (p.offset + max returned 0) < total

end RowGate.Query
