import Purse.Numeral

/-!
# Pages of a list

A page is the part of a list after `offset` elements, at most `limit` long. Whatever is asked for, the
limit lies between 1 and 100 and the offset is not negative.
-/
namespace Purse

structure Page where
  limit : Nat
  offset : Nat
  limit_pos : 0 < limit := by decide
  limit_le : limit ≤ 100 := by decide
  deriving DecidableEq, Repr

namespace Page

/-- The page asked for by any two integers. -/
def of (limit offset : Int) : Page where
  limit := (max 1 (min limit 100)).toNat
  offset := offset.toNat
  limit_pos := by omega
  limit_le := by omega

/-- The limit of a page that names none. -/
def defaultLimit : Int := 20

/-- The page asked for by a query that may leave out either number. -/
def ofQuery (limit offset : Option Int) : Page := of (limit.getD defaultLimit) (offset.getD 0)

def slice (p : Page) (xs : List α) : List α := (xs.drop p.offset).take p.limit

end Page
end Purse
