import LayerCode.Digest
import LayerCode.Journal
import LayerCode.Result

/-!
# Results that were generated before

A cache hands out copies of the results that it holds, and holds copies of those it was given. A copy
has a list of the code of nodes also when its source has none.

* `Cache.key`: what a request is remembered by, its target and the digest of its snapshot;
* `Result.copy`: a copy of a result;
* `Cache`, `Cache.get`, `Cache.put`, `Cache.size`.
-/

namespace LayerCode

/-- A copy of a result. -/
def Result.copy (r : Result) : Result := { r with artifacts := some r.parts }

/-- Results by key. -/
structure Cache where
  entries : List (String × Result) := []
deriving DecidableEq, Repr

namespace Cache

/-- The key of a snapshot for a target. -/
def key (backend : String) (snapshot : List UInt8) : String :=
  backend ++ ":" ++ Digest.hex (Digest.ofBytes snapshot)

/-- A copy of the result with a key. -/
def find? (c : Cache) (k : String) : Option Result := (c.entries.lookup k).map Result.copy

/-- The result with a key, counted as a hit or a miss. -/
def get (c : Cache) (k : String) : Option Result × Journal :=
  match c.find? k with
  | some r => (some r, .count .cacheHits)
  | none => (none, .count .cacheMisses)

/-- The cache with a result for a key, in place of an earlier one. -/
def put (c : Cache) (k : String) (r : Result) : Cache :=
  ⟨(k, r.copy) :: c.entries.filter fun e => e.1 != k⟩

/-- The number of results. -/
def size (c : Cache) : Nat := c.entries.length

end Cache

end LayerCode
