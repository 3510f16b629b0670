/-!
# Per-client rate limits

A token bucket per client of at most `burst` tokens refilled at `perMinute` a minute; a refused
request learns the seconds until its next token.
-/

namespace RowGate.Http

/-- A client's bucket: its level in sixty-thousandths of a token, at an instant. -/
structure Bucket where
  level : Int
  since : Nat
deriving Repr, Inhabited

/-- The buckets of the clients under one limit. -/
structure Limiter where
  perMinute : Int
  burst : Int
  buckets : List (String × Bucket) := []
deriving Repr, Inhabited

/-- The outcome of a request under a limit. -/
inductive Reservation where
  /-- No limit applies. -/
  | unlimited
  /-- Admitted, with the whole tokens left and the limit's burst. -/
  | granted (left burst : Nat)
  /-- Refused; a token is there after this many seconds. -/
  | refused (retryAfter : Nat)
deriving DecidableEq, Repr

namespace Limiter

def unit : Int := 60000

def new (perMinute burst : Int) : Limiter :=
  { perMinute, burst := if burst ≤ 0 then perMinute else burst }

def levelAt (l : Limiter) (client : String) (now : Nat) : Int :=
  match l.buckets.find? (·.1 == client) with
  | none => l.burst * unit
  | some (_, b) => min (l.burst * unit) (b.level + (now - b.since : Nat) * l.perMinute)

def setBucket (l : Limiter) (client : String) (b : Bucket) : Limiter :=
  { l with buckets := (l.buckets.filter (·.1 != client)) ++ [(client, b)] }

/-- Takes a token for a client's request at an instant. -/
def reserve (l : Limiter) (client : String) (now : Nat) : Reservation × Limiter :=
  if l.perMinute ≤ 0 then (.unlimited, l)
  else
    let level := l.levelAt client now
    let after := level - unit
    if after < 0 then
      let rate := 1000 * l.perMinute
      (.refused ((-after + rate - 1) / rate).toNat, l.setBucket client ⟨level, now⟩)
    else (.granted (after / unit).toNat l.burst.toNat, l.setBucket client ⟨after, now⟩)

end Limiter

end RowGate.Http
