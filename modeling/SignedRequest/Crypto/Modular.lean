/-!
Powers and inverses modulo a number.
-/

namespace SignedRequest.Modular

/-- `base ^ exponent % m`, by repeated squaring. -/
def power (m base exponent : Nat) : Nat :=
  if exponent = 0 then 1 % m
  else
    let rest := power m (base * base % m) (exponent / 2)
    if exponent % 2 = 1 then rest * base % m else rest
termination_by exponent

/-- The inverse modulo a prime, by Fermat. -/
def inverse (prime n : Nat) : Nat := power prime n (prime - 2)

def sub (m a b : Nat) : Nat := (a % m + (m - b % m)) % m

end SignedRequest.Modular
