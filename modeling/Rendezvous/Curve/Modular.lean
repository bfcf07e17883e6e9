namespace Rendezvous.Curve

def power (m b e : Nat) : Nat :=
  if e = 0 then 1 % m
  else
    let half := power m (b * b % m) (e / 2)
    if e % 2 = 1 then b * half % m else half
termination_by e

def inverse (m a : Nat) : Nat := power m a (m - 2)

def subtract (m a b : Nat) : Nat := (a + (m - b)) % m

end Rendezvous.Curve
