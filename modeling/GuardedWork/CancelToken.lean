namespace GuardedWork

-- The flags, and for each token the place of its flag.
structure Tokens where
  flags : List Bool
  places : List Nat
deriving DecidableEq, Repr

namespace Tokens

inductive Action where
  | create
  | clone (token : Nat)
  | cancel (token : Nat)
  | look
deriving DecidableEq, Repr

def one : Tokens := ⟨[false], [0]⟩

-- Tokens are counted around.
def place (t : Tokens) (token : Nat) : Nat := t.places.getD (token % t.places.length) 0

def act : Action → Tokens → Tokens
  | .create, t => ⟨t.flags ++ [false], t.places ++ [t.flags.length]⟩
  | .clone i, t => { t with places := t.places ++ [t.place i] }
  | .cancel i, t => { t with flags := t.flags.set (t.place i) true }
  | .look, t => t

def cancelled (t : Tokens) : List Bool := t.places.map fun p => t.flags.getD p false

end Tokens
end GuardedWork
