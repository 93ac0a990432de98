/-!
# Identifiers

Entities without a primary key and models receive generated identifiers. They are drawn from a supply that
never gives the same one twice, nor one of another supply, and have the form of random UUIDs.
-/

set_option autoImplicit false

namespace RecordSync

inductive IdPurpose where
  | key
  | model
  deriving DecidableEq, Repr

structure IdSupply where
  purpose : IdPurpose
  drawn : Nat

namespace IdSupply

def keys : IdSupply := ⟨.key, 0⟩

def models : IdSupply := ⟨.model, 0⟩

def leader : IdPurpose → String
  | .key => "6f0d5ad2-41c7-4b3e-9a86-"
  | .model => "b9e41f07-d25a-4c98-8f13-"

def text (purpose : IdPurpose) (number : Nat) : String :=
  let digits := Nat.toDigits 16 number
  leader purpose ++ String.ofList (List.replicate (12 - digits.length) '0' ++ digits)

def next (supply : IdSupply) : String × IdSupply :=
  (text supply.purpose supply.drawn, { supply with drawn := supply.drawn + 1 })

end IdSupply

end RecordSync
