import Guiying.Foundation.Decimal

/-!
# Errors of the store

The failures the modelled operations answer with. A failure of SQLite itself is
one value: nothing depends on what it says.
-/

namespace Guiying.Store

open Guiying.Foundation

inductive StoreError where
  | invalidInput (field reason : String)
  | concurrencyConflict (entity : String) (id : Int)
  | idempotencyConflict (entity key : String)
  | migrationHistoryMismatch (details : String)
  | writeTransactionPoisoned
  | databaseIdentityChanged
  | sqlite
  deriving DecidableEq, Repr

abbrev Result (α : Type) := Except StoreError α

def maxIdentifierBytes : Nat := 1024

/-- A control character: general category Cc. -/
def isControl (character : Char) : Bool :=
  character.toNat < 0x20 || (0x7F ≤ character.toNat && character.toNat ≤ 0x9F)

def validateModelIdentifier (field value : String) : Result Unit :=
  if value = "" ∨ ¬ Decimal.trimmed value.toList then
    .error (.invalidInput field "identifier must be non-empty and have no surrounding whitespace")
  else if Decimal.byteLength value.toList > maxIdentifierBytes ∨ value.toList.any isControl then
    .error (.invalidInput field "identifier is too large or contains control characters")
  else .ok ()

end Guiying.Store
