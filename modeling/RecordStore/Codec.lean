import RecordStore.Container.Basic
import RecordStore.Json.Convert

/-!
# Payloads

Values are stored as the bytes of their JSON text. A table is read entry by entry in ascending
order of the keys, and the first entry that holds no value of the type asked for fails the whole.
-/

namespace RecordStore.Codec

open Json

/-- **The payload of a value.** -/
def encode {α : Type} [Writable α] (a : α) : Except StoreError Bytes :=
  match Writable.encode a with
  | .ok text => .ok (Text.utf8 (String.ofList text))
  | .error fault => .error (.encode fault)

/-- **The value in the payload of an entry.** -/
def decode (α : Type) [Readable α] (table key : String) (payload : Bytes) : Except StoreError α :=
  (Json.parse α payload).mapError (.decode table key)

/-- The values in some entries of a table. -/
def decodeEntries (α : Type) [Readable α] (table : String) :
    List (String × Bytes) → Except StoreError (List α)
  | [] => .ok []
  | (key, payload) :: rest => do
    let a ← decode α table key payload
    let more ← decodeEntries α table rest
    return a :: more

/-- The values in a table, in ascending order of the keys. -/
def decodeTable (α : Type) [Readable α] (table : String) (entries : Table) :
    Except StoreError (List α) :=
  decodeEntries α table entries.entries

end RecordStore.Codec
