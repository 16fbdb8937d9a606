import RecordStore.Base64
import RecordStore.Container.Basic
import RecordStore.Container.Document

/-!
# Tables in a file

The container that keeps its tables as a document in a file. Every operation takes the lock of the
container, reads the whole file and, where there is something to change, writes the whole file. So
several containers can work on one file as long as they share a lock. An operation that dies while
it holds a lock leaves the lock poisoned, and no later operation gets past it.

Payloads become strings of the document in one of two ways: in Base64, or as they are when they
are text.
-/

namespace RecordStore

/-- How payloads are written as strings. -/
inductive PayloadEncoding
  | base64
  | text
  deriving DecidableEq, Repr

namespace PayloadEncoding

/-- The string for a payload, or the reason why there is none. -/
def encode : PayloadEncoding → Bytes → Except String String
  | .base64, payload => .ok (Base64.encode payload)
  | .text, payload => (Text.decode payload).mapError Text.Utf8Fault.message

/-- The payload in a string, or the reason why there is none. -/
def decode : PayloadEncoding → String → Except String Bytes
  | .base64, stored => (Base64.decode stored).mapError Base64.Fault.message
  | .text, stored => .ok (Text.utf8 stored)

end PayloadEncoding

/-- Where and how a container keeps its tables. -/
structure FileConfig where
  /-- The path of the file. -/
  path : String
  /-- Whether the file is created when there is none. -/
  createIfMissing : Bool := true
  /-- How payloads are written. -/
  encoding : PayloadEncoding := .base64
  deriving DecidableEq, Repr

/-- The files and the locks that containers work with. -/
structure Disk where
  /-- The files. -/
  files : FileTree
  /-- The locks that are poisoned. -/
  poisoned : Nat → Bool

/-- **A container in a file**: how it works, and the lock that it takes. -/
structure FileContainer where
  config : FileConfig
  /-- The number of the lock. -/
  lock : Nat
  deriving DecidableEq, Repr

namespace FileContainer

/-- Makes sure that the lock can be taken. -/
def acquire (c : FileContainer) : StoreM Disk Unit := do
  if (← get).poisoned c.lock then throw .lockPoisoned

/-- The document in the file. Without a file there are no tables. -/
def readDocument (c : FileContainer) : StoreM Disk Document := do
  match (← get).files.read c.config.path with
  | .error .notFound => return .empty
  | .error fault => throw (.io fault)
  | .ok bytes =>
    match Document.ofBytes bytes with
    | .error fault => throw (.document fault)
    | .ok document => return document

/-- Makes sure that there is a file, or that one may be created. -/
def ensureWritable (c : FileContainer) : StoreM Disk Unit := do
  if !(c.config.createIfMissing || (← get).files.holds c.config.path) then
    throw (.missingDocument c.config.path)

/-- Writes a document to the file. -/
def writeDocument (c : FileContainer) (document : Document) : StoreM Disk Unit := do
  c.ensureWritable
  let disk ← get
  match disk.files.write c.config.path document.toBytes with
  | .error fault => throw (.io fault)
  | .ok files => set { disk with files }

/-- The string for the payload of an entry. -/
def encodePayload (c : FileContainer) (table key : String) (payload : Bytes) :
    Except StoreError String :=
  (c.config.encoding.encode payload).mapError (.invalidPayload table key)

/-- The payload in the string of an entry. -/
def decodePayload (c : FileContainer) (table key stored : String) : Except StoreError Bytes :=
  (c.config.encoding.decode stored).mapError (.invalidPayload table key)

/-- Creates a table unless it exists. The document is written in either case. -/
def init (c : FileContainer) (table : String) : StoreM Disk Unit := do
  c.acquire
  c.ensureWritable
  let document ← c.readDocument
  c.writeDocument (document.withTable table)

/-- The entries of a table. -/
def select (c : FileContainer) (table : String) : StoreM Disk Table := do
  c.acquire
  let document ← c.readDocument
  StoreM.ofExcept ((document.table table).mapM (c.decodePayload table))

/-- Adds an entry to a table, which is created if need be, unless the key is taken. -/
def insert (c : FileContainer) (table key : String) (payload : Bytes) : StoreM Disk Unit := do
  c.acquire
  let document ← c.readDocument
  let entries := document.table table
  if entries.contains key then throw (.duplicateKey table key)
  let stored ← StoreM.ofExcept (c.encodePayload table key payload)
  c.writeDocument (document.insert table (entries.insert key stored))

/-- Removes an entry and tells whether there was one. The document is written only if so. -/
def delete (c : FileContainer) (table key : String) : StoreM Disk Bool := do
  c.acquire
  let document ← c.readDocument
  match document.get? table with
  | none => return false
  | some entries =>
    if entries.contains key then
      c.writeDocument (document.insert table (entries.erase key))
      return true
    else return false

/-- **The operations of a container in a file.** -/
def container (c : FileContainer) : Container Disk where
  name := "FileContainer"
  init := c.init
  select := c.select
  insert := c.insert
  delete := c.delete

end FileContainer

end RecordStore
