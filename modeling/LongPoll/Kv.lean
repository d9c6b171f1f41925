import LongPoll.Json.Decode
import LongPoll.Text.Base64
import LongPoll.Text.Pieces
import LongPoll.Text.Utf8

/-!
Entries of the key/value store, and the keys that a watch of a subtree gives them.
-/

namespace LongPoll.Kv

open LongPoll.Text

/-- One entry of the store. -/
structure Entry where
  /-- The full key. -/
  key : String
  /-- The stored bytes; a folder has none. -/
  value : Option (List UInt8)
  createIndex : UInt64
  modifyIndex : UInt64
  lockIndex : UInt64
  flags : UInt64
  /-- The session that holds the lock. -/
  session : Option String
  deriving DecidableEq, Repr

namespace Entry

def text (e : Entry) : Option String := e.value.map Utf8.decodeLossyString

/-- Read stored bytes, which are written in Base64. -/
def bytes? (j : Json) : Option (List UInt8) := do Base64.decode? (← j.text?).toList

def fieldNames : List String :=
  ["Key", "Value", "CreateIndex", "ModifyIndex", "LockIndex", "Flags", "Session"]

/-- Read an entry. Only the key has to be there. -/
def ofJson? (j : Json) : Option Entry := do
  match ← j.slots? fieldNames with
  | [key, value, createIndex, modifyIndex, lockIndex, flags, session] =>
    return {
      key := ← Json.required? Json.text? key
      value := ← Json.defaulted? none (Json.nullable? none fun j => (bytes? j).map some) value
      createIndex := ← Json.defaulted? 0 Json.counter? createIndex
      modifyIndex := ← Json.defaulted? 0 Json.counter? modifyIndex
      lockIndex := ← Json.defaulted? 0 Json.counter? lockIndex
      flags := ← Json.defaulted? 0 Json.counter? flags
      session := ← Json.defaulted? none (Json.nullable? none fun j => (Json.text? j).map some)
        session }
  | _ => none

end Entry

/-- The root of a subtree as the store knows it, without slashes in front. -/
def normalizeRoot (root : String) : String :=
  String.ofList (root.toList.dropWhile (· == '/'))

/-- The part of a root up to and including its last slash; empty if it has none. -/
def directory (root : List Char) : List Char :=
  (root.reverse.dropWhile (· != '/')).reverse

/-- The key of an entry below a root: what follows the directory of the root. The root itself has
the empty key if it lies in a directory, and a key outside the directory stays as it is. -/
def relativeKey (root key : List Char) : List Char :=
  let dir := directory root
  if dir = [] then key
  else if key = root then []
  else if dir.isPrefixOf key then key.drop dir.length
  else key

/-- The same on strings. -/
def relativeKeyString (root key : String) : String :=
  String.ofList (relativeKey root.toList key.toList)

/-- The path segments of the request for a subtree. -/
def segments (root : String) : List String :=
  ["v1", "kv"] ++ (piecesAt '/' root.toList).map String.ofList

end LongPoll.Kv
