import IdentityLifecycle.Json.Print
import IdentityLifecycle.Json.Read
import IdentityLifecycle.Store.Database

/-!
The text in which a database is kept in a file: a JSON object with a member for each table.
-/
namespace IdentityLifecycle

namespace Snapshot

def writeInteger (n : Int64) : Json :=
  .number (if n < 0 then .negative n else .natural (UInt64.ofNat n.toInt.toNat))

def readInteger : Json → Option Int64
  | .number (.natural n) => int64OfInt n.toNat
  | .number (.negative n) => some n
  | _ => none

def readText : Json → Option String
  | .string s => some s
  | _ => none

def writeBytes (bytes : Bytes) : Json := .string (hexText bytes)

def readBytes (value : Json) : Option Bytes := (readText value).bind fun s => bytesOfHex s.toList

def writeCell : Cell → Json
  | .null => .null
  | .integer n => writeInteger n
  | .real x => .object [("real", .string x.toText)]
  | .text s => .string s
  | .blob b => .object [("blob", writeBytes b)]

def readCell : Json → Option Cell
  | .null => some .null
  | .string s => some (.text s)
  | .object [("real", .string s)] => (Numeral.ofChars s.toList).map fun n => .real n.toBinary64
  | .object [("blob", value)] => (readBytes value).map .blob
  | value => (readInteger value).map .integer

def writeUser (row : UserRow) : Json :=
  .array [writeCell row.id, writeCell row.email, writeCell row.name, writeBytes row.password.hash,
    writeBytes row.password.salt, writeCell row.verifiedAt]

def readUser : Json → Option UserRow
  | .array [id, email, name, hash, salt, verifiedAt] => do
    let password : HashedPassword := { hash := ← readBytes hash, salt := ← readBytes salt }
    return {
      id := ← readCell id, email := ← readCell email, name := ← readCell name, password
      verifiedAt := ← readCell verifiedAt }
  | _ => none

def writeToken (row : TokenRow) : Json :=
  .array [writeCell row.value, .string row.type, writeCell row.email, writeCell row.expiresAt]

def readToken : Json → Option TokenRow
  | .array [value, .string type, email, expiresAt] => do
    return {
      value := ← readCell value, type, email := ← readCell email
      expiresAt := ← readCell expiresAt }
  | _ => none

def writeHistory (row : HistoryRow) : Json :=
  .array [writeInteger row.version, .string row.description]

def readHistory : Json → Option HistoryRow
  | .array [version, .string description] => do
    return { version := ← readInteger version, description }
  | _ => none

def writeList {α : Type} (write : α → Json) (rows : List α) : Json := .array (rows.map write)

def readList {α : Type} (read : Json → Option α) : Json → Option (List α)
  | .array items => items.mapM read
  | _ => none

def writeTable {α : Type} (write : α → Json) : Option (List α) → Json
  | none => .null
  | some rows => writeList write rows

def readTable {α : Type} (read : Json → Option α) : Json → Option (Option (List α))
  | .null => some none
  | value => (readList read value).map some

def writeOther (table : String × List Int64) : Json :=
  .array [.string table.1, writeList writeInteger table.2]

def readOther : Json → Option (String × List Int64)
  | .array [.string name, rows] => (readList readInteger rows).map (name, ·)
  | _ => none

def writeIndex (index : String × String) : Json := .array [.string index.1, .string index.2]

def readIndex : Json → Option (String × String)
  | .array [.string name, .string table] => some (name, table)
  | _ => none

end Snapshot

namespace Database

open Snapshot

def toSnapshot (db : Database) : String :=
  String.ofList (Json.object [
    ("users", writeTable writeUser db.users), ("tokens", writeTable writeToken db.tokens),
    ("history", writeTable writeHistory db.history), ("historyKeyed", .bool db.historyKeyed),
    ("others", writeList writeOther db.others),
    ("referring", writeList .string db.referring),
    ("indexes", writeList writeIndex db.indexes)]).text

def ofSnapshot (s : String) : Option Database :=
  match Json.ofText s with
  | some (.object [("users", users), ("tokens", tokens), ("history", history),
      ("historyKeyed", .bool historyKeyed), ("others", others), ("referring", referring),
      ("indexes", indexes)]) => do
    return {
      users := ← readTable readUser users, tokens := ← readTable readToken tokens
      history := ← readTable readHistory history, historyKeyed
      others := ← readList readOther others, referring := ← readList readText referring
      indexes := ← readList readIndex indexes }
  | _ => none

end Database

end IdentityLifecycle
