import OrderDesk.Json.Wire
import OrderDesk.Store.Stocks

/-!
# Seed files

A file with rows to put into the stock when the desk opens: an array of records, one for each
article. A file that names an article twice, or that promises more units than are held, is
refused as a whole.
-/

namespace OrderDesk

/-- A record of a seed file. -/
structure SeedRecord where
  sku : UInt32
  total : UInt32
  reserved : UInt32
  deriving DecidableEq, Repr

instance : Wire SeedRecord where
  shape := .record false [("sku", Wire.shape UInt32), ("total_count", Wire.shape UInt32),
    ("reserved", Wire.shape UInt32)]
  toJson record := .object [("sku", Wire.toJson record.sku),
    ("total_count", Wire.toJson record.total), ("reserved", Wire.toJson record.reserved)]
  ofJson? document := do
    let sku ← Wire.field? document "sku"
    let total ← Wire.field? document "total_count"
    let reserved ← Wire.field? document "reserved"
    some ⟨sku, total, reserved⟩

/-- Why a seed file is not loaded. -/
inductive SeedError where
  /-- The file is not there or is no text. -/
  | unreadable (path : String)
  /-- The text is no list of records. -/
  | malformed
  | reservedExceedsTotal (sku : Sku) (reserved total : UInt32)
  | duplicate (sku : Sku)
  /-- The storage did not take the rows. -/
  | store (error : Error)
  deriving DecidableEq, Repr

/-- The wording of a seed error. -/
def SeedError.message : SeedError → String
  | unreadable path => s!"failed to read stock seed {path}"
  | malformed => "malformed stock seed"
  | reservedExceedsTotal sku reserved total =>
    s!"sku {sku}: reserved {reserved} exceeds total {total}"
  | duplicate sku => s!"sku {sku} appears more than once"
  | store error => error.message

namespace SeedFile

/-- The row of a record, given the articles of the records before it. -/
def row (seen : List Sku) (record : SeedRecord) : Except SeedError Stock :=
  if seen.contains ⟨record.sku⟩ then .error (.duplicate ⟨record.sku⟩)
  else
    match Stock.checked ⟨record.sku⟩ record.total record.reserved with
    | .error _ => .error (.reservedExceedsTotal ⟨record.sku⟩ record.reserved record.total)
    | .ok stock => .ok stock

/-- The rows of records, up to the first that is not in order. -/
def rowsAfter (seen : List Sku) : List SeedRecord → Except SeedError (List Stock)
  | [] => .ok []
  | record :: rest =>
    match row seen record with
    | .error error => .error error
    | .ok stock =>
      match rowsAfter (⟨record.sku⟩ :: seen) rest with
      | .error error => .error error
      | .ok stocks => .ok (stock :: stocks)

/-- The rows of the records of a file. -/
def rows (records : List SeedRecord) : Except SeedError (List Stock) := rowsAfter [] records

/-- The rows that the text of a file holds. -/
def parse (text : String) : Except SeedError (List Stock) :=
  match Wire.read (List SeedRecord) (Utf8.encode text) with
  | .error _ => .error .malformed
  | .ok records => rows records

/-- The rows that a file holds; nothing stands for a file that is not there. -/
def read (path : String) (content : Option (List UInt8)) : Except SeedError (List Stock) :=
  match content.map Utf8.decode with
  | some (.ok chars) => parse (String.ofList chars)
  | _ => .error (.unreadable path)

end SeedFile

/-- Puts the rows of a seed file into the stock. The answer is the number of rows. -/
def Cluster.loadSeed (cluster : Cluster) (path : String) (content : Option (List UInt8)) :
    Except SeedError Nat × Cluster :=
  match SeedFile.read path content with
  | .error error => (.error error, cluster)
  | .ok stocks =>
    match cluster.upsertStock stocks with
    | (.error error, cluster) => (.error (.store error), cluster)
    | (.ok (), cluster) => (.ok stocks.length, cluster)

end OrderDesk
