import DeviceFleet.Text.Cut
import DeviceFleet.Text.Decimal
import DeviceFleet.Text.Percent
import DeviceFleet.Text.Utf8

/-!
Queries: pairs between ampersands, encoded as forms are. A listing knows two names, each of which
may be given once; other names are passed over.
-/

namespace DeviceFleet.Http

/-- Bytes that are no UTF-8 are replaced. -/
def decodeForm (s : List Char) : String :=
  Text.Utf8.decodeLossy (Text.Percent.decodeForm (Text.Utf8.bytes (String.ofList s)))

/-- A name and its value; without an equals sign the value is empty. -/
def readPair (s : List Char) : String × String :=
  match Text.cutFirst '=' s with
  | some (name, value) => (decodeForm name, decodeForm value)
  | none => (decodeForm s, "")

def queryPairs (query : String) : List (String × String) :=
  ((Text.segments '&' query.toList).filter (· ≠ [])).map readPair

structure ListParams where
  pageToken : Option String
  pageSize : Option Nat
  deriving DecidableEq, Repr

inductive QueryFlaw
  | repeated (name : String)
  | pageSize (reason : Text.Decimal.Flaw)
  deriving DecidableEq, Repr

def QueryFlaw.message : QueryFlaw → String
  | .repeated name => "Failed to deserialize query string: duplicate field `" ++ name ++ "`"
  | .pageSize reason => "Failed to deserialize query string: page_size: " ++ reason.message

namespace ListParams

def add (p : ListParams) (pair : String × String) : Except QueryFlaw ListParams :=
  if pair.1 = "page_token" then
    if p.pageToken.isSome then .error (.repeated pair.1)
    else .ok { p with pageToken := some pair.2 }
  else if pair.1 = "page_size" then
    if p.pageSize.isSome then .error (.repeated pair.1)
    else match Text.Decimal.readCount pair.2.toList with
      | .ok n => .ok { p with pageSize := some n }
      | .error reason => .error (.pageSize reason)
  else .ok p

def parse (query : String) : Except QueryFlaw ListParams :=
  (queryPairs query).foldlM add ⟨none, none⟩

/-- An empty token asks for the first page. -/
def token? (p : ListParams) : Option String := p.pageToken.filter (!·.isEmpty)

def size (p : ListParams) : Nat := p.pageSize.getD 0

end ListParams

end DeviceFleet.Http
