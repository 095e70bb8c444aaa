import EtlSurvey.Json.Record
import EtlSurvey.Text.Basic
import EtlSurvey.Text.FileName

/-! Kinds of connection managers. -/

namespace EtlSurvey
open Text Json

inductive ConnectionKind where
  | oledb
  | adoNet
  | flatFile
  | warehouse
  | file
  | http
  | ftp
  | smtp
  /-- A creation name outside the table. -/
  | unsupported (raw : String)
  deriving DecidableEq, Repr, Inhabited

namespace ConnectionKind

/-- Kind of a creation name, of which the part before the first colon counts. Without a creation
name the designer means OLE DB. -/
def ofCreationName (creationName : Option String) : ConnectionKind :=
  match creationName.bind trimmed? with
  | none => oledb
  | some raw =>
    match asciiUpper (String.ofList (raw.toList.takeWhile (· != ':'))) with
    | "OLEDB" => oledb
    | "ADO.NET" | "ADONET" | "SQLCLIENT" => adoNet
    | "FLATFILE" | "MULTIFLATFILE" => flatFile
    | "SNOWFLAKE" | "ODBC" => warehouse
    | "FILE" | "MULTIFILE" => file
    | "HTTP" => http
    | "FTP" => ftp
    | "SMTP" | "SMTPSERVER" => smtp
    | _ => unsupported raw

/-- Relational connections always carry credentials. -/
def isRelational : ConnectionKind → Bool
  | oledb | adoNet | warehouse => true
  | _ => false

/-- Connections that targets support only in part. -/
def hasLimitedSupport : ConnectionKind → Bool
  | http | ftp | smtp | unsupported _ => true
  | _ => false

def cases : List (String × ConnectionKind) := [
  ("oledb", oledb), ("ado_net", adoNet), ("flat_file", flatFile), ("warehouse", warehouse),
  ("file", file), ("http", http), ("ftp", ftp), ("smtp", smtp)]

def toJson : ConnectionKind → Value
  | oledb => .text "oledb"
  | adoNet => .text "ado_net"
  | flatFile => .text "flat_file"
  | warehouse => .text "warehouse"
  | file => .text "file"
  | http => .text "http"
  | ftp => .text "ftp"
  | smtp => .text "smtp"
  | unsupported raw => unsupportedJson raw

def ofJson? : Value → Option ConnectionKind := openCaseOf? cases unsupported

end ConnectionKind
end EtlSurvey
